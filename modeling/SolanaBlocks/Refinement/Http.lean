import SolanaBlocks.Refinement.Basic
import SolanaBlocks.Url.Reader

/-!
# The refinement service on the network

How the service is reached: its address, the key, the time limit and the headers. Before anything is
sent, the headers have to be fit for sending and the address has to be one on the web.
-/

namespace SolanaBlocks

/-- How the service is reached. -/
structure HttpSettings where
  endpoint : String
  key : Option String := none
  timeout : Nat := 60
  headers : List (String × String) := []
deriving DecidableEq, Repr

namespace HttpSettings

/-- Whether a text may be sent as a header: tabs and everything from the space up but the delete
character. -/
def isHeaderText (s : String) : Bool :=
  s.toList.all fun c => c == '\t' || (0x20 ≤ c.toNat && c.toNat != 0x7F)

/-- The failure over a header that cannot be sent. -/
def badHeader : RefinementError := .http "failed to parse header value"

/-- A header, if it can be sent. -/
def header (name value : String) : Except RefinementError (String × String) :=
  if isHeaderText value then .ok (name, value) else .error badHeader

/-- How the service is reached according to the settings. The key is looked up in the environment
and may not be blank. -/
def ofSettings (lookup : String → Option String) (settings : RefinementSettings) :
    Except RefinementError HttpSettings := do
  match (lookup settings.keyVariable).filter fun key => !Text.isAllBlank key with
  | none => throw (.missingApiKey settings.keyVariable)
  | some key =>
    let referer ← header "http-referer" settings.referer
    let title ← header "x-title" settings.title
    return { endpoint := settings.endpoint
             key := some key
             timeout := settings.timeout
             headers := [referer, title] }

/-- The address that requests are sent to. -/
def completionsUrl (settings : HttpSettings) : String :=
  String.ofList (settings.endpoint.toList.reverse.dropWhile (· == '/')).reverse ++
    "/chat/completions"

/-- The address of requests as failures name it, without user name and password. -/
def requestUrl (settings : HttpSettings) : String :=
  match Url.read? settings.completionsUrl with
  | none => settings.completionsUrl
  | some url => url.withoutUser.write

/-- The schemes of the web. -/
def isWebScheme (scheme : List Char) : Bool :=
  ["http", "https"].contains (String.ofList scheme)

/-- Why a request cannot even be sent, if it cannot: its key is no header, or its address is none on
the web. -/
def unsendable? (settings : HttpSettings) : Option RefinementError :=
  if settings.key.any fun key => !isHeaderText key then some badHeader
  else
    match Url.read? settings.completionsUrl with
    | none => some (.http "builder error")
    | some url =>
      if !url.hasHost then some (.http s!"builder error for url ({url.write})")
      else if isWebScheme url.scheme then none
      else some (.http s!"builder error for url ({url.withoutUser.write})")

end HttpSettings

end SolanaBlocks
