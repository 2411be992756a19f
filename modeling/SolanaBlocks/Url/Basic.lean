import SolanaBlocks.Text.Table

/-!
# Addresses

An absolute URL in its parts, and its written form. Some schemes are special: their addresses always
have a host, and a backslash counts as a slash in them.
-/

namespace SolanaBlocks

/-- The path of an address: one text that is not divided, or segments, each with a slash before
it. -/
inductive UrlPath where
  | whole (text : List Char)
  | segments (list : List (List Char))
deriving DecidableEq, Repr

/-- An absolute URL in its parts, each as it is written. The host is `none` where there is no
authority at all, and empty where it is left out after two slashes. -/
structure Url where
  scheme : List Char
  username : List Char := []
  password : List Char := []
  host : Option (List Char) := none
  portNumber : Option Nat := none
  path : UrlPath := .segments []
  query : Option (List Char) := none
  fragment : Option (List Char) := none
deriving DecidableEq, Repr

namespace Url

/-- The `portNumber` that goes without saying for a scheme. -/
def standardPort? (scheme : List Char) : Option Nat :=
  match String.ofList scheme with
  | "http" | "ws" => some 80
  | "https" | "wss" => some 443
  | "ftp" => some 21
  | _ => none

/-- The special schemes. -/
def isSpecial (scheme : List Char) : Bool :=
  (standardPort? scheme).isSome || String.ofList scheme == "file"

/-! ## Escapes -/

/-- A byte as an escape. -/
def escapeByte (byte : UInt8) : List Char :=
  let digit (n : Nat) : Char := (Nat.digitChar n).toUpper
  ['%', digit (byte.toNat / 16), digit (byte.toNat % 16)]

/-- Escapes all characters of a class, and everything beyond ASCII. -/
def escape (needsEscape : Char → Bool) (cs : List Char) : List Char :=
  cs.flatMap fun c =>
    if needsEscape c || 0x7F ≤ c.toNat then (String.singleton c).toUTF8.toList.flatMap escapeByte
    else [c]

/-- The bytes of a text in which escapes are resolved. -/
def unescape : List Char → List UInt8
  | [] => []
  | '%' :: a :: b :: cs =>
    match Text.hexValue? a, Text.hexValue? b with
    | some high, some low => UInt8.ofNat (16 * high + low) :: unescape cs
    | _, _ => 0x25 :: unescape (a :: b :: cs)
  | c :: cs => (String.singleton c).toUTF8.toList ++ unescape cs

/-- A text in which escapes are resolved, if its bytes make one. -/
def unescaped? (cs : List Char) : Option (List Char) :=
  (String.fromUTF8? ⟨(unescape cs).toArray⟩).map String.toList

/-- Control characters. -/
def isControl (c : Char) : Bool := c.toNat < 0x20 || c.toNat == 0x7F

/-- What is escaped in a fragment. -/
def escapedInFragment (c : Char) : Bool := isControl c || " \"<>`".contains c

/-- What is escaped in a path. -/
def escapedInPath (c : Char) : Bool := escapedInFragment c || "#?\x7b\x7d".contains c

/-- What is escaped in a user name or password. -/
def escapedInUser (c : Char) : Bool := escapedInPath c || "/:;=@[\\]^|".contains c

/-- What is escaped in a query. -/
def escapedInQuery (special : Bool) (c : Char) : Bool :=
  isControl c || " \"#<>".contains c || (special && c == '\'')

/-! ## The written form -/

/-- The user name and password as they stand before the host. -/
def writeUser (url : Url) : List Char :=
  if url.username.isEmpty && url.password.isEmpty then []
  else
    url.username ++ (if url.password.isEmpty then [] else ':' :: url.password) ++ ['@']

/-- The written form of the path. -/
def writePath : UrlPath → List Char
  | .whole text => text
  | .segments list => list.flatMap ('/' :: ·)

/-- What stands before a path that would read as a host otherwise. -/
def pathGuard : UrlPath → List Char
  | .segments ([] :: _ :: _) => ['/', '.']
  | _ => []

/-- The written form of an address. -/
def write (url : Url) : String :=
  String.ofList <|
    url.scheme ++ ':' ::
      (match url.host with
        | none => pathGuard url.path
        | some host =>
          '/' :: '/' :: writeUser url ++ host ++
            (match url.portNumber with
              | none => []
              | some n => ':' :: Nat.toDigits 10 n)) ++
      writePath url.path ++
      (url.query.elim [] ('?' :: ·)) ++ (url.fragment.elim [] ('#' :: ·))

/-- Whether the address names a host. -/
def hasHost (url : Url) : Bool :=
  url.host.any fun host => !host.isEmpty

/-- The address without user name and password, if these can be taken out of it: the name has to
make a text, and one of both has to make a text that says something. -/
def withoutUser (url : Url) : Url :=
  let hasPassword := !url.password.isEmpty && (unescaped? url.password).isSome
  match unescaped? url.username with
  | none => url
  | some name =>
    if name.isEmpty && !hasPassword then url else { url with username := [], password := [] }

end Url

end SolanaBlocks
