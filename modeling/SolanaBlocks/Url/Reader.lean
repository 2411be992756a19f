import SolanaBlocks.Decimal.Reading
import SolanaBlocks.Url.Host

/-!
# Reading addresses

The absolute URL that a text stands for, if it does. Blanks around it and line ends inside it do not
count. Segments of the path that mean the same directory or the one above are resolved.
-/

namespace SolanaBlocks.Url

/-- The text that counts: without control characters and spaces at its ends, and without tabs and
line ends. -/
def clean (cs : List Char) : List Char :=
  let isEdge (c : Char) : Bool := c.toNat ≤ 0x20
  ((cs.dropWhile isEdge).reverse.dropWhile isEdge).reverse.filter fun c =>
    !(c == '\t' || c == '\n' || c == '\r')

/-- The scheme, in small letters, and what follows its colon. -/
def cutScheme? (cs : List Char) : Option (List Char × List Char) :=
  let isSchemeChar (c : Char) : Bool := c.isAlphanum || "+-.".contains c
  match cs.dropWhile isSchemeChar with
  | ':' :: rest =>
    let scheme := cs.takeWhile isSchemeChar
    if scheme.head?.any Char.isAlpha then some (scheme.map Char.toLower, rest) else none
  | _ => none

/-- Whether a character ends the authority of an address. -/
def endsAuthority (special : Bool) (c : Char) : Bool :=
  c == '/' || c == '?' || c == '#' || (special && c == '\\')

/-- A text cut at the last place of a character, which belongs to neither part. -/
def cutLast? (separator : Char) (cs : List Char) : Option (List Char × List Char) :=
  match cs.reverse.dropWhile (· != separator) with
  | [] => none
  | _ :: before => some (before.reverse, (cs.reverse.takeWhile (· != separator)).reverse)

/-- A text cut at the first colon that is not between brackets. -/
def cutPort (inside : Bool) : List Char → List Char × Option (List Char)
  | [] => ([], none)
  | c :: cs =>
    if c = ':' ∧ !inside then ([], some cs)
    else
      let (host, number) := cutPort (if c = '[' then true else if c = ']' then false else inside) cs
      (c :: host, number)

/-- The `portNumber` that a text starts with, unless it goes without saying, and what follows it.
Only a backslash may. -/
def portNumber? (scheme cs : List Char) : Option (Option Nat × List Char) :=
  let digits := cs.takeWhile Char.isDigit
  let rest := cs.dropWhile Char.isDigit
  let n := Decimal.digitsValue 0 digits
  if rest.head?.any (· != '\\') || 0x10000 ≤ n then none
  else some (if digits.isEmpty || standardPort? scheme == some n then none else some n, rest)

/-- An address with its authority filled in: user and password, host, and `portNumber`. What is left
of the text after these belongs to the path. -/
def withAuthority? (url : Url) (special : Bool) (authority : List Char) :
    Option (Url × List Char) := do
  let (user, rest) := match cutLast? '@' authority with
    | some (user, rest) => (some user, rest)
    | none => (none, authority)
  let (hostText, portText) := cutPort false rest
  if hostText.isEmpty ∧ (special ∨ user.any (· ≠ [':']) ∨ portText.isSome) then none
  let host ← host? special hostText
  let (number, rest) ← portNumber? url.scheme (portText.getD [])
  let user := user.getD []
  return ({ url with
    username := escape escapedInUser (user.takeWhile (· != ':'))
    password := escape escapedInUser ((user.dropWhile (· != ':')).drop 1)
    host := some host
    portNumber := number }, rest)

/-! ## Paths -/

/-- Whether a segment means the same directory. -/
def isHere (segment : List Char) : Bool :=
  [".", "%2e"].contains (String.ofList (segment.map Char.toLower))

/-- Whether a segment means the directory above. -/
def isAbove (segment : List Char) : Bool :=
  ["..", ".%2e", "%2e.", "%2e%2e"].contains (String.ofList (segment.map Char.toLower))

/-- Whether a segment is a letter and a colon or bar, which names a drive. -/
def isDrive : List Char → Bool
  | [letter, mark] => letter.isAlpha && (mark == ':' || mark == '|')
  | _ => false

/-- Whether a segment stays when the directory above it is meant: it names a drive, and at most a
backslash and something after it follow. -/
def isFixed (segment : List Char) : Bool :=
  isDrive (segment.take 2) && (segment.drop 2).head?.all (· == '\\')

/-- A drive as it is written, with a colon. -/
def drive (segment : List Char) : List Char := segment.take 1 ++ [':']

/-- The segments of a path after those in `done`, which are in reverse. A path that ends in a
resolved segment ends in a slash. In an address of a file the first segment may be a drive. -/
def resolve (ofFile : Bool) (done : List (List Char)) : List (List Char) → List (List Char)
  | [] => done.reverse
  | segment :: rest =>
    let last := rest.isEmpty
    if isAbove segment then
      let done := if done.head?.any isFixed then done else done.drop 1
      resolve ofFile (if last then [] :: done else done) rest
    else if isHere segment then resolve ofFile (if last then [] :: done else done) rest
    else if ofFile && done.isEmpty && isDrive segment then resolve ofFile [drive segment] rest
    else resolve ofFile (escape escapedInPath segment :: done) rest

/-- The parts of a path between slashes. In a special scheme a backslash is a slash. -/
def pathParts (special : Bool) (cs : List Char) : List (List Char) :=
  Text.splitOn '/' (if special then cs.map fun c => if c == '\\' then '/' else c else cs)

/-- Whether a character is a slash in a special scheme. -/
def isSlash (c : Char) : Bool := c == '/' || c == '\\'

/-- The text behind the slash that it starts with, if it does. -/
def afterSlash (special : Bool) : List Char → List Char
  | [] => []
  | c :: cs => if c == '/' || (special && c == '\\') then cs else c :: cs

/-- The segments of a path. In a special scheme there is at least one. -/
def segments (special : Bool) (cs : List Char) : List (List Char) :=
  if cs.isEmpty && !special then []
  else resolve false [] (pathParts special (afterSlash special cs))

/-- An address with query and fragment filled in, where `cs` starts with one of their marks or is
empty. -/
def withQuery (url : Url) (special : Bool) (cs : List Char) : Url :=
  let beforeFragment := cs.takeWhile (· != '#')
  { url with
    query := beforeFragment.head?.map fun _ =>
      escape (escapedInQuery special) (beforeFragment.drop 1)
    fragment := (cs.dropWhile (· != '#')).head?.map fun _ =>
      escape escapedInFragment ((cs.dropWhile (· != '#')).drop 1) }

/-- Whether a character ends a path. -/
def endsPath (c : Char) : Bool := c == '?' || c == '#'

/-- An address with everything after its authority filled in. -/
def withPath (url : Url) (special : Bool) (cs : List Char) : Url :=
  withQuery { url with path := .segments (segments special (cs.takeWhile fun c => !endsPath c)) }
    special (cs.dropWhile fun c => !endsPath c)

/-- An address of a scheme with an authority, which starts the text. -/
def readAuthority? (url : Url) (special : Bool) (cs : List Char) : Option Url := do
  let authority := cs.takeWhile fun c => !endsAuthority special c
  let (url, rest) ← withAuthority? url special authority
  return withPath url special (rest ++ cs.dropWhile fun c => !endsAuthority special c)

/-! ## Files -/

/-- Segments without the empty ones that they start with. -/
def withoutEmptyStart (segments : List (List Char)) : List (List Char) :=
  match segments.dropWhile List.isEmpty with
  | [] => [[]]
  | rest => rest

/-- The address of a file on a host, or on the own machine if that is empty. With a drive in front
the file is on the own machine. -/
def fileOn (url : Url) (host cs : List Char) : Url :=
  let segments := resolve true [] (pathParts true (cs.takeWhile fun c => !endsPath c))
  withQuery
    { url with
      host := some (if segments.head?.any isDrive then [] else host)
      path := .segments (withoutEmptyStart segments) }
    true (cs.dropWhile fun c => !endsPath c)

/-- The address of a file that starts with its host. The host may be left out, and the own machine
is no host; then the path starts with an empty segment. A drive is no host either. -/
def readFileHost? (url : Url) (cs : List Char) : Option Url := do
  let hostText := cs.takeWhile fun c => !endsAuthority true c
  let rest := cs.dropWhile fun c => !endsAuthority true c
  if isDrive hostText then return fileOn url [] cs
  else
    let host ← if hostText.isEmpty then some [] else specialHost? hostText
    if host.isEmpty || String.ofList host == "localhost" then return fileOn url [] rest
    else return fileOn url host (afterSlash true rest)

/-- The address of a file. -/
def readFile? (url : Url) (cs : List Char) : Option Url :=
  match cs with
  | a :: b :: rest =>
    if isSlash a && isSlash b then readFileHost? url rest
    else some (fileOn url [] (afterSlash true cs))
  | _ => some (fileOn url [] (afterSlash true cs))

/-- The address that a text stands for. -/
def read? (source : String) : Option Url := do
  let (scheme, rest) ← cutScheme? (clean source.toList)
  let url : Url := { scheme := scheme }
  if String.ofList scheme = "file" then readFile? url rest
  else if isSpecial scheme then
    readAuthority? url true (rest.dropWhile isSlash)
  else
    match rest with
    | '/' :: '/' :: rest => readAuthority? url false rest
    | '/' :: _ => return withPath url false rest
    | _ =>
      return withQuery
        { url with path := .whole (escape isControl (rest.takeWhile fun c => !endsPath c)) }
        false (rest.dropWhile fun c => !endsPath c)

end SolanaBlocks.Url
