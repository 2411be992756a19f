import SolanaBlocks.Decimal.Layout

/-!
# JSON values and their written forms

A JSON value and two ways to write it: on one line without blanks, and over many lines with two
spaces for each level. Numbers are written with the fewest digits that read back; a float without a
finite value becomes `null`.
-/

namespace SolanaBlocks

/-- A JSON value. The entries of an object keep their order, and a key may come up again. -/
inductive Json where
  | null
  | bool (value : Bool)
  | integer (value : Int)
  | float (value : Float)
  | text (value : String)
  | array (items : List Json)
  | object (entries : List (String × Json))
deriving Inhabited

namespace Json

/-- A digit in base sixteen. -/
def hexDigit (n : Nat) : Char := Nat.digitChar n

/-- A character as it is written inside a string. Only the quote, the backslash and the control
characters need an escape. -/
def escapeChar (c : Char) : List Char :=
  if c = '"' then ['\\', '"']
  else if c = '\\' then ['\\', '\\']
  else if c.toNat = 8 then ['\\', 'b']
  else if c = '\t' then ['\\', 't']
  else if c = '\n' then ['\\', 'n']
  else if c.toNat = 12 then ['\\', 'f']
  else if c = '\r' then ['\\', 'r']
  else if c.toNat < 0x20 then
    ['\\', 'u', '0', '0', hexDigit (c.toNat / 16), hexDigit (c.toNat % 16)]
  else [c]

/-- A string with its quotes. -/
def writeText (s : String) : List Char :=
  '"' :: s.toList.flatMap escapeChar ++ ['"']

/-- The written form of a float. -/
def writeFloat (x : Float) : List Char :=
  ((Decimal.exchange? .double (.ofFloat x)).getD "null").toList

/-- The values that have no parts. -/
def writeLeaf : Json → List Char
  | null => "null".toList
  | bool true => "true".toList
  | bool false => "false".toList
  | integer n => (toString n).toList
  | float x => writeFloat x
  | text s => writeText s
  | array _ => ['[', ']']
  | object _ => ['\x7b', '\x7d']

/-! The writers are given what stands after the value, so that nothing written is copied again. -/

mutual

/-- The form on one line, before some text. -/
def writeLine (after : List Char) : Json → List Char
  | array (item :: rest) => '[' :: writeLine (writeLineItems (']' :: after) rest) item
  | object ((key, value) :: rest) =>
    '\x7b' :: writeText key ++ ':' :: writeLine (writeLineEntries ('\x7d' :: after) rest) value
  | leaf => writeLeaf leaf ++ after

/-- Items of an array on one line, each after a comma, before some text. -/
def writeLineItems (after : List Char) : List Json → List Char
  | [] => after
  | item :: rest => ',' :: writeLine (writeLineItems after rest) item

/-- Entries of an object on one line, each after a comma, before some text. -/
def writeLineEntries (after : List Char) : List (String × Json) → List Char
  | [] => after
  | (key, value) :: rest =>
    ',' :: writeText key ++ ':' :: writeLine (writeLineEntries after rest) value

end

/-- A new line at some level. -/
def newLine (level : Nat) : List Char := '\n' :: List.replicate (2 * level) ' '

mutual

/-- The form over many lines before some text, where the value starts at some level. -/
def writePages (level : Nat) (after : List Char) : Json → List Char
  | array (item :: rest) =>
    '[' :: newLine (level + 1) ++
      writePages (level + 1)
        (writePagesItems (level + 1) (newLine level ++ ']' :: after) rest) item
  | object ((key, value) :: rest) =>
    '\x7b' :: newLine (level + 1) ++ writeText key ++ ':' :: ' ' ::
      writePages (level + 1)
        (writePagesEntries (level + 1) (newLine level ++ '\x7d' :: after) rest) value
  | leaf => writeLeaf leaf ++ after

/-- Items of an array, each after a comma and at the given level, before some text. -/
def writePagesItems (level : Nat) (after : List Char) : List Json → List Char
  | [] => after
  | item :: rest =>
    ',' :: newLine level ++ writePages level (writePagesItems level after rest) item

/-- Entries of an object, each after a comma and at the given level, before some text. -/
def writePagesEntries (level : Nat) (after : List Char) : List (String × Json) → List Char
  | [] => after
  | (key, value) :: rest =>
    ',' :: newLine level ++ writeText key ++ ':' :: ' ' ::
      writePages level (writePagesEntries level after rest) value

end

/-- The value on one line, without blanks. -/
def compact (value : Json) : String := String.ofList (writeLine [] value)

/-- The value over many lines, two spaces for each level. -/
def pretty (value : Json) : String := String.ofList (writePages 0 [] value)

end Json

end SolanaBlocks
