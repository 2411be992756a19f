import SolanaBlocks.Decimal.Reading
import SolanaBlocks.Json.Value

/-!
# Reading JSON

A reader takes what it needs from the front of a text and hands back the rest. The first fault from
the left decides. Values nest at most 127 deep. A value that nobody asks for is passed over by the
same grammar, but the content of its strings and the size of its numbers are not looked at, nor is
its depth.

A number with many digits is not rounded to the nearest float: the first digits that fit 64 bits are
converted and then multiplied or divided by one power of ten.
-/

namespace SolanaBlocks.Json

/-- Why a text cannot be read: it breaks the grammar, it ends too early, or it is JSON of another
shape than expected. -/
inductive Fault where
  | malformed
  | truncated
  | mistyped
deriving DecidableEq, Repr

/-- A reader of an `α`. -/
abbrev Reader (α : Type) := List Char → Except Fault (α × List Char)

/-- How deep arrays and objects may nest. -/
def depthLimit : Nat := 127

/-- The text without the blanks in front of it. -/
def skipBlanks (cs : List Char) : List Char :=
  cs.dropWhile fun c => c == ' ' || c == '\n' || c == '\t' || c == '\r'

/-- Takes the rest of a word. -/
def readWord : List Char → List Char → Except Fault (List Char)
  | [], cs => .ok cs
  | _ :: _, [] => .error .truncated
  | expected :: more, c :: cs => if c = expected then readWord more cs else .error .malformed

/-! ## Strings -/

/-- The value of a digit in base sixteen. -/
def hexValue? (c : Char) : Option Nat :=
  if c.isDigit then some (c.toNat - '0'.toNat)
  else if 'a' ≤ c ∧ c ≤ 'f' then some (c.toNat - 'a'.toNat + 10)
  else if 'A' ≤ c ∧ c ≤ 'F' then some (c.toNat - 'A'.toNat + 10)
  else none

/-- Four digits in base sixteen. With fewer than four bytes left the text ends too early. -/
def readHex4 (cs : List Char) : Except Fault (Nat × List Char) :=
  let digits := cs.take 4
  match digits.mapM hexValue? with
  | some [a, b, c, d] => .ok (((a * 16 + b) * 16 + c) * 16 + d, cs.drop 4)
  | _ =>
    if 4 ≤ (String.ofList digits).utf8ByteSize then .error .malformed else .error .truncated

/-- The character of a `\u` escape, whose digits come next. Characters beyond 16 bits are written as
two escapes; half of such a pair stands for nothing. -/
def readUnicodeEscape (cs : List Char) : Except Fault (Char × List Char) := do
  let (high, cs) ← readHex4 cs
  if 0xDC00 ≤ high && high ≤ 0xDFFF then throw .malformed
  else if high < 0xD800 || 0xDBFF < high then return (Char.ofNat high, cs)
  else
    match cs with
    | [] => throw .truncated
    | ['\\'] => throw .truncated
    | '\\' :: 'u' :: cs =>
      let (low, cs) ← readHex4 cs
      if low < 0xDC00 || 0xDFFF < low then throw .malformed
      else return (Char.ofNat ((high - 0xD800) * 0x400 + (low - 0xDC00) + 0x10000), cs)
    | _ => throw .malformed

/-- The character of an escape, after the backslash. A lenient reader takes any four digits after
`\u`. -/
def readEscape (lenient : Bool) (cs : List Char) : Except Fault (Char × List Char) :=
  match cs with
  | [] => .error .truncated
  | '"' :: cs => .ok ('"', cs)
  | '\\' :: cs => .ok ('\\', cs)
  | '/' :: cs => .ok ('/', cs)
  | 'b' :: cs => .ok (Char.ofNat 8, cs)
  | 'f' :: cs => .ok (Char.ofNat 12, cs)
  | 'n' :: cs => .ok ('\n', cs)
  | 'r' :: cs => .ok ('\r', cs)
  | 't' :: cs => .ok ('\t', cs)
  | 'u' :: cs =>
    if lenient then (readHex4 cs).map fun (_, cs) => ('?', cs) else readUnicodeEscape cs
  | _ => .error .malformed

/-- The rest of a string after its opening quote, looking at `fuel` characters and escapes. -/
def readCharsWithin (lenient : Bool) : Nat → List Char → Except Fault (List Char × List Char)
  | 0, _ => .error .truncated
  | fuel + 1, cs =>
    match cs with
    | [] => .error .truncated
    | '"' :: cs => .ok ([], cs)
    | '\\' :: cs => do
      let (c, cs) ← readEscape lenient cs
      let (rest, cs) ← readCharsWithin lenient fuel cs
      return (c :: rest, cs)
    | c :: cs =>
      if c.toNat < 0x20 then .error .malformed
      else do
        let (rest, cs) ← readCharsWithin lenient fuel cs
        return (c :: rest, cs)

/-- The rest of a string after its opening quote. -/
def readChars (lenient : Bool) (cs : List Char) : Except Fault (String × List Char) := do
  let (content, cs) ← readCharsWithin lenient (cs.length + 1) cs
  return (String.ofList content, cs)

/-! ## Numbers -/

/-- The parts of a number: the digits before the point, those after it, and the exponent with its
sign. -/
structure Numeral where
  negative : Bool
  whole : List Char
  fraction : Option (List Char)
  exponent : Option (Bool × List Char)

/-- Takes digits, of which there has to be at least one. -/
def readDigits (cs : List Char) : Except Fault (List Char × List Char) :=
  match cs with
  | [] => .error .truncated
  | c :: _ =>
    if c.isDigit then .ok (cs.takeWhile Char.isDigit, cs.dropWhile Char.isDigit)
    else .error .malformed

/-- The exponent of a number, if there is one. -/
def readExponent (cs : List Char) : Except Fault (Option (Bool × List Char) × List Char) :=
  match cs with
  | c :: cs' =>
    if c = 'e' ∨ c = 'E' then do
      let (negative, cs) := Decimal.splitSign cs'
      let (digits, cs) ← readDigits cs
      return (some (negative, digits), cs)
    else .ok (none, cs)
  | [] => .ok (none, [])

/-- The point and the digits after it, if there are any. -/
def readFraction (cs : List Char) : Except Fault (Option (List Char) × List Char) :=
  match cs with
  | '.' :: cs => do
    let (digits, cs) ← readDigits cs
    return (some digits, cs)
  | cs => .ok (none, cs)

/-- A number after its sign. A leading zero is the only digit before the point. -/
def readNumeral (negative : Bool) (cs : List Char) : Except Fault (Numeral × List Char) := do
  let (whole, cs) ← readDigits cs
  if whole.head? = some '0' ∧ whole.length ≠ 1 then throw .malformed
  let (fraction, cs) ← readFraction cs
  let (exponent, cs) ← readExponent cs
  return (⟨negative, whole, fraction, exponent⟩, cs)

/-- The number that the first digits add up to as long as it fits 64 bits, and the digits left. -/
def takeDigits : Nat → List Char → Nat × List Char
  | n, [] => (n, [])
  | n, c :: cs =>
    let next := 10 * n + (c.toNat - '0'.toNat)
    if next < wordSize then takeDigits next cs else (n, c :: cs)

/-- The float nearest to an integer. -/
def floatOfInt (n : Int) : Float :=
  (BinaryNumber.finite (decide (n < 0)) n.natAbs 0).toFloat

/-- The float nearest to a power of ten. -/
def powerOfTen (n : Nat) : Float :=
  Float.ofBits (UInt64.ofNat (BinaryFormat.double.nearestDecimal 1 n))

/-- A float times a power of ten, in one step if the table of powers reaches that far. -/
def scale (x : Float) (exponent : Int) : Except Fault Float :=
  if exponent.natAbs ≤ 308 then
    if 0 ≤ exponent then
      let y := x * powerOfTen exponent.natAbs
      if y.isInf then .error .malformed else .ok y
    else .ok (x / powerOfTen exponent.natAbs)
  else if x == 0 then .ok x
  else if 0 ≤ exponent then .error .malformed
  else scale (x / powerOfTen 308) (exponent + 308)
termination_by exponent.natAbs
decreasing_by omega

/-- The value of a number that is not a 64-bit integer. -/
def Numeral.float (numeral : Numeral) : Except Fault Float := do
  let (n, left) := takeDigits 0 numeral.whole
  let fraction := numeral.fraction.getD []
  let (m, fractionLeft) := takeDigits n fraction
  let shift : Int := left.length - (fraction.length - fractionLeft.length)
  let sign (x : Float) : Float := if numeral.negative then -x else x
  match numeral.exponent with
  | none => return sign (← scale (floatOfInt m) shift)
  | some (negative, digits) =>
    let e := Decimal.digitsValue 0 digits
    if e < 0x80000000 then
      return sign (← scale (floatOfInt m) (if negative then shift - e else shift + e))
    else if m ≠ 0 ∧ !negative then throw .malformed
    else return sign 0

/-- The value of a number. Without a point and an exponent it is an integer if that fits 64 bits;
minus zero is a float. -/
def Numeral.value (numeral : Numeral) : Except Fault Json := do
  match numeral.fraction, numeral.exponent, takeDigits 0 numeral.whole with
  | none, none, (n, []) =>
    if !numeral.negative then return .integer n
    else if 0 < n ∧ n ≤ 0x8000000000000000 then return .integer (-n)
    else return .float (-floatOfInt n)
  | _, _, _ => return .float (← numeral.float)

/-- A number after its sign. A lenient reader does not look at its size, and to it a number that
ends too early is malformed. -/
def readNumber (lenient negative : Bool) (cs : List Char) : Except Fault (Json × List Char) :=
  match readNumeral negative cs with
  | .error fault => .error (if lenient then .malformed else fault)
  | .ok (numeral, cs) => if lenient then .ok (.null, cs) else numeral.value.map fun v => (v, cs)

/-! ## Values -/

/-- The colon after a key. -/
def readColon (cs : List Char) : Except Fault (List Char) :=
  match skipBlanks cs with
  | [] => .error .truncated
  | ':' :: cs => .ok cs
  | _ => .error .malformed

/-- The key of an entry. -/
def readKey (lenient : Bool) (cs : List Char) : Except Fault (String × List Char) :=
  match skipBlanks cs with
  | [] => .error .truncated
  | '"' :: cs => readChars lenient cs
  | _ => .error .malformed

mutual

/-- A value that may nest `depth` more levels, in at most `fuel` steps. -/
def readValueWithin (lenient : Bool) : Nat → Nat → Reader Json
  | 0, _, _ => .error .malformed
  | fuel + 1, depth, cs =>
    match skipBlanks cs with
    | [] => .error .truncated
    | 'n' :: cs => (readWord "ull".toList cs).map fun cs => (.null, cs)
    | 't' :: cs => (readWord "rue".toList cs).map fun cs => (.bool true, cs)
    | 'f' :: cs => (readWord "alse".toList cs).map fun cs => (.bool false, cs)
    | '-' :: cs => readNumber lenient true cs
    | '"' :: cs => (readChars lenient cs).map fun (s, cs) => (.text s, cs)
    | '[' :: cs =>
      match depth with
      | 0 => .error .malformed
      | depth + 1 =>
        match skipBlanks cs with
        | ']' :: cs => .ok (.array [], cs)
        | cs => (readItemsWithin lenient fuel depth cs).map fun (items, cs) => (.array items, cs)
    | '\x7b' :: cs =>
      match depth with
      | 0 => .error .malformed
      | depth + 1 =>
        match skipBlanks cs with
        | '\x7d' :: cs => .ok (.object [], cs)
        | cs =>
          (readEntriesWithin lenient fuel depth cs).map fun (entries, cs) => (.object entries, cs)
    | c :: cs =>
      if c.isDigit then readNumber lenient false (c :: cs) else .error .malformed

/-- The items of an array up to its closing bracket. -/
def readItemsWithin (lenient : Bool) : Nat → Nat → Reader (List Json)
  | 0, _, _ => .error .malformed
  | fuel + 1, depth, cs => do
    let (item, cs) ← readValueWithin lenient fuel depth cs
    match skipBlanks cs with
    | [] => throw .truncated
    | ']' :: cs => return ([item], cs)
    | ',' :: cs =>
      let (rest, cs) ← readItemsWithin lenient fuel depth cs
      return (item :: rest, cs)
    | _ => throw .malformed

/-- The entries of an object up to its closing brace. -/
def readEntriesWithin (lenient : Bool) : Nat → Nat → Reader (List (String × Json))
  | 0, _, _ => .error .malformed
  | fuel + 1, depth, cs => do
    let (key, cs) ← readKey lenient cs
    let cs ← readColon cs
    let (value, cs) ← readValueWithin lenient fuel depth cs
    match skipBlanks cs with
    | [] => throw .truncated
    | '\x7d' :: cs => return ([(key, value)], cs)
    | ',' :: cs =>
      let (rest, cs) ← readEntriesWithin lenient fuel depth cs
      return ((key, value) :: rest, cs)
    | _ => throw .malformed

end

/-- A value that may nest `depth` more levels. Every two steps take a character. -/
def readValue (depth : Nat) : Reader Json := fun cs =>
  readValueWithin false (2 * cs.length + 2) depth cs

/-- Passes over a value. -/
def skipValue (cs : List Char) : Except Fault (List Char) :=
  (readValueWithin true (2 * cs.length + 2) cs.length cs).map Prod.snd

/-- Nothing but blanks may be left. -/
def readEnd (cs : List Char) : Except Fault Unit :=
  if (skipBlanks cs).isEmpty then .ok () else .error .malformed

/-- The value that a whole text stands for. -/
def read (source : String) : Except Fault Json := do
  let (value, rest) ← readValue depthLimit source.toList
  readEnd rest
  return value

end SolanaBlocks.Json
