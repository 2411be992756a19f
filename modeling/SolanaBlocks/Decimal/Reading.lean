import SolanaBlocks.Decimal.Binary

/-!
# Reading decimal numerals

The numerals that stand for a floating-point number: an optional sign, then digits with at most one
point and an optional exponent, or one of the words for infinity and not-a-number in any case.
Reading rounds to the nearest number of the format.
-/

namespace SolanaBlocks.Decimal

/-- The value of a run of digits, `start` being the value of the digits before it. -/
def digitsValue (start : Nat) (digits : List Char) : Nat :=
  digits.foldl (fun n c => 10 * n + (c.toNat - '0'.toNat)) start

/-- What a numeral denotes, sign apart. -/
inductive Magnitude where
  | nan
  | infinite
  | decimal (coefficient : Nat) (exponent : Int)
deriving DecidableEq, Repr

/-- Whether a text is `word` in any mixture of capital and small letters. -/
def isWord (word : String) (cs : List Char) : Bool :=
  cs.map Char.toLower == word.toList

/-- A sign, if there is one, and what follows it. -/
def splitSign : List Char → Bool × List Char
  | '-' :: cs => (true, cs)
  | '+' :: cs => (false, cs)
  | cs => (false, cs)

/-- The exponent of a numeral: nothing at all, or the letter `e`, an optional sign and digits. -/
def readExponent? : List Char → Option Int
  | [] => some 0
  | c :: cs =>
    let (negative, digits) := splitSign cs
    if (c == 'e' || c == 'E') && !digits.isEmpty && digits.all Char.isDigit then
      let value := digitsValue 0 digits
      some (if negative then -value else value)
    else none

/-- Digits with at most one point among them, then the exponent. -/
def readDecimal? (cs : List Char) : Option Magnitude :=
  let whole := cs.takeWhile Char.isDigit
  let afterWhole := cs.dropWhile Char.isDigit
  let (fraction, rest) :=
    match afterWhole with
    | '.' :: afterPoint => (afterPoint.takeWhile Char.isDigit, afterPoint.dropWhile Char.isDigit)
    | _ => ([], afterWhole)
  if whole.isEmpty && fraction.isEmpty then none
  else
    (readExponent? rest).map fun exponent =>
      .decimal (digitsValue (digitsValue 0 whole) fraction) (exponent - fraction.length)

/-- A numeral without its sign. -/
def readMagnitude? (cs : List Char) : Option Magnitude :=
  if isWord "nan" cs then some .nan
  else if isWord "inf" cs || isWord "infinity" cs then some .infinite
  else readDecimal? cs

/-- The encoding of the number that a numeral denotes in a format. -/
def read? (f : BinaryFormat) (s : String) : Option Nat :=
  let (negative, cs) := splitSign s.toList
  (readMagnitude? cs).map fun
    | .nan => f.infinityCode + 1
    | .infinite => f.withSign negative f.infinityCode
    | .decimal coefficient exponent =>
      f.withSign negative (f.nearestDecimal coefficient exponent)

/-- The 64-bit float that a numeral denotes. -/
def readFloat? (s : String) : Option Float :=
  (read? .double s).map fun code => Float.ofBits (UInt64.ofNat code)

/-- The 32-bit float that a numeral denotes. -/
def readFloat32? (s : String) : Option Float32 :=
  (read? .single s).map fun code => Float32.ofBits (UInt32.ofNat code)

/-- A natural number below `bound`, written in digits with an optional plus sign. -/
def readNat? (bound : Nat) (s : String) : Option Nat :=
  let digits := match s.toList with
    | '+' :: cs => cs
    | cs => cs
  if digits.isEmpty || !digits.all Char.isDigit then none
  else
    let value := digitsValue 0 digits
    if value < bound then some value else none

end SolanaBlocks.Decimal
