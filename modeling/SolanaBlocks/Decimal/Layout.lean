import SolanaBlocks.Decimal.Shortest

/-!
# How numbers are written

Two written forms of a binary number, both with the fewest digits that read back. The plain form
never has an exponent. The exchange form always shows that it is not an integer type, and turns to
an exponent for very large and very small numbers.
-/

namespace SolanaBlocks.Decimal

/-- A run of zeros. -/
def zeros (n : Nat) : List Char := List.replicate n '0'

/-- The digits of a decimal with the point where it belongs, and no point if it would come last. -/
def positional (d : Digits) : List Char :=
  let digits := Nat.toDigits 10 d.coefficient
  let whole := digits.length + d.exponent
  if 0 ≤ d.exponent then digits ++ zeros d.exponent.toNat
  else if 0 < whole then digits.take whole.toNat ++ '.' :: digits.drop whole.toNat
  else '0' :: '.' :: zeros (-whole).toNat ++ digits

/-- One digit before the point, and a signed exponent. -/
def scientific (d : Digits) : List Char :=
  let digits := Nat.toDigits 10 d.coefficient
  let exponent := digits.length + d.exponent - 1
  let mantissa :=
    match digits with
    | first :: second :: rest => first :: '.' :: second :: rest
    | _ => digits
  let sign := if exponent < 0 then '-' else '+'
  mantissa ++ 'e' :: sign :: Nat.toDigits 10 exponent.natAbs

/-- The sign of a number. -/
def minus (negative : Bool) : List Char :=
  if negative then ['-'] else []

/-- The plain form: no exponent however long the number becomes, and no point in an integer. A tie
between two shortest decimals goes up. -/
def plain (f : BinaryFormat) : BinaryNumber → String
  | .nan => "NaN"
  | .infinite negative => String.ofList (minus negative ++ ['i', 'n', 'f'])
  | .finite negative significand exponent =>
    String.ofList <| minus negative ++
      (if significand = 0 then ['0'] else positional (shortest f .up significand exponent))

/-- A decimal in the exchange form: positional from `10 ^ (-5)` up to `10 ^ 16`, with at least one
digit after the point, and with an exponent outside. -/
def exchangeDigits (d : Digits) : List Char :=
  let leading := (Nat.toDigits 10 d.coefficient).length + d.exponent
  if leading < -4 ∨ 16 < leading then scientific d
  else if 0 ≤ d.exponent then positional d ++ ['.', '0']
  else positional d

/-- The exchange form, which only finite numbers have. A tie goes to the even digit. -/
def exchange? (f : BinaryFormat) : BinaryNumber → Option String
  | .finite negative significand exponent =>
    some <| String.ofList <| minus negative ++
      (if significand = 0 then ['0', '.', '0']
       else exchangeDigits (shortest f .toEven significand exponent))
  | _ => none

end SolanaBlocks.Decimal
