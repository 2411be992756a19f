/-!
# Binary floating-point formats

A format says how many bits a significand has and how small its unit may be. Reading an encoding
gives the number it stands for; writing goes the other way, from a fraction to the encoding of the
nearest number of the format, a tie going to the even significand. Both directions work on natural
numbers, so nothing is lost on the way.
-/

namespace SolanaBlocks

/-- The number of natural numbers that fit 64 bits. -/
def wordSize : Nat := 0x10000000000000000

/-- A binary floating-point format: the bits of a significand, the exponent of the smallest unit,
and the number of exponents a finite number may have. -/
structure BinaryFormat where
  precision : Nat
  minExponent : Int
  exponents : Nat

/-- What an encoding stands for. A finite number is `significand * 2 ^ exponent`. -/
inductive BinaryNumber where
  | nan
  | infinite (negative : Bool)
  | finite (negative : Bool) (significand : Nat) (exponent : Int)
deriving DecidableEq, Repr

namespace BinaryFormat

/-- Numbers of 64 bits. -/
def double : BinaryFormat := ⟨53, -1074, 2047⟩

/-- Numbers of 32 bits. -/
def single : BinaryFormat := ⟨24, -149, 255⟩

/-- The number of significands that share one exponent. -/
def binade (f : BinaryFormat) : Nat := Nat.pow 2 (f.precision - 1)

/-- The encoding of positive infinity; the finite numbers have the smaller encodings. -/
def infinityCode (f : BinaryFormat) : Nat := f.exponents * f.binade

/-- The weight of the sign bit. -/
def signWeight (f : BinaryFormat) : Nat := (f.exponents + 1) * f.binade

/-- The number that an encoding stands for. -/
def decode (f : BinaryFormat) (code : Nat) : BinaryNumber :=
  let negative := f.signWeight ≤ code
  let magnitude := code % f.signWeight
  if f.infinityCode < magnitude then .nan
  else if magnitude = f.infinityCode then .infinite negative
  else if magnitude < f.binade then .finite negative magnitude f.minExponent
  else
    .finite negative (magnitude % f.binade + f.binade) (f.minExponent + (magnitude / f.binade - 1))

end BinaryFormat

/-- A quotient rounded to the nearest natural number, a tie to the even one. -/
def roundHalfEven (num den : Nat) : Nat :=
  let floor := num / den
  let rest := num % den
  if 2 * rest < den then floor
  else if den < 2 * rest then floor + 1
  else if floor % 2 = 0 then floor else floor + 1

namespace BinaryFormat

/-- `num / den` divided by `2 ^ exponent`, as a fraction. -/
def scaled (num den : Nat) (exponent : Int) : Nat × Nat :=
  (num * Nat.pow 2 (-exponent).toNat, den * Nat.pow 2 exponent.toNat)

/-- The exponent of the unit in which `num / den` is rounded: the significand just fits the
precision, unless the smallest unit of the format is larger. -/
def roundingExponent (f : BinaryFormat) (num den : Nat) : Int :=
  let guess := max ((num.log2 : Int) - den.log2 - f.precision) f.minExponent
  let (n, d) := scaled num den guess
  if n / d < Nat.pow 2 f.precision then guess else guess + 1

/-- The encoding, sign apart, of the number nearest to the fraction `num / den`. -/
def nearest (f : BinaryFormat) (num den : Nat) : Nat :=
  if num = 0 then 0
  else
    let exponent := f.roundingExponent num den
    let (n, d) := scaled num den exponent
    min ((exponent - f.minExponent).toNat * f.binade + roundHalfEven n d) f.infinityCode

/-- The encoding, sign apart, of the number nearest to `coefficient * 10 ^ exponent`. A decimal
exponent beyond any number of the format settles the result at once. -/
def nearestDecimal (f : BinaryFormat) (coefficient : Nat) (exponent : Int) : Nat :=
  let magnitude : Int := (Nat.toDigits 10 coefficient).length + exponent
  if coefficient = 0 then 0
  else if 400 < magnitude then f.infinityCode
  else if magnitude < -400 then 0
  else f.nearest (coefficient * Nat.pow 10 exponent.toNat) (Nat.pow 10 (-exponent).toNat)

/-- An encoding with its sign. -/
def withSign (f : BinaryFormat) (negative : Bool) (magnitude : Nat) : Nat :=
  if negative then f.signWeight + magnitude else magnitude

/-- The encoding of the number of this format nearest to a number of any format. -/
def ofNumber (f : BinaryFormat) : BinaryNumber → Nat
  | .nan => f.infinityCode + 1
  | .infinite negative => f.withSign negative f.infinityCode
  | .finite negative significand exponent =>
    f.withSign negative
      (f.nearest (significand * Nat.pow 2 exponent.toNat) (Nat.pow 2 (-exponent).toNat))

end BinaryFormat

namespace BinaryNumber

/-- The number a 64-bit float stands for. -/
def ofFloat (x : Float) : BinaryNumber := BinaryFormat.decode .double x.toBits.toNat

/-- The number a 32-bit float stands for. -/
def ofFloat32 (x : Float32) : BinaryNumber := BinaryFormat.decode .single x.toBits.toNat

/-- The nearest 64-bit float. -/
def toFloat (x : BinaryNumber) : Float :=
  Float.ofBits (UInt64.ofNat (BinaryFormat.double.ofNumber x))

/-- The nearest 32-bit float. -/
def toFloat32 (x : BinaryNumber) : Float32 :=
  Float32.ofBits (UInt32.ofNat (BinaryFormat.single.ofNumber x))

/-- Neither a NaN nor infinite. -/
def isFinite : BinaryNumber → Bool
  | .finite .. => true
  | _ => false

/-- Below zero. Negative zero is not, nor is a NaN. -/
def isBelowZero : BinaryNumber → Bool
  | .nan => false
  | .infinite negative => negative
  | .finite negative significand _ => negative && significand != 0

/-- Finite and without a fractional part. -/
def isInteger : BinaryNumber → Bool
  | .finite _ significand exponent => significand % Nat.pow 2 (-exponent).toNat == 0
  | _ => false

/-- The integer part of a finite number; infinities have no bound and give `limit`, a NaN zero. -/
def truncate (limit : Nat) : BinaryNumber → Int
  | .nan => 0
  | .infinite negative => if negative then -limit else limit
  | .finite negative significand exponent =>
    let magnitude : Nat := significand * Nat.pow 2 exponent.toNat / Nat.pow 2 (-exponent).toNat
    if negative then -magnitude else magnitude

/-- The integer part, kept within the signed 64-bit integers. -/
def toInt64 (x : BinaryNumber) : Int :=
  max (-0x8000000000000000) (min 0x7FFFFFFFFFFFFFFF (x.truncate wordSize))

/-- The integer part, kept within the unsigned 64-bit integers. -/
def toUInt64 (x : BinaryNumber) : Nat :=
  (min 0xFFFFFFFFFFFFFFFF (x.truncate wordSize)).toNat

/-- The same magnitude with the opposite sign. -/
def neg : BinaryNumber → BinaryNumber
  | .nan => .nan
  | .infinite negative => .infinite !negative
  | .finite negative significand exponent => .finite (!negative) significand exponent

end BinaryNumber

end SolanaBlocks
