import SolanaBlocks.Decimal.Binary

/-!
# The shortest decimal that reads back

All reals closer to a binary number than to its neighbours read back as that number; the ends of
this interval belong to it when the significand is even. Among the decimals in the interval the
shortest one is sought, on coarser grids first: if any multiple of `10 ^ k` lies in the interval,
one of the two multiples next to the number does. Of two hits the nearer is taken.
-/

namespace SolanaBlocks.Decimal

/-- The decimal number `coefficient * 10 ^ exponent`. -/
structure Digits where
  coefficient : Nat
  exponent : Int
deriving DecidableEq, Repr

/-- Which of two equally near decimals is taken. -/
inductive Tie where
  | up
  | toEven
deriving DecidableEq, Repr

/-- The interval of reals that round to a number. The number is `4 * significand` quarters, a
quarter is `2 ^ quarter`, and the ends are counted in quarters too. -/
structure Interval where
  significand : Nat
  quarter : Int
  lower : Nat
  upper : Nat
  closed : Bool

/-- The interval of `significand * 2 ^ exponent`. Below the least significand of an exponent the
numbers lie twice as dense, unless the exponent is the least of the format. -/
def Interval.around (f : BinaryFormat) (significand : Nat) (exponent : Int) : Interval where
  significand := significand
  quarter := exponent - 2
  lower :=
    if significand = f.binade ∧ f.minExponent < exponent then 4 * significand - 1
    else 4 * significand - 2
  upper := 4 * significand + 2
  closed := significand % 2 = 0

namespace Interval

variable (i : Interval)

/-- A quarter counted in multiples of `10 ^ k` is `(i.grid k).1 / (i.grid k).2`. -/
def grid (k : Int) : Nat × Nat :=
  (Nat.pow 2 i.quarter.toNat * Nat.pow 10 (-k).toNat,
    Nat.pow 10 k.toNat * Nat.pow 2 (-i.quarter).toNat)

/-- The multiple of `10 ^ k` at or below the number. -/
def below (k : Int) : Nat :=
  4 * i.significand * (i.grid k).1 / (i.grid k).2

/-- Whether the multiple `c * 10 ^ k` lies in the interval. -/
def holds (k : Int) (c : Nat) : Bool :=
  let (num, den) := i.grid k
  if i.closed then i.lower * num ≤ c * den && c * den ≤ i.upper * num
  else i.lower * num < c * den && c * den < i.upper * num

/-- The multiple of `10 ^ k` in the interval that is nearest to the number, if there is one. -/
def hit? (tie : Tie) (k : Int) : Option Nat :=
  let low := i.below k
  match i.holds k low, i.holds k (low + 1) with
  | false, false => none
  | true, false => some low
  | false, true => some (low + 1)
  | true, true =>
    let (num, den) := i.grid k
    let value := 4 * i.significand * num
    let toLow := value - low * den
    let toHigh := (low + 1) * den - value
    if toLow < toHigh then some low
    else if toHigh < toLow then some (low + 1)
    else
      match tie with
      | .up => some (low + 1)
      | .toEven => some (if low % 2 = 0 then low else low + 1)

/-- The first hit on the grids `10 ^ k`, `10 ^ (k - 1)`, …; on the last of them the number itself
lies. -/
def search (tie : Tie) : Nat → Int → Digits
  | 0, k => ⟨i.below k, k⟩
  | steps + 1, k =>
    match i.hit? tie k with
    | some c => ⟨c, k⟩
    | none => search tie steps (k - 1)

/-- An exponent `k` for which `10 ^ k` exceeds the number. -/
def topExponent : Int :=
  ((i.significand.log2 : Int) + 3 + i.quarter) * 30103 / 100000 + 2

end Interval

/-- The shortest decimal that reads back as `significand * 2 ^ exponent`, and the nearest of
those. -/
def shortest (f : BinaryFormat) (tie : Tie) (significand : Nat) (exponent : Int) : Digits :=
  let i := Interval.around f significand exponent
  let top := i.topExponent
  i.search tie (top - min i.quarter 0).toNat top

end SolanaBlocks.Decimal
