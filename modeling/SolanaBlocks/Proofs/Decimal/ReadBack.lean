import Mathlib.Data.Nat.Cast.Field
import Mathlib.Tactic.FieldSimp
import SolanaBlocks.Proofs.Decimal.Magnitude
import SolanaBlocks.Proofs.Decimal.Rounding

/-!
# Written numbers read back

The shortest decimal of a number lies in the interval around it, because the search for it ends on a
grid to which the number itself belongs. What lies in the interval is rounded to the number, so the
plain form of a finite float reads as the float.
-/

namespace SolanaBlocks

namespace Decimal.Interval

variable {i : Interval} {k : Int}

/-- On the grid of `10 ^ k` a quarter and a multiple are counted in one unit. -/
theorem exists_grid_unit (i : Interval) (k : Int) :
    ∃ unit : ℚ, 0 < unit ∧ ((i.grid k).1 : ℚ) = 2 ^ i.quarter * unit ∧
      ((i.grid k).2 : ℚ) = 10 ^ k * unit := by
  refine ⟨2 ^ (-i.quarter).toNat * 10 ^ (-k).toNat, by positivity, ?_, ?_⟩
  · change ((2 ^ i.quarter.toNat * 10 ^ (-k).toNat : Nat) : ℚ) = _
    rw [BinaryFormat.zpow_toNat two_ne_zero i.quarter]
    push_cast
    field_simp
  · change ((10 ^ k.toNat * 2 ^ (-i.quarter).toNat : Nat) : ℚ) = _
    rw [BinaryFormat.zpow_toNat (by norm_num : (10 : ℚ) ≠ 0) k]
    push_cast
    field_simp

theorem holds_iff {c : Nat} : i.holds k c = true ↔ i.Contains (c * 10 ^ k) := by
  obtain ⟨unit, positive, quarter, multiple⟩ := i.exists_grid_unit k
  have counted (e : Nat) : ((e * (i.grid k).1 : Nat) : ℚ) = e * 2 ^ i.quarter * unit := by
    rw [Nat.cast_mul, quarter, mul_assoc]
  have grid : ((c * (i.grid k).2 : Nat) : ℚ) = c * 10 ^ k * unit := by
    rw [Nat.cast_mul, multiple, mul_assoc]
  unfold holds Contains
  dsimp only
  split <;> simp only [Bool.and_eq_true, decide_eq_true_eq, ← Nat.cast_le (α := ℚ),
    ← Nat.cast_lt (α := ℚ), counted, grid, mul_le_mul_iff_left₀ positive,
    mul_lt_mul_iff_left₀ positive]

/-- On a grid that is fine enough, the multiple at or below a number is the number. -/
theorem below_of_fine (fine : k ≤ min i.quarter 0) :
    (i.below k : ℚ) * 10 ^ k = 4 * i.significand * 2 ^ i.quarter := by
  have whole : k.toNat = 0 := by omega
  have divides : (i.grid k).2 ∣ 4 * i.significand * (i.grid k).1 := by
    change 10 ^ k.toNat * 2 ^ (-i.quarter).toNat ∣
      4 * i.significand * (2 ^ i.quarter.toNat * 10 ^ (-k).toNat)
    have power : 2 ^ (-i.quarter).toNat ∣ 10 ^ (-k).toNat :=
      (Nat.pow_dvd_pow 2 (by omega : (-i.quarter).toNat ≤ (-k).toNat)).trans
        (pow_dvd_pow_of_dvd (by decide) _)
    rw [whole, Nat.pow_zero, Nat.one_mul]
    exact Dvd.dvd.mul_left (Dvd.dvd.mul_left power _) _
  obtain ⟨unit, positive, quarter, multiple⟩ := i.exists_grid_unit k
  have some : ((i.grid k).2 : ℚ) ≠ 0 := by
    rw [multiple]
    positivity
  rw [below, Nat.cast_div divides some, Nat.cast_mul, quarter, multiple]
  push_cast
  field_simp

/-- What the search finds lies in the interval, since the number itself does. -/
theorem contains_search (own : i.Contains (4 * i.significand * 2 ^ i.quarter)) (tie : Tie)
    (steps : Nat) (k : Int) (fine : k - steps ≤ min i.quarter 0) :
    i.Contains ((i.search tie steps k).coefficient * 10 ^ (i.search tie steps k).exponent) := by
  induction steps generalizing k with
  | zero =>
      rw [search]
      dsimp only
      rwa [below_of_fine (by omega)]
  | succ steps ih =>
      rw [search]
      split
      · next c found => exact holds_iff.1 (holds_of_hit? found)
      · exact ih (k - 1) (by omega)

variable {f : BinaryFormat} {significand : Nat} {exponent : Int}

theorem four_mul_quarter (f : BinaryFormat) (significand : Nat) (exponent : Int) :
    (4 * significand * 2 ^ (around f significand exponent).quarter : ℚ) =
      significand * 2 ^ exponent := by
  change (4 * significand * 2 ^ (exponent - 2) : ℚ) = _
  rw [zpow_sub₀ two_ne_zero]
  ring

/-- A number lies in the interval around it. -/
theorem contains_own (some : significand ≠ 0) :
    (around f significand exponent).Contains (significand * 2 ^ exponent) := by
  have quarter := BinaryFormat.two_zpow_pos (around f significand exponent).quarter
  have lower : (around f significand exponent).lower < 4 * significand := by
    unfold around
    dsimp only
    split <;> omega
  have upper : 4 * significand < (around f significand exponent).upper :=
    Nat.lt_add_of_pos_right (by decide)
  have low : ((around f significand exponent).lower : ℚ) < 4 * significand := mod_cast lower
  have high : (4 * significand : ℚ) < (around f significand exponent).upper := mod_cast upper
  rw [← four_mul_quarter f, Contains]
  split <;> constructor <;> nlinarith

end Decimal.Interval

namespace Decimal

/-- The shortest decimal of a number lies in the interval around it. -/
theorem contains_shortest (f : BinaryFormat) (tie : Tie) {significand : Nat} (some : significand ≠ 0)
    (exponent : Int) :
    (Interval.around f significand exponent).Contains
      ((shortest f tie significand exponent).coefficient *
        10 ^ (shortest f tie significand exponent).exponent) := by
  refine Interval.contains_search ?_ tie _ _ (by omega)
  have own := @Interval.contains_own f significand exponent some
  rwa [← Interval.four_mul_quarter f] at own

end Decimal

namespace BinaryFormat

variable {f : BinaryFormat} {significand : Nat} {exponent : Int} {code : Nat} {negative : Bool}

/-- A finite number and its encoding. -/
theorem encode_of_decode (decoded : f.decode code = .finite negative significand exponent) :
    f.Fits significand exponent ∧ f.encode significand exponent < f.infinityCode ∧
      f.encode significand exponent = code % f.signWeight ∧
      negative = decide (f.signWeight ≤ code) := by
  have binade : 0 < f.binade := Nat.pow_pos (by decide)
  unfold decode at decoded
  dsimp only at decoded
  generalize code % f.signWeight = magnitude at decoded ⊢
  split at decoded
  · cases decoded
  split at decoded
  · cases decoded
  split at decoded
  · next small =>
      cases decoded
      have same : f.encode significand f.minExponent = significand := by simp [encode]
      exact ⟨⟨Int.le_refl _, by omega, by omega⟩, by omega, same, rfl⟩
  · next large =>
      cases decoded
      have split := Nat.div_add_mod magnitude f.binade
      have rest := Nat.mod_lt magnitude binade
      have quotient : 0 < magnitude / f.binade := Nat.div_pos (by omega) binade
      rw [← Int.natCast_ediv]
      have same : f.encode (magnitude % f.binade + f.binade)
          (f.minExponent + ((magnitude / f.binade : Nat) - 1)) = magnitude := by
        obtain ⟨n, steps⟩ := Nat.exists_eq_add_of_lt quotient
        rw [Nat.zero_add] at steps
        have before : (f.minExponent + (((n + 1 : Nat) : Int) - 1) - f.minExponent).toNat = n := by
          omega
        rw [steps] at split ⊢
        rw [encode, before]
        linarith
      exact ⟨⟨by omega, by omega, by omega⟩, by omega, same, rfl⟩

/-- An encoding is made of its sign and the rest. -/
theorem withSign_mod (bounded : code < 2 * f.signWeight) :
    f.withSign (decide (f.signWeight ≤ code)) (code % f.signWeight) = code := by
  unfold withSign
  split
  · next large =>
      have large := of_decide_eq_true large
      rw [Nat.mod_eq_sub_mod large, Nat.mod_eq_of_lt (by omega)]
      omega
  · next small => exact Nat.mod_eq_of_lt (by simpa using small)

theorem two_zpow_lt_ten_zpow : (2 : ℚ) ^ (1200 : ℤ) < 10 ^ (400 : ℤ) := by
  have cubes : (2 : ℚ) ^ (1200 : ℤ) = (2 ^ (3 : ℤ)) ^ (400 : ℤ) := zpow_mul 2 3 400
  rw [cubes]
  exact zpow_lt_zpow_left₀ (by decide) (by norm_num) (by norm_num)

/-- The numbers near a finite float are neither so large nor so small that their length alone tells
how they are rounded. -/
theorem bounds_of_contains (fits : double.Fits significand exponent) (some : significand ≠ 0)
    (finite : double.encode significand exponent < double.infinityCode) {x : ℚ}
    (inside : (Decimal.Interval.around double significand exponent).Contains x) :
    (10 : ℚ) ^ (-400 : ℤ) < x ∧ x < 10 ^ (400 : ℤ) := by
  obtain ⟨low, high, -⟩ := inside.ends
  have least : double.minExponent = -1074 := rfl
  have binade : double.binade = 2 ^ 52 := rfl
  have infinity : double.infinityCode = 2047 * 2 ^ 52 := rfl
  have unit := two_zpow_pos exponent
  have wide {e e' : Int} (le : e ≤ e') : (2 : ℚ) ^ e ≤ 2 ^ e' := zpow_le_zpow_right₀ (by norm_num) le
  constructor
  · have half : (2 : ℚ) ^ (-1 : ℤ) ≤ significand - 1 / 2 := by
      have one : (1 : ℚ) ≤ significand := mod_cast Nat.pos_of_ne_zero some
      norm_num
      linarith
    calc (10 : ℚ) ^ (-400 : ℤ) < 2 ^ (-1200 : ℤ) := by
          rw [zpow_neg, zpow_neg]
          exact inv_strictAnti₀ (two_zpow_pos _) two_zpow_lt_ten_zpow
      _ ≤ 2 ^ (-1 + exponent) := wide (by have := fits.least; omega)
      _ = 2 ^ (-1 : ℤ) * 2 ^ exponent := zpow_add₀ two_ne_zero _ _
      _ ≤ (significand - 1 / 2) * 2 ^ exponent := mul_le_mul_of_nonneg_right half unit.le
      _ ≤ x := low
  · have small : (significand : ℚ) + 1 / 2 ≤ 2 ^ (54 : ℤ) := by
      have : (significand : ℚ) + 1 ≤ 2 * 2 ^ 52 := mod_cast fits.small
      linarith
    have top : exponent ≤ 973 := by
      rw [encode, least, binade, infinity] at finite
      omega
    calc x ≤ (significand + 1 / 2) * 2 ^ exponent := high
      _ ≤ 2 ^ (54 : ℤ) * 2 ^ exponent := mul_le_mul_of_nonneg_right small unit.le
      _ = 2 ^ (54 + exponent) := (zpow_add₀ two_ne_zero _ _).symm
      _ ≤ 2 ^ (1200 : ℤ) := wide (by omega)
      _ < 10 ^ (400 : ℤ) := two_zpow_lt_ten_zpow

/-- A decimal lies between the powers of ten that its length suggests. -/
theorem zpow_length_toDigits {coefficient : Nat} (some : coefficient ≠ 0) (power : Int) :
    (10 : ℚ) ^ ((Nat.toDigits 10 coefficient).length + power - 1) ≤ coefficient * 10 ^ power ∧
      (coefficient : ℚ) * 10 ^ power < 10 ^ ((Nat.toDigits 10 coefficient).length + power) := by
  have ten : (0 : ℚ) < 10 ^ power := zpow_pos (by norm_num) power
  have below := (Nat.length_toDigits_le_iff (by decide : 1 < 10) Nat.length_toDigits_pos).1
    (Nat.le_refl (Nat.toDigits 10 coefficient).length)
  have above : 10 ^ ((Nat.toDigits 10 coefficient).length - 1) ≤ coefficient := by
    by_contra less
    have positive : 0 < (Nat.toDigits 10 coefficient).length := Nat.length_toDigits_pos
    rcases Nat.eq_zero_or_pos ((Nat.toDigits 10 coefficient).length - 1) with none | more
    · rw [none] at less
      omega
    · have := (Nat.length_toDigits_le_iff (by decide : 1 < 10) more).2 (Nat.lt_of_not_le less)
      omega
  have positive : 0 < (Nat.toDigits 10 coefficient).length := Nat.length_toDigits_pos
  generalize (Nat.toDigits 10 coefficient).length = length at above below positive ⊢
  constructor
  · have power' : (length : Int) + power - 1 = ((length - 1 : Nat) : Int) + power := by omega
    rw [power', zpow_add₀ (by norm_num), zpow_natCast]
    exact mul_le_mul_of_nonneg_right (mod_cast above) ten.le
  · rw [zpow_add₀ (by norm_num), zpow_natCast]
    exact mul_lt_mul_of_pos_right (mod_cast below) ten

/-- A decimal in the interval around a finite float is rounded to the float. -/
theorem nearestDecimal_eq_encode (fits : double.Fits significand exponent) (some : significand ≠ 0)
    (finite : double.encode significand exponent < double.infinityCode) {coefficient : Nat}
    {power : Int}
    (inside : (Decimal.Interval.around double significand exponent).Contains
      (coefficient * 10 ^ power)) :
    double.nearestDecimal coefficient power = double.encode significand exponent := by
  obtain ⟨above, below⟩ := bounds_of_contains fits some finite inside
  have nonzero : coefficient ≠ 0 := by
    rintro rfl
    have : (0 : ℚ) < 10 ^ (-400 : ℤ) := by positivity
    simp only [Nat.cast_zero, zero_mul] at above
    linarith
  obtain ⟨least, most⟩ := zpow_length_toDigits nonzero power
  have ten : (1 : ℚ) < 10 := by norm_num
  unfold nearestDecimal
  dsimp only
  rw [if_neg nonzero, if_neg, if_neg]
  · refine nearest_eq_encode (by decide) fits some finite (Nat.pow_pos (by decide)) ?_
    have ratio : ((coefficient * 10 ^ power.toNat : Nat) : ℚ) / (10 ^ (-power).toNat : Nat) =
        coefficient * 10 ^ power := by
      rw [zpow_toNat (by norm_num : (10 : ℚ) ≠ 0) power, ← mul_div_assoc]
      push_cast
      rfl
    exact ratio ▸ inside
  · have := (zpow_lt_zpow_iff_right₀ ten).1 (above.trans most)
    omega
  · have := (zpow_lt_zpow_iff_right₀ ten).1 (least.trans_lt below)
    omega

end BinaryFormat

/-! ## Reading -/

namespace Decimal

open BinaryFormat

variable {x : Float} {negative : Bool} {significand : Nat} {exponent : Int} {digits : List Char}
  {coefficient : Nat} {power : Int}

theorem splitSign_numeral (numeral : Numeral digits) (negative : Bool) :
    splitSign (minus negative ++ digits) = (negative, digits) := by
  cases negative with
  | true => rfl
  | false =>
      obtain ⟨d, rest, rfl, digit⟩ := numeral.head
      change splitSign (d :: rest) = (false, d :: rest)
      unfold splitSign
      split
      · next spelled =>
          obtain ⟨rfl, -⟩ := List.cons.inj spelled
          exact absurd digit (by decide)
      · next spelled =>
          obtain ⟨rfl, -⟩ := List.cons.inj spelled
          exact absurd digit (by decide)
      · rfl

/-- A numeral that is rounded to the encoding of a float reads as the float. -/
theorem readFloat?_of_nearest
    (number : BinaryNumber.ofFloat x = .finite negative significand exponent)
    (numeral : Numeral digits) (read : readDecimal? digits = some (.decimal coefficient power))
    (nearest : double.nearestDecimal coefficient power = double.encode significand exponent) :
    readFloat? (String.ofList (minus negative ++ digits)) = some x := by
  obtain ⟨-, -, same, sign⟩ := encode_of_decode number
  have word : x.toBits.toNat < 2 * double.signWeight := x.toBits.toNat_lt
  have code : double.withSign negative (double.nearestDecimal coefficient power) =
      x.toBits.toNat := by
    rw [nearest, same, sign, withSign_mod word]
  have found : read? double (String.ofList (minus negative ++ digits)) = some x.toBits.toNat := by
    simp [read?, splitSign_numeral numeral, readMagnitude?_numeral numeral, read, code]
  rw [readFloat?, found, Option.map_some, UInt64.ofNat_toNat, ofBits_toBits]

/-- A numeral in the interval around a float reads as the float. -/
theorem readFloat?_of_contains
    (number : BinaryNumber.ofFloat x = .finite negative significand exponent)
    (nonzero : significand ≠ 0) (numeral : Numeral digits)
    (read : readDecimal? digits = some (.decimal coefficient power))
    (inside : (Interval.around double significand exponent).Contains (coefficient * 10 ^ power)) :
    readFloat? (String.ofList (minus negative ++ digits)) = some x := by
  obtain ⟨fits, finite, -⟩ := encode_of_decode number
  exact readFloat?_of_nearest number numeral read
    (nearestDecimal_eq_encode fits nonzero finite inside)

/-- The plain form of a finite float reads as the float. -/
theorem readFloat?_plain (finite : (BinaryNumber.ofFloat x).isFinite) :
    readFloat? (plain .double (BinaryNumber.ofFloat x)) = some x := by
  cases number : BinaryNumber.ofFloat x with
  | nan => rw [number] at finite; cases finite
  | infinite => rw [number] at finite; cases finite
  | finite negative significand exponent =>
      rw [plain]
      split
      · next zero =>
          subst zero
          obtain ⟨fits, -⟩ := encode_of_decode number
          have least : exponent = double.minExponent := by
            refine Int.le_antisymm ?_ fits.least
            by_contra above
            exact absurd (fits.normal (Int.lt_of_not_ge above)) (by decide)
          subst least
          exact readFloat?_of_nearest number (numeral_toDigits 0) rfl rfl
      · next nonzero =>
          refine readFloat?_of_contains number nonzero (numeral_positional _)
            (readDecimal?_positional _) ?_
          have inside := contains_shortest double .up nonzero exponent
          generalize shortest double .up significand exponent = d at inside ⊢
          have value : ((d.coefficient * 10 ^ d.exponent.toNat : Nat) : ℚ) * 10 ^ min d.exponent 0 =
              d.coefficient * 10 ^ d.exponent := by
            have split : d.exponent = (d.exponent.toNat : Int) + min d.exponent 0 := by omega
            conv_rhs => rw [split, zpow_add₀ (by norm_num), zpow_natCast]
            push_cast
            ring
          rwa [value]

end Decimal

end SolanaBlocks
