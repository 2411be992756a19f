import Mathlib.Algebra.Order.Field.Power
import Mathlib.Algebra.Order.Ring.Rat
import Mathlib.Tactic.Linarith
import Mathlib.Tactic.Ring
import SolanaBlocks.Decimal.Shortest

/-!
# Rounding to a binary format

A fraction is rounded in the unit in which its integer part just fits the precision. If the fraction
lies in the interval around a number, that unit is the one of the number, and the significand is
what the fraction is rounded to. Only below the least significand of an exponent may the unit be half
as large; rounding then goes up to the number all the same.
-/

namespace SolanaBlocks

/-! ## Rounding to an integer -/

/-- A quotient is rounded to `s` if it differs from `s` by less than one half, or by one half and `s`
is even. -/
theorem roundHalfEven_eq {num den s : Nat} (positive : 0 < den)
    (low : (s : ℚ) - 1 / 2 ≤ num / den) (high : (num : ℚ) / den ≤ s + 1 / 2)
    (odd : s % 2 = 1 → (s : ℚ) - 1 / 2 < num / den ∧ (num : ℚ) / den < s + 1 / 2) :
    roundHalfEven num den = s := by
  have above : (0 : ℚ) < den := mod_cast positive
  have low : 2 * s * den ≤ 2 * num + den := by
    rw [le_div_iff₀ above] at low
    exact_mod_cast (by linarith : 2 * (s : ℚ) * den ≤ 2 * num + den)
  have high : 2 * num ≤ (2 * s + 1) * den := by
    rw [div_le_iff₀ above] at high
    exact_mod_cast (by linarith : 2 * (num : ℚ) ≤ (2 * s + 1) * den)
  have strict : s % 2 = 1 → 2 * s * den < 2 * num + den ∧ 2 * num < (2 * s + 1) * den := by
    intro is
    obtain ⟨low, high⟩ := odd is
    rw [lt_div_iff₀ above] at low
    rw [div_lt_iff₀ above] at high
    constructor
    · exact_mod_cast (by linarith : 2 * (s : ℚ) * den < 2 * num + den)
    · exact_mod_cast (by linarith : 2 * (num : ℚ) < (2 * s + 1) * den)
  have split := Nat.div_add_mod num den
  have rest := Nat.mod_lt num positive
  unfold roundHalfEven
  generalize num / den = q at split ⊢
  generalize num % den = r at split rest ⊢
  subst split
  have least : q ≤ s := by
    by_contra less
    have := Nat.mul_le_mul_left (2 * den) (Nat.lt_of_not_le less : s + 1 ≤ q)
    linarith
  have most : s ≤ q + 1 := by
    by_contra more
    have := Nat.mul_le_mul_left (2 * den) (Nat.lt_of_not_le more : q + 2 ≤ s)
    linarith
  have cases : s = q ∨ s = q + 1 := by omega
  rcases cases with rfl | rfl
  · have half : 2 * r ≤ den := by linarith
    have less : s % 2 = 1 → 2 * r < den := fun is => by linarith [(strict is).2]
    dsimp only
    split_ifs <;> omega
  · have half : den ≤ 2 * r := by linarith
    have more : (q + 1) % 2 = 1 → den < 2 * r := fun is => by linarith [(strict is).1]
    dsimp only
    split_ifs <;> omega

namespace BinaryFormat

variable {f : BinaryFormat}

theorem two_zpow_pos (exponent : Int) : (0 : ℚ) < 2 ^ exponent := zpow_pos (by norm_num) _

/-- A power is the quotient of two powers with natural exponents, one of which is zero. -/
theorem zpow_toNat {base : ℚ} (some : base ≠ 0) (exponent : Int) :
    base ^ exponent = base ^ exponent.toNat / base ^ (-exponent).toNat := by
  have power : exponent = (exponent.toNat : Int) - ((-exponent).toNat : Int) := by omega
  conv_lhs => rw [power]
  rw [zpow_sub₀ some, zpow_natCast, zpow_natCast]

/-- A scaled fraction is the fraction in units of `2 ^ exponent`. -/
theorem ratio_scaled (num den : Nat) (exponent : Int) :
    ((scaled num den exponent).1 : ℚ) / (scaled num den exponent).2 = num / den / 2 ^ exponent := by
  change ((num * 2 ^ (-exponent).toNat : Nat) : ℚ) / ((den * 2 ^ exponent.toNat : Nat) : ℚ) = _
  rw [zpow_toNat two_ne_zero, div_div_eq_mul_div, div_mul_eq_mul_div, div_div]
  push_cast
  ring

theorem scaled_pos {num den : Nat} (positive : 0 < den) (exponent : Int) :
    0 < (scaled num den exponent).2 :=
  Nat.mul_pos positive (Nat.pow_pos (by decide))

theorem two_mul_binade (wide : 0 < f.precision) : Nat.pow 2 f.precision = 2 * f.binade := by
  obtain ⟨p, same⟩ : ∃ p, f.precision = p + 1 := ⟨f.precision - 1, by omega⟩
  change 2 ^ f.precision = 2 * 2 ^ (f.precision - 1)
  rw [same, Nat.pow_succ', Nat.add_sub_cancel]

/-- A fraction lies within a factor of two of the power of two that the lengths of its parts
suggest. -/
theorem zpow_log2_lt {num den : Nat} (some : num ≠ 0) (positive : 0 < den) :
    (2 : ℚ) ^ ((num.log2 : Int) - den.log2 - 1) < num / den ∧
      (num : ℚ) / den < 2 ^ ((num.log2 : Int) - den.log2 + 1) := by
  have numLow : (2 : ℚ) ^ num.log2 ≤ num := mod_cast Nat.log2_self_le some
  have numHigh : (num : ℚ) < 2 ^ (num.log2 + 1) := mod_cast Nat.lt_log2_self
  have denLow : (2 : ℚ) ^ den.log2 ≤ den := mod_cast Nat.log2_self_le (Nat.pos_iff_ne_zero.1 positive)
  have denHigh : (den : ℚ) < 2 ^ (den.log2 + 1) := mod_cast Nat.lt_log2_self
  have above : (0 : ℚ) < den := mod_cast positive
  have two : (2 : ℚ) ≠ 0 := by norm_num
  constructor
  · rw [lt_div_iff₀ above]
    calc (2 : ℚ) ^ ((num.log2 : Int) - den.log2 - 1) * den
        < 2 ^ ((num.log2 : Int) - den.log2 - 1) * 2 ^ (den.log2 + 1) :=
          mul_lt_mul_of_pos_left denHigh (two_zpow_pos _)
      _ = 2 ^ num.log2 := by
          rw [← zpow_natCast, ← zpow_natCast, ← zpow_add₀ two]
          congr 1
          push_cast
          ring
      _ ≤ num := numLow
  · rw [div_lt_iff₀ above]
    calc (num : ℚ) < 2 ^ (num.log2 + 1) := numHigh
      _ = 2 ^ ((num.log2 : Int) - den.log2 + 1) * 2 ^ den.log2 := by
          rw [← zpow_natCast, ← zpow_natCast, ← zpow_add₀ two]
          congr 1
          push_cast
          ring
      _ ≤ 2 ^ ((num.log2 : Int) - den.log2 + 1) * den :=
          mul_le_mul_of_nonneg_left denLow (two_zpow_pos _).le

theorem binade_cast (wide : 0 < f.precision) : (f.binade : ℚ) = 2 ^ ((f.precision : Int) - 1) := by
  have power : (f.precision : Int) - 1 = ((f.precision - 1 : Nat) : Int) := by omega
  rw [power, zpow_natCast]
  exact Nat.cast_pow ..

/-- The unit of rounding is the smallest in which the fraction fits the precision, or the least of
the format. -/
theorem roundingExponent_spec (wide : 0 < f.precision) {num den : Nat} (some : num ≠ 0)
    (positive : 0 < den) :
    f.minExponent ≤ f.roundingExponent num den ∧
      (num : ℚ) / den < 2 * f.binade * 2 ^ f.roundingExponent num den ∧
      (f.minExponent < f.roundingExponent num den →
        f.binade * 2 ^ f.roundingExponent num den ≤ (num : ℚ) / den) := by
  obtain ⟨above, below⟩ := zpow_log2_lt some positive
  have two : (2 : ℚ) ≠ 0 := by norm_num
  have shift (e : Int) : 2 * (f.binade : ℚ) * 2 ^ e = f.binade * 2 ^ (e + 1) := by
    rw [zpow_add_one₀ two]
    ring
  unfold roundingExponent
  dsimp only
  generalize guessed : max ((num.log2 : Int) - den.log2 - f.precision) f.minExponent = guess
  have fits : (scaled num den guess).1 / (scaled num den guess).2 < Nat.pow 2 f.precision ↔
      (num : ℚ) / den < 2 * f.binade * 2 ^ guess := by
    have denominator : (0 : ℚ) < (scaled num den guess).2 := mod_cast scaled_pos positive guess
    rw [two_mul_binade wide, Nat.div_lt_iff_lt_mul (scaled_pos positive guess),
      ← div_lt_iff₀ (two_zpow_pos guess), ← ratio_scaled, div_lt_iff₀ denominator]
    exact_mod_cast Iff.rfl
  split
  · next small =>
      refine ⟨by omega, fits.1 small, fun normal => ?_⟩
      have exact : guess = (num.log2 : Int) - den.log2 - f.precision := by omega
      have power : (f.precision : Int) - 1 + guess = num.log2 - den.log2 - 1 := by omega
      rw [binade_cast wide, ← zpow_add₀ two, power]
      exact above.le
  · next large =>
      have reaches := not_lt.1 (mt fits.2 large)
      refine ⟨by omega, ?_, fun _ => (shift guess).symm.le.trans reaches⟩
      rw [shift, binade_cast wide, ← zpow_add₀ two]
      exact below.trans_le (zpow_le_zpow_right₀ (by norm_num) (by omega))

/-- A significand and an exponent as the finite numbers of a format have them. -/
structure Fits (f : BinaryFormat) (significand : Nat) (exponent : Int) : Prop where
  least : f.minExponent ≤ exponent
  small : significand < 2 * f.binade
  normal : f.minExponent < exponent → f.binade ≤ significand

/-- The encoding of a finite number, sign apart. -/
def encode (f : BinaryFormat) (significand : Nat) (exponent : Int) : Nat :=
  (exponent - f.minExponent).toNat * f.binade + significand

end BinaryFormat

namespace Decimal.Interval

/-- Whether a number lies in the interval, whose ends belong to it if it is closed. -/
def Contains (i : Interval) (x : ℚ) : Prop :=
  if i.closed then i.lower * 2 ^ i.quarter ≤ x ∧ x ≤ i.upper * 2 ^ i.quarter
  else i.lower * 2 ^ i.quarter < x ∧ x < i.upper * 2 ^ i.quarter

variable {i : Interval} {x : ℚ}

theorem Contains.between (inside : i.Contains x) :
    i.lower * 2 ^ i.quarter ≤ x ∧ x ≤ i.upper * 2 ^ i.quarter := by
  unfold Contains at inside
  split at inside
  · exact inside
  · exact ⟨inside.1.le, inside.2.le⟩

theorem Contains.strictly (inside : i.Contains x) (opened : i.closed = false) :
    i.lower * 2 ^ i.quarter < x ∧ x < i.upper * 2 ^ i.quarter := by
  rw [Contains, opened] at inside
  exact inside

variable {f : BinaryFormat} {significand : Nat} {exponent : Int}

/-- The interval around a number ends half a unit away, or a quarter below the least significand. -/
theorem Contains.ends
    (inside : (Interval.around f significand exponent).Contains x) :
    (significand - 1 / 2) * 2 ^ exponent ≤ x ∧ x ≤ (significand + 1 / 2) * 2 ^ exponent ∧
      (significand % 2 = 1 → (significand - 1 / 2) * 2 ^ exponent < x ∧
        x < (significand + 1 / 2) * 2 ^ exponent) ∧
      (significand = f.binade → f.minExponent < exponent →
        (significand - 1 / 4) * 2 ^ exponent ≤ x) := by
  have unit := BinaryFormat.two_zpow_pos exponent
  have quarter : (2 : ℚ) ^ (Interval.around f significand exponent).quarter = 2 ^ exponent / 4 := by
    change (2 : ℚ) ^ (exponent - 2) = _
    rw [zpow_sub₀ (by norm_num)]
    norm_num
  have upper : ((Interval.around f significand exponent).upper : ℚ) = 4 * significand + 2 :=
    mod_cast rfl
  have lower : (4 * significand - 2 : ℚ) ≤ (Interval.around f significand exponent).lower := by
    have : 4 * significand ≤ (Interval.around f significand exponent).lower + 2 := by
      unfold Interval.around
      dsimp only
      split <;> omega
    have : (4 * significand : ℚ) ≤ (Interval.around f significand exponent).lower + 2 := mod_cast this
    linarith
  have weak := inside.between
  rw [quarter, upper] at weak
  refine ⟨by nlinarith, by nlinarith, fun odd => ?_, fun least normal => ?_⟩
  · have strict := inside.strictly (decide_eq_false (by omega))
    rw [quarter, upper] at strict
    constructor <;> nlinarith
  · have end_ : (4 * significand - 1 : ℚ) ≤ (Interval.around f significand exponent).lower := by
      have : 4 * significand ≤ (Interval.around f significand exponent).lower + 1 := by
        unfold Interval.around
        dsimp only
        rw [if_pos ⟨least, normal⟩]
        omega
      have : (4 * significand : ℚ) ≤ (Interval.around f significand exponent).lower + 1 :=
        mod_cast this
      linarith
    nlinarith

end Decimal.Interval

namespace BinaryFormat

open Decimal

variable {f : BinaryFormat} {significand : Nat} {exponent : Int}

/-- A fraction is rounded in its unit. -/
theorem nearest_eq_of_unit {num den s : Nat} {e : Int} (some : num ≠ 0) (positive : 0 < den)
    (unit : f.roundingExponent num den = e) (low : (s - 1 / 2) * 2 ^ e ≤ (num : ℚ) / den)
    (high : (num : ℚ) / den ≤ (s + 1 / 2) * 2 ^ e)
    (odd : s % 2 = 1 → (s - 1 / 2) * 2 ^ e < (num : ℚ) / den ∧
      (num : ℚ) / den < (s + 1 / 2) * 2 ^ e) :
    f.nearest num den = min (f.encode s e) f.infinityCode := by
  have power := two_zpow_pos e
  rw [← le_div_iff₀ power, ← ratio_scaled] at low
  rw [← div_le_iff₀ power, ← ratio_scaled] at high
  rw [← lt_div_iff₀ power, ← div_lt_iff₀ power, ← ratio_scaled] at odd
  rw [nearest, if_neg some, unit]
  dsimp only
  rw [roundHalfEven_eq (scaled_pos positive e) low high odd]
  rfl

/-- The unit in which a fraction near a number is rounded is that of the number, or half of it below
the least significand of an exponent. -/
theorem roundingExponent_of_ends (wide : 0 < f.precision) (fits : f.Fits significand exponent)
    {num den : Nat} (numerator : num ≠ 0) (positive : 0 < den)
    (inside : (Interval.around f significand exponent).Contains (num / den)) :
    f.roundingExponent num den = exponent ∨
      f.roundingExponent num den = exponent - 1 ∧ significand = f.binade ∧
        f.minExponent < exponent := by
  obtain ⟨low, high, -, dense⟩ := inside.ends
  obtain ⟨bottom, fit, reach⟩ := roundingExponent_spec wide numerator positive
  have unit := two_zpow_pos exponent
  have doubled {e e' : Int} (less : e < e') : (2 : ℚ) * 2 ^ e ≤ 2 ^ e' := by
    rw [← zpow_one_add₀ (by norm_num)]
    exact zpow_le_zpow_right₀ (by norm_num) (by omega)
  rcases Int.lt_trichotomy (f.roundingExponent num den) exponent with finer | same | coarser
  · right
    have normal := bottom.trans_lt finer
    have binade : (1 : ℚ) ≤ f.binade := mod_cast Nat.one_le_pow _ _ (by decide)
    have half := doubled finer
    have least : significand = f.binade := by
      refine Nat.le_antisymm ?_ (fits.normal normal)
      by_contra more
      have : (f.binade : ℚ) + 1 ≤ significand := mod_cast Nat.lt_of_not_le more
      nlinarith
    refine ⟨?_, least, normal⟩
    by_contra other
    have quarter := doubled (by omega : f.roundingExponent num den < exponent - 1)
    have half := doubled (by omega : exponent - 1 < exponent)
    have dense := dense least normal
    rw [least] at dense
    nlinarith
  · exact .inl same
  · -- no number of the exponent reaches the unit of a larger one
    exfalso
    have reach := reach (fits.least.trans_lt coarser)
    have double := doubled coarser
    have small : (significand : ℚ) + 1 ≤ 2 * f.binade := mod_cast fits.small
    nlinarith

/-- Twice the least significand in half the unit is the same number. -/
theorem encode_double {exponent : Int} (normal : f.minExponent < exponent) :
    f.encode (2 * f.binade) (exponent - 1) = f.encode f.binade exponent := by
  obtain ⟨n, steps⟩ : ∃ n, (exponent - f.minExponent).toNat = n + 1 :=
    ⟨(exponent - f.minExponent).toNat - 1, by omega⟩
  have before : (exponent - 1 - f.minExponent).toNat = n := by omega
  rw [encode, encode, steps, before]
  ring

/-- What lies in the interval around a number is rounded to the number. -/
theorem nearest_eq_encode (wide : 0 < f.precision) (fits : f.Fits significand exponent)
    (some : significand ≠ 0) (finite : f.encode significand exponent < f.infinityCode) {num den : Nat}
    (positive : 0 < den) (inside : (Interval.around f significand exponent).Contains (num / den)) :
    f.nearest num den = f.encode significand exponent := by
  obtain ⟨low, high, odd, dense⟩ := inside.ends
  have numerator : num ≠ 0 := by
    rintro rfl
    have one : (1 : ℚ) ≤ significand := mod_cast Nat.pos_of_ne_zero some
    have above : 0 < (significand - 1 / 2) * (2 : ℚ) ^ exponent :=
      mul_pos (by linarith) (two_zpow_pos exponent)
    simp only [Nat.cast_zero, zero_div] at low
    linarith
  rcases roundingExponent_of_ends wide fits numerator positive inside with
    same | ⟨same, rfl, normal⟩
  · rw [nearest_eq_of_unit numerator positive same low high odd, Nat.min_eq_left finite.le]
  · obtain ⟨-, fit, -⟩ := roundingExponent_spec wide numerator positive
    have dense := dense rfl normal
    have halved : (2 : ℚ) ^ exponent = 2 * 2 ^ (exponent - 1) := by
      rw [← zpow_one_add₀ (by norm_num), add_sub_cancel]
    have half := two_zpow_pos (exponent - 1)
    rw [nearest_eq_of_unit numerator positive same (s := 2 * f.binade), encode_double normal,
      Nat.min_eq_left finite.le]
    · rw [halved] at dense
      push_cast
      linarith
    · rw [same] at fit
      push_cast
      linarith
    · omega

end BinaryFormat

end SolanaBlocks
