import Mathlib.Algebra.Order.Ring.Nat
import Mathlib.Tactic.Ring
import Mathlib.Tactic.SplitIfs
import SolanaBlocks.Proofs.Decimal.Encoding
import SolanaBlocks.Proofs.Decimal.Numerals

/-!
# Numbers of a moderate size

The written form of a number stays below `2 ^ 70`: whole numbers are kept within 64 bits, and a
number with a fraction has a small significand. A numeral of this size reads as a finite number, so
a negative number that was written can be read back and its sign taken away.
-/

namespace SolanaBlocks

namespace BinaryFormat

theorem lt_pow_log2_succ (n : Nat) : n < 2 ^ (n.log2 + 1) :=
  Nat.lt_log2_self

/-- The exponent of the unit is small enough for the significand to lose no more than it has to. -/
theorem le_roundingExponent (num den : Nat) :
    (num.log2 : Int) - den.log2 - 53 ≤ double.roundingExponent num den ∧
      double.roundingExponent num den ≤ max ((num.log2 : Int) - den.log2 - 53) (-1074) + 1 := by
  have guess : double.roundingExponent num den =
      if (scaled num den (max ((num.log2 : Int) - den.log2 - 53) (-1074))).1 /
          (scaled num den (max ((num.log2 : Int) - den.log2 - 53) (-1074))).2 < Nat.pow 2 53 then
        max ((num.log2 : Int) - den.log2 - 53) (-1074)
      else max ((num.log2 : Int) - den.log2 - 53) (-1074) + 1 := rfl
  rw [guess]
  split_ifs <;> omega

/-- A scaled fraction stays below twice the bound of the significands. -/
theorem scaled_lt {num den : Nat} (positive : 0 < den) {exponent : Int}
    (large : (num.log2 : Int) - den.log2 - 53 ≤ exponent) :
    (scaled num den exponent).1 < 2 ^ 54 * (scaled num den exponent).2 := by
  have above := lt_pow_log2_succ num
  have below : 2 ^ den.log2 ≤ den := Nat.log2_self_le (Nat.pos_iff_ne_zero.1 positive)
  have shift : num.log2 + 1 + (-exponent).toNat ≤ 54 + den.log2 + exponent.toNat := by omega
  change num * 2 ^ (-exponent).toNat < 2 ^ 54 * (den * 2 ^ exponent.toNat)
  calc num * 2 ^ (-exponent).toNat
      < 2 ^ (num.log2 + 1) * 2 ^ (-exponent).toNat :=
        Nat.mul_lt_mul_of_pos_right above (Nat.pow_pos (by decide))
    _ = 2 ^ (num.log2 + 1 + (-exponent).toNat) := (Nat.pow_add ..).symm
    _ ≤ 2 ^ (54 + den.log2 + exponent.toNat) := Nat.pow_le_pow_right (by decide) shift
    _ = 2 ^ 54 * (2 ^ den.log2 * 2 ^ exponent.toNat) := by rw [Nat.pow_add, Nat.pow_add]; ring
    _ ≤ 2 ^ 54 * (den * 2 ^ exponent.toNat) :=
        Nat.mul_le_mul_left _ (Nat.mul_le_mul_right _ below)

theorem roundHalfEven_le (num den : Nat) : roundHalfEven num den ≤ num / den + 1 := by
  unfold roundHalfEven
  dsimp only
  split
  · omega
  split
  · omega
  split <;> omega

/-- A fraction below `2 ^ 70` is not rounded to infinity. -/
theorem nearest_lt_infinityCode {num den : Nat} (small : num < 2 ^ 70 * den) :
    double.nearest num den < double.infinityCode := by
  have positive : 0 < den := by
    rcases Nat.eq_zero_or_pos den with rfl | positive
    · simp at small
    · exact positive
  have infinity : double.infinityCode = 2047 * 2 ^ 52 := rfl
  unfold nearest
  split
  · rw [infinity]
    decide
  · next some =>
      obtain ⟨least, most⟩ := le_roundingExponent num den
      have ratio : num.log2 ≤ 70 + den.log2 := by
        have low : 2 ^ num.log2 ≤ num := Nat.log2_self_le some
        have high := lt_pow_log2_succ den
        have bound : 2 ^ num.log2 < 2 ^ (70 + (den.log2 + 1)) := by
          rw [Nat.pow_add]
          exact Nat.lt_of_le_of_lt low (Nat.lt_of_lt_of_le small
            (Nat.mul_le_mul_left _ (Nat.le_of_lt high)))
        have := (Nat.pow_lt_pow_iff_right (by decide)).1 bound
        omega
      have fits := scaled_lt positive least
      generalize double.roundingExponent num den = exponent at least most fits ⊢
      dsimp only
      generalize scaled num den exponent = fraction at fits ⊢
      have quotient : fraction.1 / fraction.2 < 2 ^ 54 :=
        Nat.div_lt_of_lt_mul (by rwa [Nat.mul_comm])
      have rounded := roundHalfEven_le fraction.1 fraction.2
      have least : double.minExponent = -1074 := rfl
      have binade : double.binade = 2 ^ 52 := rfl
      refine Nat.lt_of_le_of_lt (Nat.min_le_left _ _) ?_
      rw [infinity, binade, least]
      have steps : (exponent - -1074).toNat ≤ 1092 := by omega
      have := Nat.mul_le_mul_right (2 ^ 52) steps
      omega

/-- Every significand of a float has 53 bits. -/
theorem significand_lt_of_decode {code : Nat} {negative : Bool} {significand : Nat} {exponent : Int}
    (decoded : double.decode code = .finite negative significand exponent) :
    significand < 2 ^ 53 := by
  have binade : double.binade = 2 ^ 52 := rfl
  unfold decode at decoded
  dsimp only at decoded
  split at decoded
  · cases decoded
  split at decoded
  · cases decoded
  split at decoded
  · cases decoded
    omega
  · have below := Nat.mod_lt (code % double.signWeight) (by decide : 0 < double.binade)
    cases decoded
    omega

/-- The encoding with a sign of a finite magnitude stands for a finite number of this sign. -/
theorem decode_withSign {magnitude : Nat} (finite : magnitude < double.infinityCode)
    (negative : Bool) :
    ∃ significand exponent,
      double.decode (double.withSign negative magnitude) = .finite negative significand exponent := by
  have infinity : double.infinityCode = 2047 * 2 ^ 52 := rfl
  have weight : double.signWeight = 2048 * 2 ^ 52 := rfl
  have sign : decide (double.signWeight ≤ double.withSign negative magnitude) = negative := by
    cases negative with
    | false => exact decide_eq_false (by change ¬ _ ≤ magnitude; omega)
    | true => exact decide_eq_true (Nat.le_add_right ..)
  have below : magnitude < double.signWeight := by omega
  have rest : double.withSign negative magnitude % double.signWeight = magnitude := by
    cases negative with
    | false => exact Nat.mod_eq_of_lt below
    | true => exact (Nat.add_mod_left ..).trans (Nat.mod_eq_of_lt below)
  unfold decode
  dsimp only
  rw [sign, rest, if_neg (by omega), if_neg (by omega)]
  split
  · exact ⟨_, _, rfl⟩
  · exact ⟨_, _, rfl⟩

end BinaryFormat

namespace Decimal

/-- A decimal that is not larger than the numbers of a moderate size. -/
def Moderate (coefficient : Nat) (exponent : Int) : Prop :=
  exponent ≤ 0 ∧ coefficient < 2 ^ 70 * 10 ^ (-exponent).toNat

theorem Moderate.nearestDecimal_lt {coefficient : Nat} {exponent : Int}
    (moderate : Moderate coefficient exponent) :
    BinaryFormat.double.nearestDecimal coefficient exponent < BinaryFormat.double.infinityCode := by
  obtain ⟨fraction, small⟩ := moderate
  have whole : exponent.toNat = 0 := by omega
  have zero : (0 : Nat) < BinaryFormat.double.infinityCode := by decide
  unfold BinaryFormat.nearestDecimal
  dsimp only
  split
  · exact zero
  split
  · next some beyond =>
      -- a decimal with this many digits before its point is not moderate
      have low : 10 ^ ((Nat.toDigits 10 coefficient).length - 1) ≤ coefficient := by
        by_contra high
        have short := (Nat.length_toDigits_le_iff (by decide : 1 < 10)
          (by omega : 0 < (Nat.toDigits 10 coefficient).length - 1)).2 (Nat.lt_of_not_le high)
        omega
      have bound : 10 ^ ((Nat.toDigits 10 coefficient).length - 1) <
          10 ^ (70 + (-exponent).toNat) := by
        rw [Nat.pow_add]
        exact Nat.lt_of_le_of_lt low (Nat.lt_of_lt_of_le small
          (Nat.mul_le_mul_right _ (Nat.pow_le_pow_left (by decide) 70)))
      have := (Nat.pow_lt_pow_iff_right (by decide)).1 bound
      omega
  split
  · exact zero
  · refine BinaryFormat.nearest_lt_infinityCode ?_
    rw [whole]
    simpa using small

/-! ## Written numbers -/

theorem Interval.holds_of_hit? {i : Interval} {tie : Tie} {k : Int} {c : Nat}
    (found : i.hit? tie k = some c) : i.holds k c = true := by
  unfold hit? at found
  dsimp only at found
  split at found
  · cases found
  · next low _ => cases found; exact low
  · next _ high => cases found; exact high
  · next low high =>
      split at found
      · cases found; exact low
      split at found
      · cases found; exact high
      cases tie with
      | up => cases found; exact high
      | toEven => dsimp only at found; split at found <;> cases found <;> assumption

theorem Interval.search_le (i : Interval) (tie : Tie) (steps : Nat) (k : Int) :
    (i.search tie steps k).exponent ≤ k ∧
      (i.search tie steps k).coefficient ≤ i.below (i.search tie steps k).exponent + 1 := by
  induction steps generalizing k with
  | zero => exact ⟨Int.le_refl _, Nat.le_succ _⟩
  | succ steps ih =>
      rw [search]
      split
      · next c found =>
          refine ⟨Int.le_refl _, ?_⟩
          unfold hit? at found
          dsimp only at found ⊢
          split at found
          · cases found
          · cases found; omega
          · cases found; omega
          · split at found
            · cases found; omega
            split at found
            · cases found; omega
            cases tie with
            | up => cases found; omega
            | toEven => dsimp only at found; split at found <;> cases found <;> omega
      · obtain ⟨le, bound⟩ := ih (k - 1)
        exact ⟨by omega, bound⟩

/-- The digits of a number with a fraction are moderate. -/
theorem moderate_shortest {tie : Tie} {significand : Nat} {exponent : Int}
    (small : significand < 2 ^ 53) (fraction : exponent < 0) :
    let d := shortest .double tie significand exponent
    Moderate (d.coefficient * 10 ^ d.exponent.toNat) (min d.exponent 0) := by
  intro d
  obtain ⟨top, bound⟩ := Interval.search_le (Interval.around .double significand exponent) tie
    ((Interval.around .double significand exponent).topExponent -
      min (Interval.around .double significand exponent).quarter 0).toNat
    (Interval.around .double significand exponent).topExponent
  change d.exponent ≤ _ at top
  change d.coefficient ≤ Interval.below _ d.exponent + 1 at bound
  generalize d.exponent = k at top bound ⊢
  generalize d.coefficient = c at bound ⊢
  have log : significand.log2 < 53 := by
    rcases Nat.eq_zero_or_pos significand with rfl | some
    · decide
    · exact (Nat.log2_lt (by omega)).2 small
  have top : k ≤ 17 := by
    refine Int.le_trans top ?_
    change (((significand.log2 : Int) + 3 + (exponent - 2)) * 30103 / 100000 + 2) ≤ 17
    omega
  have below : Interval.below (Interval.around .double significand exponent) k * 10 ^ k.toNat ≤
      4 * significand * 10 ^ (-k).toNat := by
    have quarter : (exponent - 2).toNat = 0 := by omega
    change 4 * significand * (2 ^ (exponent - 2).toNat * 10 ^ (-k).toNat) /
      (10 ^ k.toNat * 2 ^ (-(exponent - 2)).toNat) * 10 ^ k.toNat ≤ _
    rw [quarter, Nat.pow_zero, Nat.one_mul]
    refine (Nat.mul_le_mul_right _ (Nat.div_le_div_left
      (Nat.le_mul_of_pos_right _ (Nat.pow_pos (by decide))) (Nat.pow_pos (by decide)))).trans ?_
    exact Nat.div_mul_le_self _ _
  refine ⟨Int.min_le_right _ _, ?_⟩
  have places : (-(min k 0)).toNat = (-k).toNat := by omega
  rw [places]
  have ten : 10 ^ k.toNat ≤ 10 ^ 17 := Nat.pow_le_pow_right (by decide) (by omega)
  have one : 1 ≤ 10 ^ (-k).toNat := Nat.one_le_pow _ _ (by decide)
  have product := Nat.mul_le_mul_right (10 ^ k.toNat) bound
  have scale := Nat.mul_lt_mul_of_pos_right small one
  rw [Nat.add_mul, Nat.one_mul] at product
  generalize 10 ^ (-k).toNat = p at one below scale ⊢
  generalize 10 ^ k.toNat = t at ten below product ⊢
  rw [Nat.mul_assoc] at below
  omega

theorem WrittenAs.moderate {number : BinaryNumber} {digits : List Char}
    (written : WrittenAs number digits)
    (small : ∀ negative significand exponent,
      number = .finite negative significand exponent → significand < 2 ^ 53) :
    ∃ coefficient exponent, readDecimal? digits = some (.decimal coefficient exponent) ∧
      Moderate coefficient exponent := by
  cases written with
  | integer =>
      have digits : ∀ c ∈ Nat.toDigits 10 number.toInt64.natAbs, c.isDigit :=
        fun _ => Nat.isDigit_of_mem_toDigits (by decide) (by decide)
      refine ⟨_, _, readDecimal?_whole Nat.toDigits_ne_nil digits, Int.le_refl 0, ?_⟩
      rw [digitsValue_toDigits]
      change (max (-0x8000000000000000) (min 0x7FFFFFFFFFFFFFFF _) : Int).natAbs < 2 ^ 70 * 1
      omega
  | fraction fraction =>
      exact ⟨_, _, readDecimal?_positional _, moderate_shortest (small _ _ _ rfl) fraction⟩

/-- The written form of a number below zero can be read back, as a number with a minus. -/
theorem readFloat?_numberText {number : BinaryNumber} {digits : List Char}
    (written : WrittenAs number digits)
    (small : ∀ negative significand exponent,
      number = .finite negative significand exponent → significand < 2 ^ 53) :
    ∃ x significand exponent, readFloat? (String.ofList ('-' :: digits)) = some x ∧
      BinaryNumber.ofFloat x = .finite true significand exponent := by
  obtain ⟨coefficient, exponent, read, moderate⟩ := written.moderate small
  have finite := moderate.nearestDecimal_lt
  obtain ⟨significand, exponent', decoded⟩ := BinaryFormat.decode_withSign finite true
  have code : readFloat? (String.ofList ('-' :: digits)) =
      some (Float.ofBits (UInt64.ofNat (BinaryFormat.double.withSign true
        (BinaryFormat.double.nearestDecimal coefficient exponent)))) := by
    simp [readFloat?, read?, splitSign, readMagnitude?_numeral written.numeral, read]
  refine ⟨_, significand, exponent', code, ?_⟩
  rw [BinaryNumber.ofFloat_ofBits]
  have infinity : BinaryFormat.double.infinityCode = 2047 * 2 ^ 52 := rfl
  have weight : BinaryFormat.double.signWeight = 2048 * 2 ^ 52 := rfl
  have word : BinaryFormat.double.withSign true
      (BinaryFormat.double.nearestDecimal coefficient exponent) < 2 ^ 64 := by
    change BinaryFormat.double.signWeight + _ < _
    omega
  rw [UInt64.toNat_ofNat_of_lt' word, decoded]

end Decimal

end SolanaBlocks
