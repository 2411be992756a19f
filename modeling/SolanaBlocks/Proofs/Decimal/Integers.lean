import SolanaBlocks.Proofs.Decimal.ReadBack

/-!
# Numbers as rationals

A finite binary number is a rational. If it is an integer its written form is the numeral of that
integer, as long as it fits 64 bits, and the numeral of an integer that is a float reads as the float.
-/

namespace SolanaBlocks

namespace BinaryNumber

/-- The rational number that a finite binary number is. -/
def rational? : BinaryNumber → Option ℚ
  | .finite negative significand exponent =>
    some ((if negative then -1 else 1) * (significand * 2 ^ exponent))
  | _ => none

variable {x : BinaryNumber} {q : ℚ}

theorem rational?_isSome : x.rational?.isSome ↔ x.isFinite := by
  cases x <;> simp [rational?, isFinite]

theorem isFinite_neg : x.neg.isFinite = x.isFinite := by
  cases x <;> rfl

theorem rational?_neg : x.neg.rational? = x.rational?.map (- ·) := by
  cases x with
  | finite negative significand exponent => cases negative <;> simp [neg, rational?]
  | _ => rfl

theorem mul_zpow_eq_iff {significand n : Nat} {exponent : Int} :
    (significand * 2 ^ exponent : ℚ) = n ↔
      significand * 2 ^ exponent.toNat = n * 2 ^ (-exponent).toNat := by
  have power : (0 : ℚ) < 2 ^ (-exponent).toNat := by positivity
  rw [BinaryFormat.zpow_toNat two_ne_zero, ← mul_div_assoc, div_eq_iff power.ne']
  exact_mod_cast Iff.rfl

/-- The sign of an integer and its magnitude. -/
theorem sign_and_natAbs {negative : Bool} {significand : Nat} {exponent z : ℤ}
    (value : (finite negative significand exponent).rational? = some (z : ℚ)) :
    z = (if negative then -z.natAbs else z.natAbs : ℤ) ∧
      (significand * 2 ^ exponent : ℚ) = z.natAbs := by
  have value := Option.some.inj value
  have positive : (0 : ℚ) ≤ significand * 2 ^ exponent :=
    mul_nonneg (Nat.cast_nonneg _) (BinaryFormat.two_zpow_pos exponent).le
  cases negative with
  | false =>
      simp only [Bool.false_eq_true, if_false, one_mul] at value ⊢
      have sign : 0 ≤ z := by exact_mod_cast value ▸ positive
      exact ⟨by omega, by rw [value, Nat.cast_natAbs, abs_of_nonneg sign]⟩
  | true =>
      simp only [if_true, neg_one_mul] at value ⊢
      have sign : z ≤ 0 := by exact_mod_cast value ▸ neg_nonpos_of_nonneg positive
      refine ⟨by omega, ?_⟩
      rw [Nat.cast_natAbs, abs_of_nonpos sign, Int.cast_neg, ← value, neg_neg]

theorem isInteger_iff (value : x.rational? = some q) : x.isInteger ↔ ∃ z : ℤ, q = z := by
  cases x with
  | nan => cases value
  | infinite negative => cases value
  | finite negative significand exponent =>
      have divides : (finite negative significand exponent).isInteger ↔
          2 ^ (-exponent).toNat ∣ significand := by
        rw [Nat.dvd_iff_mod_eq_zero]
        exact beq_iff_eq
      rw [divides]
      constructor
      · rintro ⟨n, rfl⟩
        have whole : ((2 ^ (-exponent).toNat * n : Nat) : ℚ) * 2 ^ exponent =
            (n * 2 ^ exponent.toNat : Nat) := mul_zpow_eq_iff.2 (by ring)
        cases value
        rw [whole]
        refine ⟨(if negative then -1 else 1) * (n * 2 ^ exponent.toNat : Nat), ?_⟩
        cases negative <;> simp
      · rintro ⟨z, rfl⟩
        have whole := mul_zpow_eq_iff.1 (sign_and_natAbs value).2
        rcases Int.le_total 0 exponent with large | small
        · have none : (-exponent).toNat = 0 := by omega
          simp [none]
        · have none : exponent.toNat = 0 := by omega
          rw [none, Nat.pow_zero, Nat.mul_one] at whole
          exact ⟨z.natAbs, by rw [whole, Nat.mul_comm]⟩

theorem truncate_eq {z : ℤ} (value : x.rational? = some (z : ℚ)) (limit : Nat) :
    x.truncate limit = z := by
  cases x with
  | nan => cases value
  | infinite negative => cases value
  | finite negative significand exponent =>
      obtain ⟨sign, magnitude⟩ := sign_and_natAbs value
      have whole := mul_zpow_eq_iff.1 magnitude
      have cut : significand * Nat.pow 2 exponent.toNat / Nat.pow 2 (-exponent).toNat = z.natAbs :=
        Nat.div_eq_of_eq_mul_left (Nat.pow_pos (by decide)) whole
      rw [truncate, cut]
      exact sign.symm

theorem isBelowZero_iff (value : x.rational? = some q) : x.isBelowZero ↔ q < 0 := by
  cases x with
  | nan => cases value
  | infinite negative => cases value
  | finite negative significand exponent =>
      cases value
      have unit := BinaryFormat.two_zpow_pos exponent
      cases negative with
      | false =>
          have : (0 : ℚ) ≤ significand * 2 ^ exponent := by positivity
          simp [isBelowZero, this]
      | true => simp [isBelowZero, unit, Nat.pos_iff_ne_zero]

theorem decode_mod_signWeight {f : BinaryFormat} {code significand : Nat} {negative : Bool}
    {exponent : Int} (decoded : f.decode code = .finite negative significand exponent) :
    f.decode (code % f.signWeight) = .finite false significand exponent := by
  have weight : 0 < f.signWeight :=
    Nat.mul_pos (Nat.succ_pos _) (Nat.pow_pos (by decide))
  have positive : decide (f.signWeight ≤ code % f.signWeight) = false :=
    decide_eq_false (Nat.not_le.2 (Nat.mod_lt _ weight))
  unfold BinaryFormat.decode at decoded ⊢
  dsimp only at decoded ⊢
  rw [Nat.mod_mod, positive]
  grind

/-- The opposite of a finite float below zero is a float. -/
theorem exists_opposite {x : Float} (finite : (ofFloat x).isFinite)
    (below : (ofFloat x).isBelowZero) : ∃ y, ofFloat y = (ofFloat x).neg := by
  cases number : ofFloat x with
  | nan => rw [number] at finite; cases finite
  | infinite negative => rw [number] at finite; cases finite
  | finite negative significand exponent =>
      rw [number, isBelowZero] at below
      obtain ⟨rfl, -⟩ := Bool.and_eq_true_iff.1 below
      have weight : BinaryFormat.double.signWeight = 2048 * 2 ^ 52 := rfl
      have word : x.toBits.toNat % BinaryFormat.double.signWeight < 2 ^ 64 :=
        (Nat.mod_lt _ (by omega)).trans (by omega)
      refine ⟨Float.ofBits (UInt64.ofNat (x.toBits.toNat % BinaryFormat.double.signWeight)), ?_⟩
      rw [ofFloat_ofBits, UInt64.toNat_ofNat_of_lt' word]
      exact decode_mod_signWeight number

end BinaryNumber

/-! ## Written numbers -/

namespace FieldValue

variable {x : BinaryNumber}

/-- An integer is written as itself, or as the end of the 64-bit integers that it lies beyond. -/
theorem numberText_integer {z : ℤ} (value : x.rational? = some (z : ℚ)) :
    numberText x = toString (max (-9223372036854775808) (min 9223372036854775807 z)) := by
  rw [numberText, if_pos ((BinaryNumber.isInteger_iff value).2 ⟨z, rfl⟩), BinaryNumber.toInt64,
    BinaryNumber.truncate_eq value]

/-- A number with a fraction has the plain form. -/
theorem numberText_fraction {q : ℚ} (value : x.rational? = some q) (broken : ∀ z : ℤ, q ≠ z) :
    numberText x = Decimal.plain .double x := by
  refine if_neg fun integer => ?_
  obtain ⟨z, same⟩ := (BinaryNumber.isInteger_iff value).1 integer
  exact broken z same

end FieldValue

namespace Decimal

variable {x : Float}

/-- The numeral of an integer other than zero that is a float reads as the float. -/
theorem readFloat?_toString {z : ℤ} (value : (BinaryNumber.ofFloat x).rational? = some (z : ℚ))
    (nonzero : z ≠ 0) : readFloat? (toString z) = some x := by
  cases number : BinaryNumber.ofFloat x with
  | nan => rw [number] at value; cases value
  | infinite => rw [number] at value; cases value
  | finite negative significand exponent =>
      rw [number] at value
      obtain ⟨sign, magnitude⟩ := BinaryNumber.sign_and_natAbs value
      have some : significand ≠ 0 := by
        rintro rfl
        simp only [Nat.cast_zero, zero_mul] at magnitude
        exact nonzero (Int.natAbs_eq_zero.1 (mod_cast magnitude.symm))
      have spelled : toString z =
          String.ofList (minus negative ++ Nat.toDigits 10 z.natAbs) := by
        have below : decide (z < 0) = negative := by
          cases negative with
          | false =>
              simp only [Bool.false_eq_true, if_false] at sign
              exact decide_eq_false (by omega)
          | true =>
              simp only [if_true] at sign
              exact decide_eq_true (by omega)
        rw [← below, ← toList_toString_int, String.ofList_toList]
      rw [spelled]
      refine readFloat?_of_contains number some (numeral_toDigits _)
        (readDecimal?_whole Nat.toDigits_ne_nil fun _ =>
          Nat.isDigit_of_mem_toDigits (by decide) (by decide)) ?_
      rw [digitsValue_toDigits, zpow_zero, mul_one, ← magnitude]
      exact Interval.contains_own some

/-- The least of the 64-bit integers as a float. -/
def leastWord : Float := Float.ofBits 0xC3E0000000000000

theorem rational?_leastWord :
    (BinaryNumber.ofFloat leastWord).rational? = some ((-9223372036854775808 : ℤ) : ℚ) := by
  have number : BinaryNumber.ofFloat leastWord = .finite true (2 ^ 52) 11 :=
    (BinaryNumber.ofFloat_ofBits _).trans rfl
  rw [number, BinaryNumber.rational?]
  norm_num

/-- What is written for a number below zero reads as a number below zero, and the opposites of the
two are written alike. -/
theorem readFloat?_numberText_of_below (finite : (BinaryNumber.ofFloat x).isFinite)
    (below : (BinaryNumber.ofFloat x).isBelowZero) :
    ∃ y, readFloat? (FieldValue.numberText (BinaryNumber.ofFloat x)) = some y ∧
      (BinaryNumber.ofFloat y).isBelowZero ∧
      FieldValue.numberText (BinaryNumber.ofFloat y).neg =
        FieldValue.numberText (BinaryNumber.ofFloat x).neg := by
  obtain ⟨q, value⟩ := Option.isSome_iff_exists.1 (BinaryNumber.rational?_isSome.2 finite)
  have negative := (BinaryNumber.isBelowZero_iff value).1 below
  by_cases integer : ∃ z : ℤ, q = z
  · obtain ⟨z, rfl⟩ := integer
    have negative : z < 0 := by exact_mod_cast negative
    have opposite : (BinaryNumber.ofFloat x).neg.rational? = some ((-z : ℤ) : ℚ) := by
      rw [BinaryNumber.rational?_neg, value]
      simp
    rcases Int.lt_or_le z (-9223372036854775808) with beyond | within
    · have text : FieldValue.numberText (BinaryNumber.ofFloat x) =
          toString (-9223372036854775808 : ℤ) := by
        rw [FieldValue.numberText_integer value]
        congr 1
        omega
      have leastOpposite : (BinaryNumber.ofFloat leastWord).neg.rational? =
          some ((9223372036854775808 : ℤ) : ℚ) := by
        rw [BinaryNumber.rational?_neg, rational?_leastWord]
        simp
      refine ⟨leastWord, ?_, ?_, ?_⟩
      · rw [text]
        exact readFloat?_toString rational?_leastWord (by decide)
      · exact (BinaryNumber.isBelowZero_iff rational?_leastWord).2 (by norm_num)
      · rw [FieldValue.numberText_integer opposite, FieldValue.numberText_integer leastOpposite]
        congr 1
        omega
    · have text : FieldValue.numberText (BinaryNumber.ofFloat x) = toString z := by
        rw [FieldValue.numberText_integer value]
        congr 1
        omega
      exact ⟨x, text ▸ readFloat?_toString value negative.ne, below, rfl⟩
  · have text := FieldValue.numberText_fraction value fun z same => integer ⟨z, same⟩
    exact ⟨x, text ▸ readFloat?_plain finite, below, rfl⟩

end Decimal

end SolanaBlocks
