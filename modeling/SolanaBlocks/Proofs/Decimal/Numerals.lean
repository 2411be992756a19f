import Mathlib.Algebra.Group.Nat.Defs
import SolanaBlocks.FieldValue

/-!
# Numerals

The written form of a finite number is a numeral, with a minus in front of it exactly if the number
is below zero. A numeral made from digits and an exponent reads as those digits and that exponent.
-/

namespace SolanaBlocks.Decimal

/-- Digits, or digits around a point. -/
inductive Numeral : List Char → Prop where
  | whole {ds} (some : ds ≠ []) (digits : ∀ d ∈ ds, d.isDigit) : Numeral ds
  | point {ds es} (some : ds ≠ []) (digits : ∀ d ∈ ds, d.isDigit) (fraction : es ≠ [])
      (behind : ∀ d ∈ es, d.isDigit) : Numeral (ds ++ '.' :: es)

theorem takeWhile_isDigit {ds rest : List Char} (digits : ∀ d ∈ ds, d.isDigit)
    (stop : ¬ rest.head?.any Char.isDigit) :
    (ds ++ rest).takeWhile Char.isDigit = ds ∧ (ds ++ rest).dropWhile Char.isDigit = rest := by
  rw [List.takeWhile_append_of_pos digits, List.dropWhile_append_of_pos digits]
  cases rest with
  | nil => simp
  | cons c rest =>
      have other : ¬ c.isDigit := by simpa using stop
      constructor <;> simp [other]

theorem Numeral.head {numeral : List Char} (shape : Numeral numeral) :
    ∃ d rest, numeral = d :: rest ∧ d.isDigit := by
  have first : ∀ {ds : List Char}, ds ≠ [] → (∀ d ∈ ds, d.isDigit) → ∀ es,
      ∃ d rest, ds ++ es = d :: rest ∧ d.isDigit := by
    intro ds some digits es
    cases ds with
    | nil => exact absurd rfl some
    | cons d ds => exact ⟨d, ds ++ es, rfl, digits d List.mem_cons_self⟩
  cases shape with
  | whole some digits => simpa using first some digits []
  | point some digits => exact first some digits _

theorem numeral_toDigits (n : Nat) : Numeral (Nat.toDigits 10 n) :=
  .whole Nat.toDigits_ne_nil fun _ => Nat.isDigit_of_mem_toDigits (by decide) (by decide)

theorem isDigit_zeros (n : Nat) : ∀ c ∈ zeros n, c.isDigit := by
  intro c member
  rw [List.eq_of_mem_replicate member]
  rfl

theorem digitsValue_eq_ofDigitChars (start : Nat) (ds : List Char) :
    digitsValue start ds = Nat.ofDigitChars 10 ds start := by
  rw [Nat.ofDigitChars_eq_foldl]
  rfl

theorem digitsValue_append (start : Nat) (ds es : List Char) :
    digitsValue start (ds ++ es) = digitsValue (digitsValue start ds) es := by
  simp [digitsValue]

theorem digitsValue_toDigits (n : Nat) : digitsValue 0 (Nat.toDigits 10 n) = n := by
  rw [digitsValue_eq_ofDigitChars, Nat.ofDigitChars_ten_toDigits]

theorem digitsValue_zeros (start n : Nat) : digitsValue start (zeros n) = start * 10 ^ n := by
  rw [digitsValue_eq_ofDigitChars, zeros, Nat.ofDigitChars_replicate_zero, Nat.mul_comm]

/-- The digits of a decimal without a fraction. -/
theorem positional_whole {d : Digits} (whole : 0 ≤ d.exponent) :
    positional d = Nat.toDigits 10 d.coefficient ++ zeros d.exponent.toNat :=
  if_pos whole

/-- The digits of a decimal with a fraction, which has one digit for each place. -/
theorem positional_point {d : Digits} (fraction : d.exponent < 0) :
    ∃ ds es, positional d = ds ++ '.' :: es ∧ ds ≠ [] ∧ (∀ c ∈ ds, c.isDigit) ∧
      (∀ c ∈ es, c.isDigit) ∧ (es.length : Int) = -d.exponent ∧
      digitsValue (digitsValue 0 ds) es = d.coefficient := by
  have digits : ∀ c ∈ Nat.toDigits 10 d.coefficient, c.isDigit :=
    fun _ => Nat.isDigit_of_mem_toDigits (by decide) (by decide)
  have some : Nat.toDigits 10 d.coefficient ≠ [] := Nat.toDigits_ne_nil
  have value := digitsValue_toDigits d.coefficient
  unfold positional
  generalize Nat.toDigits 10 d.coefficient = ds at digits some value
  dsimp only
  rw [if_neg (Int.not_le.mpr fraction)]
  split
  · next partly =>
      refine ⟨_, _, rfl, ?_, fun c member => digits c (List.mem_of_mem_take member),
        fun c member => digits c (List.mem_of_mem_drop member), ?_, ?_⟩
      · simp only [ne_eq, List.take_eq_nil_iff, some, or_false]
        omega
      · rw [List.length_drop]
        omega
      · rw [← digitsValue_append, List.take_append_drop, value]
  · refine ⟨['0'], zeros (-(ds.length + d.exponent)).toNat ++ ds, rfl, by simp,
      List.all_eq_true.1 (by decide), ?_, ?_, ?_⟩
    · intro c member
      rcases List.mem_append.mp member with member | member
      · exact isDigit_zeros _ c member
      · exact digits c member
    · rw [List.length_append, zeros, List.length_replicate]
      omega
    · rw [digitsValue_append, digitsValue_zeros]
      simpa [digitsValue] using value

theorem numeral_positional (d : Digits) : Numeral (positional d) := by
  rcases Int.lt_or_le d.exponent 0 with fraction | whole
  · obtain ⟨ds, es, spelled, some, digits, behind, places, -⟩ := positional_point fraction
    rw [spelled]
    refine .point some digits ?_ behind
    rintro rfl
    simp at places
    omega
  · rw [positional_whole whole]
    refine .whole (by simp [Nat.toDigits_ne_nil]) ?_
    intro c member
    rcases List.mem_append.mp member with member | member
    · exact Nat.isDigit_of_mem_toDigits (by decide) (by decide) member
    · exact isDigit_zeros _ c member

theorem toList_toString_int (z : Int) :
    (toString z).toList = minus (decide (z < 0)) ++ Nat.toDigits 10 z.natAbs := by
  cases z with
  | ofNat n => simp [minus, toString, Int.repr]
  | negSucc n => simp [minus, toString, Int.repr]

theorem toInt64_neg_iff {number : BinaryNumber} (integer : number.isInteger) :
    number.toInt64 < 0 ↔ number.isBelowZero := by
  cases number with
  | nan => cases integer
  | infinite => cases integer
  | finite negative significand exponent =>
      have divides : Nat.pow 2 (-exponent).toNat ∣ significand :=
        Nat.dvd_of_mod_eq_zero (by simpa [BinaryNumber.isInteger] using integer)
      obtain ⟨whole, same⟩ := divides
      have positive (k : Nat) : 0 < Nat.pow 2 k := Nat.pow_pos (by decide)
      have magnitude : significand * Nat.pow 2 exponent.toNat / Nat.pow 2 (-exponent).toNat =
          whole * Nat.pow 2 exponent.toNat := by
        rw [same, Nat.mul_assoc, Nat.mul_div_cancel_left _ (positive _)]
      have zero : whole * Nat.pow 2 exponent.toNat = 0 ↔ significand = 0 := by
        rw [same, Nat.mul_eq_zero, Nat.mul_eq_zero, or_iff_left (Nat.ne_of_gt (positive _)),
          or_iff_right (Nat.ne_of_gt (positive _))]
      simp only [BinaryNumber.toInt64, BinaryNumber.truncate, magnitude, BinaryNumber.isBelowZero]
      generalize whole * Nat.pow 2 exponent.toNat = n at zero
      cases negative with
      | false =>
          simp only [Bool.false_eq_true, if_false, Bool.false_and, iff_false]
          omega
      | true =>
          simp only [if_true, Bool.true_and, bne_iff_ne, ne_eq, ← zero]
          omega

/-- The digits behind the sign of a finite number: those of an integer, or those of the shortest
decimal of a number with a fraction. -/
inductive WrittenAs : BinaryNumber → List Char → Prop where
  | integer {number} (integer : number.isInteger) :
      WrittenAs number (Nat.toDigits 10 number.toInt64.natAbs)
  | fraction {negative significand exponent} (fraction : exponent < 0) :
      WrittenAs (.finite negative significand exponent)
        (positional (shortest .double .up significand exponent))

theorem numberText_toList {number : BinaryNumber} (finite : number.isFinite) :
    ∃ digits, WrittenAs number digits ∧
      (FieldValue.numberText number).toList = minus number.isBelowZero ++ digits := by
  unfold FieldValue.numberText
  split
  · next integer =>
      refine ⟨_, .integer integer, ?_⟩
      rw [toList_toString_int]
      congr 2
      exact Bool.eq_iff_iff.mpr (decide_eq_true_iff.trans (toInt64_neg_iff integer))
  · next fraction =>
      cases number with
      | nan => cases finite
      | infinite => cases finite
      | finite negative significand exponent =>
          have some : significand ≠ 0 := by
            rintro rfl
            simp [BinaryNumber.isInteger] at fraction
          have below : exponent < 0 := by
            refine Int.not_le.mp fun whole => ?_
            have none : (-exponent).toNat = 0 := by omega
            simp [BinaryNumber.isInteger, none, Nat.mod_one] at fraction
          refine ⟨_, .fraction below, ?_⟩
          have sign : (BinaryNumber.finite negative significand exponent).isBelowZero = negative := by
            simp [BinaryNumber.isBelowZero, some]
          simp [plain, sign, some]

theorem WrittenAs.numeral {number : BinaryNumber} {digits : List Char}
    (written : WrittenAs number digits) : Numeral digits := by
  cases written with
  | integer => exact numeral_toDigits _
  | fraction => exact numeral_positional _

/-! ## Reading -/

theorem readDecimal?_whole {ds : List Char} (some : ds ≠ []) (digits : ∀ c ∈ ds, c.isDigit) :
    readDecimal? ds = .some (.decimal (digitsValue 0 ds) 0) := by
  have split : (ds ++ []).takeWhile Char.isDigit = ds ∧ (ds ++ []).dropWhile Char.isDigit = [] :=
    takeWhile_isDigit digits (by simp)
  rw [List.append_nil] at split
  simp [readDecimal?, split, some, readExponent?, digitsValue]

theorem readDecimal?_point {ds es : List Char} (some : ds ≠ []) (digits : ∀ c ∈ ds, c.isDigit)
    (behind : ∀ c ∈ es, c.isDigit) :
    readDecimal? (ds ++ '.' :: es) =
      .some (.decimal (digitsValue (digitsValue 0 ds) es) (-es.length)) := by
  have stop : ¬ ('.' :: es).head?.any Char.isDigit := by simp
  have first := takeWhile_isDigit digits stop
  have second : (es ++ []).takeWhile Char.isDigit = es ∧ (es ++ []).dropWhile Char.isDigit = [] :=
    takeWhile_isDigit behind (by simp)
  rw [List.append_nil] at second
  simp [readDecimal?, first, second, some, readExponent?]

/-- Positional digits read as the decimal they were made from, a positive exponent being written
out. -/
theorem readDecimal?_positional (d : Digits) :
    readDecimal? (positional d) =
      some (.decimal (d.coefficient * 10 ^ d.exponent.toNat) (min d.exponent 0)) := by
  rcases Int.lt_or_le d.exponent 0 with fraction | whole
  · obtain ⟨ds, es, spelled, some, digits, behind, places, value⟩ := positional_point fraction
    rw [spelled, readDecimal?_point some digits behind, value]
    have power : d.exponent.toNat = 0 := by omega
    have least : min d.exponent 0 = -(es.length : Int) := by omega
    rw [power, least, Nat.pow_zero, Nat.mul_one]
  · have digits : ∀ c ∈ Nat.toDigits 10 d.coefficient ++ zeros d.exponent.toNat, c.isDigit := by
      intro c member
      rcases List.mem_append.mp member with member | member
      · exact Nat.isDigit_of_mem_toDigits (by decide) (by decide) member
      · exact isDigit_zeros _ c member
    rw [positional_whole whole, readDecimal?_whole (by simp [Nat.toDigits_ne_nil]) digits,
      digitsValue_append, digitsValue_toDigits, digitsValue_zeros, Int.min_eq_right whole]

/-- A numeral is none of the words for numbers. -/
theorem readMagnitude?_numeral {numeral : List Char} (shape : Numeral numeral) :
    readMagnitude? numeral = readDecimal? numeral := by
  obtain ⟨d, rest, rfl, digit⟩ := shape.head
  have small : d.toLower = d := by
    refine dif_neg fun ⟨capital, _⟩ => ?_
    simp only [Char.isDigit, Bool.and_eq_true, decide_eq_true_eq, ge_iff_le,
      UInt32.le_iff_toNat_le] at digit capital
    simp at digit capital
    omega
  have other : ∀ c ∈ ['n', 'i'], d ≠ c := by
    rintro c member rfl
    have none : ∀ c ∈ ['n', 'i'], ¬ c.isDigit := List.any_eq_false.1 (by decide)
    exact none _ member digit
  have nan : isWord "nan" (d :: rest) = false := by
    simp [isWord, small, other]
  have inf : isWord "inf" (d :: rest) = false := by
    simp [isWord, small, other]
  have infinity : isWord "infinity" (d :: rest) = false := by
    simp [isWord, small, other]
  simp [readMagnitude?, nan, inf, infinity]

end SolanaBlocks.Decimal
