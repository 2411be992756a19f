import SolanaBlocks.Json.Reader
import SolanaBlocks.Proofs.Decimal.Magnitude

/-!
# Numerals are read whole

The written form of a number is a numeral: digits without a leading zero, perhaps a fraction and
perhaps an exponent. A reader takes exactly that much, whatever value it makes of it.
-/

namespace SolanaBlocks

namespace Decimal

/-! ## The leading digit -/

theorem head_toDigits {n : Nat} (some : n ≠ 0) : (Nat.toDigits 10 n).head? ≠ .some '0' := by
  induction n using Nat.strongRecOn with
  | _ n ih =>
      rcases Nat.lt_or_ge n 10 with small | large
      · have all : ∀ n < 10, n ≠ 0 → (Nat.toDigits 10 n).head? ≠ .some '0' := by decide
        exact all n small some
      · obtain ⟨d, rest, digits⟩ := List.exists_cons_of_ne_nil
          (Nat.toDigits_ne_nil : Nat.toDigits 10 (n / 10) ≠ [])
        have first := ih (n / 10) (by omega) (by omega)
        rw [Nat.toDigits_of_base_le (by decide) large]
        rw [digits] at first ⊢
        exact first

theorem Interval.pos_of_holds {i : Interval} (lower : 0 < i.lower) {k : Int} {c : Nat}
    (holds : i.holds k c = true) : 0 < c := by
  have grid : 0 < (i.grid k).1 :=
    Nat.mul_pos (Nat.pow_pos (by decide)) (Nat.pow_pos (by decide))
  have some := Nat.mul_pos lower grid
  refine Nat.pos_of_ne_zero ?_
  rintro rfl
  unfold Interval.holds at holds
  simp only [Nat.zero_mul] at holds
  split at holds <;> simp only [Bool.and_eq_true, decide_eq_true_eq] at holds <;> omega

/-- The digits found for a number above zero are not all zeros. -/
theorem Interval.search_pos {i : Interval} (some : 0 < i.significand) (lower : 0 < i.lower)
    (tie : Tie) (steps : Nat) (k : Int) (fine : k - steps ≤ min i.quarter 0) :
    0 < (i.search tie steps k).coefficient := by
  induction steps generalizing k with
  | zero =>
      have least : 10 ^ k.toNat * 2 ^ (-i.quarter).toNat ≤ 10 ^ (-k).toNat := by
        have whole : k.toNat = 0 := by omega
        rw [whole, Nat.pow_zero, Nat.one_mul]
        exact (Nat.pow_le_pow_left (by decide) _).trans
          (Nat.pow_le_pow_right (by decide) (by omega : (-i.quarter).toNat ≤ (-k).toNat))
      refine Nat.div_pos ?_ (Nat.mul_pos (Nat.pow_pos (by decide)) (Nat.pow_pos (by decide)))
      refine least.trans ?_
      have unit : 0 < 4 * i.significand * 2 ^ i.quarter.toNat :=
        Nat.mul_pos (by omega) (Nat.pow_pos (by decide))
      have scaled := Nat.le_mul_of_pos_left (10 ^ (-k).toNat) unit
      rwa [Nat.mul_assoc] at scaled
  | succ steps ih =>
      rw [search]
      split
      · next c found => exact pos_of_holds lower (holds_of_hit? found)
      · exact ih (k - 1) (by push_cast at fine; omega)

theorem shortest_pos {f : BinaryFormat} {tie : Tie} {significand : Nat} {exponent : Int}
    (some : significand ≠ 0) : (shortest f tie significand exponent).coefficient ≠ 0 := by
  have above : 0 < significand := Nat.pos_of_ne_zero some
  refine Nat.ne_of_gt (Interval.search_pos above ?_ tie _ _ (by omega))
  unfold Interval.around
  dsimp only
  split <;> omega

end Decimal

namespace Json

/-- A text with which no number goes on. -/
def EndsNumber (after : List Char) : Prop :=
  ∀ c ∈ after.head?, ¬ c.isDigit ∧ c ≠ '.' ∧ c ≠ 'e' ∧ c ≠ 'E'

/-- A run of digits. -/
def AreDigits (ds : List Char) : Prop := ds ≠ [] ∧ ∀ d ∈ ds, d.isDigit

/-- The point and the digits after it. -/
def fractionText : Option (List Char) → List Char
  | none => []
  | some ds => '.' :: ds

/-- The exponent, which always has a sign. -/
def exponentText : Option (Bool × List Char) → List Char
  | none => []
  | some (negative, ds) => 'e' :: (if negative then '-' else '+') :: ds

namespace Numeral

/-- The text of a numeral after its sign. -/
def text (numeral : Numeral) : List Char :=
  numeral.whole ++ (fractionText numeral.fraction ++ exponentText numeral.exponent)

/-- The parts of a numeral are digits, and a leading zero stands alone. -/
structure Proper (numeral : Numeral) : Prop where
  whole : AreDigits numeral.whole
  leading : numeral.whole.head? = some '0' → numeral.whole.length = 1
  fraction : ∀ ds, numeral.fraction = some ds → AreDigits ds
  exponent : ∀ negative ds, numeral.exponent = some (negative, ds) → AreDigits ds

/-- A numeral with a point or an exponent. -/
def Broken (numeral : Numeral) : Prop := numeral.fraction ≠ none ∨ numeral.exponent ≠ none

/-- What has a point or an exponent is not read as an integer. -/
theorem value_of_broken {numeral : Numeral} (broken : numeral.Broken) {v : Json}
    (read : numeral.value = .ok v) : ∃ x, v = .float x := by
  have float : numeral.value = numeral.float.map .float := by
    obtain ⟨negative, whole, fraction, exponent⟩ := numeral
    cases fraction with
    | some ds => rfl
    | none =>
        cases exponent with
        | some part => rfl
        | none => exact absurd broken (by simp [Broken])
  rw [float] at read
  cases same : numeral.float with
  | error fault =>
      rw [same] at read
      cases read
  | ok x =>
      rw [same] at read
      cases read
      exact ⟨x, rfl⟩

end Numeral

theorem readDigits_append {ds after : List Char} (digits : AreDigits ds)
    (stop : ∀ c ∈ after.head?, ¬ c.isDigit) : readDigits (ds ++ after) = .ok (ds, after) := by
  obtain ⟨some, digits⟩ := digits
  obtain ⟨d, rest, rfl⟩ := List.exists_cons_of_ne_nil some
  have first : d.isDigit := digits d List.mem_cons_self
  have other : ¬ after.head?.any Char.isDigit := fun any => by
    obtain ⟨c, here, digit⟩ := (Option.any_eq_true _ _).1 any
    exact stop c here digit
  have span := Decimal.takeWhile_isDigit digits other
  simp only [List.cons_append] at span ⊢
  simp only [readDigits, first, if_true, span]

theorem readExponent_append {exponent : Option (Bool × List Char)} {after : List Char}
    (digits : ∀ negative ds, exponent = some (negative, ds) → AreDigits ds)
    (ends : EndsNumber after) :
    readExponent (exponentText exponent ++ after) = .ok (exponent, after) := by
  cases exponent with
  | none =>
      cases after with
      | nil => rfl
      | cons c after =>
          obtain ⟨-, -, small, capital⟩ := ends c rfl
          simp [exponentText, readExponent, small, capital]
  | some part =>
      obtain ⟨negative, ds⟩ := part
      have read := readDigits_append (digits negative ds rfl) fun c member => (ends c member).1
      cases negative <;>
        simp [exponentText, readExponent, Decimal.splitSign, read, bind, Except.bind, pure,
          Except.pure]

theorem readFraction_append {fraction : Option (List Char)} {after : List Char}
    (digits : ∀ ds, fraction = some ds → AreDigits ds)
    (stop : ∀ c ∈ after.head?, ¬ c.isDigit ∧ c ≠ '.') :
    readFraction (fractionText fraction ++ after) = .ok (fraction, after) := by
  cases fraction with
  | none =>
      unfold fractionText readFraction
      split
      · next rest spelled =>
          have point : after = '.' :: rest := spelled
          exact absurd rfl (stop '.' (by rw [point]; rfl)).2
      · rfl
  | some ds =>
      have read := readDigits_append (digits ds rfl) fun c member => (stop c member).1
      simp [fractionText, readFraction, read, bind, Except.bind, pure, Except.pure]

/-- A numeral is taken whole, up to whatever stands behind it. -/
theorem readNumeral_text {numeral : Numeral} (proper : numeral.Proper) {after : List Char}
    (ends : EndsNumber after) :
    readNumeral numeral.negative (numeral.text ++ after) = .ok (numeral, after) := by
  have behindPoint : ∀ c ∈ (exponentText numeral.exponent ++ after).head?,
      ¬ c.isDigit ∧ c ≠ '.' := by
    cases numeral.exponent with
    | none => exact fun c member => ⟨(ends c member).1, (ends c member).2.1⟩
    | some part =>
        rintro c ⟨⟩
        decide
  have behindWhole : ∀ c ∈ (fractionText numeral.fraction ++
      (exponentText numeral.exponent ++ after)).head?, ¬ c.isDigit := by
    cases numeral.fraction with
    | none => exact fun c member => (behindPoint c member).1
    | some ds =>
        rintro c ⟨⟩
        decide
  have single : ¬ (numeral.whole.head? = some '0' ∧ numeral.whole.length ≠ 1) :=
    fun ⟨zero, long⟩ => long (proper.leading zero)
  rw [Numeral.text, List.append_assoc, List.append_assoc, readNumeral,
    readDigits_append proper.whole behindWhole]
  simp [bind, Except.bind, single, readFraction_append proper.fraction behindPoint,
    readExponent_append proper.exponent ends, pure, Except.pure]

/-! ## Written numbers -/

theorem areDigits_toDigits (n : Nat) : AreDigits (Nat.toDigits 10 n) :=
  ⟨Nat.toDigits_ne_nil, fun _ => Nat.isDigit_of_mem_toDigits (by decide) (by decide)⟩

theorem areDigits_zero : AreDigits ['0'] := ⟨by simp, List.all_eq_true.1 (by decide)⟩

theorem AreDigits.append {ds es : List Char} (digits : AreDigits ds) (more : ∀ d ∈ es, d.isDigit) :
    AreDigits (ds ++ es) := by
  refine ⟨by simp [digits.1], fun d member => ?_⟩
  rcases List.mem_append.1 member with member | member
  · exact digits.2 d member
  · exact more d member

theorem areDigits_singleton {ds es : List Char} {d : Char} (digits : AreDigits ds)
    (spelled : ds = d :: es) : AreDigits [d] := by
  refine ⟨by simp, fun c member => ?_⟩
  rw [List.mem_singleton.1 member]
  exact digits.2 d (by rw [spelled]; exact List.mem_cons_self)

theorem scientific_text (d : Decimal.Digits) (negative : Bool) :
    ∃ numeral : Numeral, numeral.negative = negative ∧ numeral.Proper ∧ numeral.Broken ∧
      Decimal.scientific d = numeral.text := by
  have digits := areDigits_toDigits d.coefficient
  unfold Decimal.scientific
  generalize Nat.toDigits 10 d.coefficient = ds at digits
  dsimp only
  generalize (ds.length : Int) + d.exponent - 1 = e
  have power : ∀ negative ds,
      some (decide (e < 0), Nat.toDigits 10 e.natAbs) = some (negative, ds) → AreDigits ds := by
    rintro _ _ ⟨⟩
    exact areDigits_toDigits _
  obtain ⟨first, rest, spelled⟩ := List.exists_cons_of_ne_nil digits.1
  have whole := areDigits_singleton digits spelled
  cases rest with
  | nil =>
      refine ⟨⟨negative, [first], none, some _⟩, rfl, ⟨whole, fun _ => rfl, nofun, power⟩,
        .inr nofun, ?_⟩
      simp [spelled, Numeral.text, fractionText, exponentText]
  | cons second rest =>
      have behind : AreDigits (second :: rest) :=
        ⟨by simp, fun c member => digits.2 c (by rw [spelled]; exact List.mem_cons_of_mem _ member)⟩
      refine ⟨⟨negative, [first], some (second :: rest), some _⟩, rfl,
        ⟨whole, fun _ => rfl, ?_, power⟩, .inr nofun, ?_⟩
      · rintro _ ⟨⟩
        exact behind
      · simp [spelled, Numeral.text, fractionText, exponentText]

theorem positional_point_text {d : Decimal.Digits} (some : d.coefficient ≠ 0)
    (fraction : d.exponent < 0) (negative : Bool) :
    ∃ numeral : Numeral, numeral.negative = negative ∧ numeral.Proper ∧ numeral.Broken ∧
      Decimal.positional d = numeral.text := by
  have digits := areDigits_toDigits d.coefficient
  have first := Decimal.head_toDigits some
  unfold Decimal.positional
  generalize Nat.toDigits 10 d.coefficient = ds at digits first
  dsimp only
  rw [if_neg (Int.not_le.mpr fraction)]
  split
  · next partly =>
      have before : AreDigits (ds.take (ds.length + d.exponent).toNat) := by
        refine ⟨?_, fun c member => digits.2 c (List.mem_of_mem_take member)⟩
        rw [ne_eq, List.take_eq_nil_iff]
        have := digits.1
        simp only [this, or_false]
        omega
      have behind : AreDigits (ds.drop (ds.length + d.exponent).toNat) := by
        refine ⟨?_, fun c member => digits.2 c (List.mem_of_mem_drop member)⟩
        rw [ne_eq, List.drop_eq_nil_iff]
        omega
      refine ⟨⟨negative, _, .some (ds.drop (ds.length + d.exponent).toNat), none⟩, rfl,
        ⟨before, fun zero => ?_, ?_, nofun⟩, .inl nofun, ?_⟩
      · rw [List.head?_take, if_neg (by omega)] at zero
        exact absurd zero first
      · rintro _ ⟨⟩
        exact behind
      · simp [Numeral.text, fractionText, exponentText]
  · have behind : AreDigits (Decimal.zeros (-((ds.length : Int) + d.exponent)).toNat ++ ds) := by
      refine ⟨by simp [digits.1], fun c member => ?_⟩
      rcases List.mem_append.1 member with member | member
      · exact Decimal.isDigit_zeros _ c member
      · exact digits.2 c member
    refine ⟨⟨negative, ['0'], .some (Decimal.zeros (-((ds.length : Int) + d.exponent)).toNat ++ ds),
      none⟩, rfl, ⟨areDigits_zero, fun _ => rfl, ?_, nofun⟩, .inl nofun, ?_⟩
    · rintro _ ⟨⟩
      exact behind
    · simp [Numeral.text, fractionText, exponentText]

/-- The digits of a float above or below zero. -/
theorem exchangeDigits_text {d : Decimal.Digits} (some : d.coefficient ≠ 0) (negative : Bool) :
    ∃ numeral : Numeral, numeral.negative = negative ∧ numeral.Proper ∧ numeral.Broken ∧
      Decimal.exchangeDigits d = numeral.text := by
  unfold Decimal.exchangeDigits
  dsimp only
  split
  · exact scientific_text d negative
  split
  · next whole =>
      have digits := (areDigits_toDigits d.coefficient).append
        (Decimal.isDigit_zeros d.exponent.toNat)
      refine ⟨⟨negative, _, .some ['0'], none⟩, rfl, ⟨digits, fun zero => ?_, ?_, nofun⟩,
        .inl nofun, ?_⟩
      · obtain ⟨c, rest, spelled⟩ := List.exists_cons_of_ne_nil
          (areDigits_toDigits d.coefficient).1
        have first := Decimal.head_toDigits some
        rw [spelled] at zero first
        exact absurd zero first
      · rintro _ ⟨⟩
        exact areDigits_zero
      · simp [Decimal.positional_whole whole, Numeral.text, fractionText, exponentText]
  · next fraction => exact positional_point_text some (by omega) negative

/-- Integers and finite floats. -/
def IsNumber : Json → Prop
  | .integer _ => True
  | .float x => (BinaryNumber.ofFloat x).isFinite = true
  | _ => False

/-- A finite float is written as a numeral with a point or an exponent. -/
theorem writeFloat_finite {x : Float} (finite : (BinaryNumber.ofFloat x).isFinite = true) :
    ∃ numeral : Numeral, numeral.Proper ∧ numeral.Broken ∧
      writeFloat x = Decimal.minus numeral.negative ++ numeral.text := by
  rw [writeFloat]
  cases same : BinaryNumber.ofFloat x with
  | nan => rw [same] at finite; cases finite
  | infinite negative => rw [same] at finite; cases finite
  | finite negative significand exponent =>
      simp only [Decimal.exchange?, Option.getD_some, String.toList_ofList]
      split
      · refine ⟨⟨negative, ['0'], some ['0'], none⟩,
          ⟨areDigits_zero, fun _ => rfl, ?_, nofun⟩, .inl nofun, rfl⟩
        rintro _ ⟨⟩
        exact areDigits_zero
      · next some =>
          obtain ⟨numeral, rfl, proper, broken, spelled⟩ :=
            exchangeDigits_text (Decimal.shortest_pos some) negative
          exact ⟨numeral, proper, broken, by rw [spelled]⟩

/-- A number is written as a numeral with its sign. -/
theorem writeLeaf_number {v : Json} (number : v.IsNumber) :
    ∃ numeral : Numeral, numeral.Proper ∧
      writeLeaf v = Decimal.minus numeral.negative ++ numeral.text := by
  cases v with
  | integer n =>
      refine ⟨⟨decide (n < 0), Nat.toDigits 10 n.natAbs, none, none⟩,
        ⟨areDigits_toDigits _, fun zero => ?_, nofun, nofun⟩, ?_⟩
      · have none : n.natAbs = 0 := by
          by_contra some
          exact Decimal.head_toDigits some zero
        simp [none]
      · change (toString n).toList = _
        rw [Decimal.toList_toString_int]
        simp [Numeral.text, fractionText, exponentText]
  | float x =>
      obtain ⟨numeral, proper, -, written⟩ := writeFloat_finite number
      exact ⟨numeral, proper, written⟩
  | _ => cases number

theorem isDigit_ne {c d : Char} (digit : c.isDigit) (other : d.isDigit = false) : c ≠ d := by
  rintro rfl
  rw [other] at digit
  cases digit

/-- A value that starts with a digit is a number. -/
theorem readValueWithin_digit {c : Char} (digit : c.isDigit) (lenient : Bool) (fuel depth : Nat)
    (cs : List Char) :
    readValueWithin lenient (fuel + 1) depth (c :: cs) = readNumber lenient false (c :: cs) := by
  have other (d : Char) (plain : d.isDigit = false) : c ≠ d := isDigit_ne digit plain
  have stay : skipBlanks (c :: cs) = c :: cs := by
    simp [skipBlanks, other ' ' rfl, other '\n' rfl, other '\t' rfl, other '\r' rfl]
  rw [readValueWithin.eq_def]
  dsimp only
  rw [stay]
  split
  · next none => cases none
  · next same => exact absurd (List.cons.inj same).1 (other _ rfl)
  · next same => exact absurd (List.cons.inj same).1 (other _ rfl)
  · next same => exact absurd (List.cons.inj same).1 (other _ rfl)
  · next same => exact absurd (List.cons.inj same).1 (other _ rfl)
  · next same => exact absurd (List.cons.inj same).1 (other _ rfl)
  · next same => exact absurd (List.cons.inj same).1 (other _ rfl)
  · next same => exact absurd (List.cons.inj same).1 (other _ rfl)
  · next same =>
      cases same
      rw [if_pos digit]

/-- A number is read whole, and its value depends on nothing behind it. -/
theorem readValueWithin_numeral {numeral : Numeral} (proper : numeral.Proper) {after : List Char}
    (ends : EndsNumber after) (fuel depth : Nat) :
    readValueWithin false (fuel + 1) depth
        (Decimal.minus numeral.negative ++ (numeral.text ++ after)) =
      numeral.value.map fun v => (v, after) := by
  have read := readNumeral_text proper ends
  cases sign : numeral.negative with
  | true =>
      rw [sign] at read
      simp [Decimal.minus, readValueWithin, skipBlanks, readNumber, read]
  | false =>
      rw [sign] at read
      obtain ⟨d, rest, spelled⟩ := List.exists_cons_of_ne_nil proper.whole.1
      have digit : d.isDigit := proper.whole.2 d (by rw [spelled]; exact List.mem_cons_self)
      obtain ⟨tail, text⟩ : ∃ tail, numeral.text ++ after = d :: tail :=
        ⟨_, by rw [Numeral.text, spelled]; rfl⟩
      rw [text] at read ⊢
      have plain : Decimal.minus false ++ d :: tail = d :: tail := rfl
      rw [plain, readValueWithin_digit digit, readNumber, read]
      rfl

end Json

end SolanaBlocks
