import SolanaBlocks.Proofs.Decimal.Magnitude
import SolanaBlocks.Proofs.Precedence.Expressions

/-!
# Operands of a sign

A negative number is written with a minus in front, and no other expression is: where a sign may
have to go into parentheses, the code of a slot is a negative literal or starts with something else.
A statement that looks for the minus to find out whether a literal is negative is not misled by
other expressions, and the literals it finds are numbers below zero that can be read back.
-/

namespace SolanaBlocks

open Grammar

/-- The code starts with something visible that is not a minus. -/
def Bare (code : List Char) : Prop :=
  ∃ c rest, code = c :: rest ∧ c ≠ '-' ∧ Text.isBlank c = false

/-- Trimming keeps what is in front if it is visible. -/
theorem Bare.head_trim {code : String} (bare : Bare code.toList) :
    (Text.trim code).toList.head? = code.toList.head? := by
  obtain ⟨c, rest, spelled, -, visible⟩ := bare
  have last : (rest.reverse ++ [c]).dropWhile Text.isBlank =
      rest.reverse.dropWhile Text.isBlank ++ [c] := by
    rw [List.dropWhile_append]
    split
    · next none =>
        rw [List.isEmpty_iff.1 none]
        simp [visible]
    · rfl
  simp [Text.dropBlanks, Text.dropBlanksRight, spelled, visible, last]

theorem nearestDecimal_le (f : BinaryFormat) (coefficient : Nat) (exponent : Int) :
    f.nearestDecimal coefficient exponent ≤ f.infinityCode := by
  unfold BinaryFormat.nearestDecimal
  dsimp only
  split
  · exact Nat.zero_le _
  split
  · exact Nat.le_refl _
  split
  · exact Nat.zero_le _
  unfold BinaryFormat.nearest
  split
  · exact Nat.zero_le _
  · exact Nat.min_le_right _ _

theorem decode_not_isBelowZero {code : Nat} (positive : code < BinaryFormat.double.signWeight) :
    (BinaryFormat.double.decode code).isBelowZero = false := by
  have sign : decide (BinaryFormat.double.signWeight ≤ code) = false :=
    decide_eq_false (Nat.not_le_of_lt positive)
  unfold BinaryFormat.decode
  dsimp only
  rw [sign]
  split
  · rfl
  split
  · rfl
  split <;> rfl

/-- Only a numeral with a minus in front is below zero. -/
theorem head_of_isBelowZero {s : String} {x : Float} (read : Decimal.readFloat? s = some x)
    (below : (BinaryNumber.ofFloat x).isBelowZero) : s.toList.head? = some '-' := by
  have infinity : BinaryFormat.double.infinityCode = 2047 * 2 ^ 52 := rfl
  have weight : BinaryFormat.double.signWeight = 2048 * 2 ^ 52 := rfl
  by_contra other
  have sign : (Decimal.splitSign s.toList).1 = false := by
    unfold Decimal.splitSign
    split
    · next spelled => exact absurd (by rw [spelled]; rfl) other
    · rfl
    · rfl
  rw [Decimal.readFloat?, Decimal.read?] at read
  generalize Decimal.splitSign s.toList = parts at sign read
  obtain ⟨negative, cs⟩ := parts
  obtain rfl : negative = false := sign
  obtain ⟨code, found, rfl⟩ := Option.map_eq_some_iff.1 read
  have le : code ≤ BinaryFormat.double.infinityCode + 1 := by
    obtain ⟨magnitude, -, rfl⟩ := Option.map_eq_some_iff.1 found
    cases magnitude with
    | nan => exact Nat.le_refl _
    | infinite =>
        change BinaryFormat.withSign _ false _ ≤ _
        simp [BinaryFormat.withSign]
    | decimal coefficient exponent =>
        have le := nearestDecimal_le .double coefficient exponent
        change BinaryFormat.withSign _ false _ ≤ _
        simp only [BinaryFormat.withSign, Bool.false_eq_true, if_false]
        omega
  have word : code < 2 ^ 64 := by omega
  rw [BinaryNumber.ofFloat_ofBits, UInt64.toNat_ofNat_of_lt' word,
    decode_not_isBelowZero (by omega)] at below
  cases below

/-- The code of the operand of a sign, with its tree: a negative literal that can be read back, or
another expression, with no minus in front. -/
inductive SignOperand (code : String) : Expr → Prop where
  | literal {digits : List Char} {x : Float} {significand : Nat} {exponent : Int}
      (numeral : Decimal.Numeral digits) (spelled : code.toList = '-' :: digits)
      (read : Decimal.readFloat? code = some x)
      (finite : BinaryNumber.ofFloat x = .finite true significand exponent) :
      SignOperand code (.number true (String.ofList digits))
  | bare {tree : Expr} (bare : Bare code.toList) (other : ∀ digits, tree ≠ .number true digits) :
      SignOperand code tree

theorem Bare.of_isNameStart {code : List Char} (start : code.head?.any Text.isNameStart) :
    Bare code := by
  cases code with
  | nil => simp at start
  | cons c rest =>
      have letter : Text.isNameStart c := by simpa using start
      refine ⟨c, rest, rfl, ?_, ?_⟩
      · rintro rfl
        exact absurd letter (by decide)
      · rcases Text.isNameStart_iff.1 letter with letter | rfl
        · simp [Text.isBlank]
          omega
        · decide

theorem Text.isBlank_digit {c : Char} (digit : c.isDigit) : Text.isBlank c = false := by
  simp only [Char.isDigit, Bool.and_eq_true, decide_eq_true_eq, ge_iff_le,
    UInt32.le_iff_toNat_le] at digit
  simp [Text.isBlank] at digit ⊢
  omega

theorem Bare.of_numeral {digits : List Char} (numeral : Decimal.Numeral digits) : Bare digits := by
  obtain ⟨d, rest, rfl, digit⟩ := numeral.head
  refine ⟨d, rest, rfl, ?_, Text.isBlank_digit digit⟩
  rintro rfl
  exact absurd digit (by decide)

theorem Bare.wrap {fragment : Fragment} {required : Tier}
    (bare : required < fragment.tier.getD Tier.atomic ∨ Bare fragment.code.toList) :
    Bare (fragment.wrap required).toList := by
  unfold Fragment.wrap needsParentheses
  split
  · exact ⟨'(', (fragment.code ++ ")").toList, by simp, by decide, by decide⟩
  · next fits =>
      rcases bare with loose | bare
      · exact absurd (decide_eq_true loose) fits
      · exact bare

/-- A negative number has no blocks below it. -/
theorem Denotes.shape_of_negative {w : Workspace} {id : BlockId} {block : Block} {digits : String}
    (denotes : Denotes w id (.number true digits)) (found : w.get? id = some block) :
    block.shape? = some (.leaf (.number true digits)) := by
  cases denotes with
  | leaf found' shape =>
      cases found.symm.trans found'
      exact shape

/-- A fragment that can have a sign begins with a minus only if it is that of a negative number. -/
theorem Site.signOperand_standard {site : Site} {answer : BlockId → Except EmitError Fragment}
    {raw : Fragment} (palette : site.palette = .standard)
    (found : site.workspace.get? site.id = some site.block)
    (expression : site.block.type ∈ Palette.Standard.expressionIds) {renderer : Renderer}
    (rendered : Renderers.standard? site.block.type = some renderer)
    (ran : (renderer site).run answer = .ok raw) {tree : Expr}
    (denotes : Denotes site.workspace site.id tree) : SignOperand (raw.wrap .unary) tree := by
  obtain ⟨shape, shown, forms⟩ := forms_standard palette expression rendered ran
  have plain (front : Tier.unary < raw.tier.getD Tier.atomic ∨ Bare raw.code.toList)
      (other : ∀ digits, shape ≠ .leaf (.number true digits)) :
      SignOperand (raw.wrap .unary) tree := by
    refine .bare (Bare.wrap front) ?_
    rintro digits rfl
    exact other digits (Option.some.inj (shown.symm.trans (denotes.shape_of_negative found)))
  cases forms with
  | truth value => exact plain (.inr (.of_isNameStart (by cases value <;> decide))) (by simp)
  | text content =>
      exact plain (.inr ⟨'"', _, String.toList_ofList, by decide, by decide⟩) (by simp)
  | name valid => exact plain (.inr (.of_isNameStart (word_of_isIdentifier valid).1)) (by simp)
  | @negation operand slot inner =>
      exact plain (.inr ⟨'!', operand.toList, String.toList_append, by decide, by decide⟩) (by simp)
  | @operation op default empty left right bounded =>
      have loose : Tier.unary < op.tier := by
        cases op <;> decide
      exact plain (.inl loose) (by simp)
  | @number value finite =>
      obtain ⟨digits, written, spelled⟩ := Decimal.numberText_toList finite
      rw [Shape.number_eq spelled] at shown
      cases denotes.unique (.leaf found shown)
      have small := fun negative significand exponent =>
        @BinaryFormat.significand_lt_of_decode value.toBits.toNat negative significand exponent
      obtain ⟨x, significand, exponent, read, negative⟩ := Decimal.readFloat?_numberText written small
      cases below : (BinaryNumber.ofFloat value).isBelowZero with
      | false =>
          refine .bare (Bare.wrap (.inr ?_)) (by simp)
          rw [below] at spelled
          rw [spelled]
          exact .of_numeral written.numeral
      | true =>
          rw [below] at spelled
          have code : FieldValue.numberText (.ofFloat value) = String.ofList ('-' :: digits) :=
            String.toList_inj.1 (by rw [spelled, String.toList_ofList]; rfl)
          have tight : Fragment.wrap ⟨FieldValue.numberText (.ofFloat value), some .unary⟩ .unary =
              String.ofList ('-' :: digits) := code
          rw [if_pos rfl, tight]
          exact .literal written.numeral String.toList_ofList read negative

end SolanaBlocks
