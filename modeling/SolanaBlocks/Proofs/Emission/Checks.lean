import Mathlib.Algebra.Group.Nat.Defs
import SolanaBlocks.Proofs.Emission.Steps
import SolanaBlocks.Proofs.Forest.Descent
import SolanaBlocks.Proofs.Forest.Orderly

/-!
# What is checked in a block

The checks a block has to pass before it can be turned into code, stated without the code: where it
stands, what its fields hold, which slots are bound, and three conditions of single types. A variant
without data is written without looking into its slot for data, so whatever lies there is not
checked at all.
-/

namespace SolanaBlocks

/-! ## Fields -/

/-- The value of a field in a block, or the default where the block has none. -/
def FieldDecl.valueIn (field : FieldDecl) (block : Block) : FieldValue :=
  (block.fields[field.name]?).getD field.default

/-- The values a declared field allows. -/
def FieldDecl.Accepts (field : FieldDecl) (value : FieldValue) : Prop :=
  match field.kind with
  | .freeText =>
    (field.required = true → Text.trim value.display ≠ "") ∧
      (field.identifier = true → Text.isIdentifier (Text.trim value.display) = true)
  | .choice options => value.display ∈ options.map Choice.value
  | .number => ∃ x, value.number? = some x ∧ (BinaryNumber.ofFloat x).isFinite = true

/-- The number is a natural one. -/
def BinaryNumber.IsNatural : BinaryNumber → Prop
  | .finite negative significand exponent =>
    ∃ n, significand * 2 ^ exponent.toNat = n * 2 ^ (-exponent).toNat ∧
      (negative = true → n = 0)
  | _ => False

/-- A text that opens with a double quote ends in another one, and no backslash precedes that. -/
def ClosesQuote (text : List Char) : Prop :=
  ∀ rest, text = '"' :: rest →
    ∃ before, rest = before ++ ['"'] ∧ before.getLast? ≠ some '\\'

theorem BinaryNumber.isNatural_iff {x : BinaryNumber} :
    x.IsNatural ↔ x.isBelowZero = false ∧ x.isInteger = true := by
  cases x with
  | nan => simp [IsNatural, isInteger]
  | infinite negative => simp [IsNatural, isInteger]
  | finite negative significand exponent =>
      have whole : (∃ n, significand * 2 ^ exponent.toNat = n * 2 ^ (-exponent).toNat) ↔
          significand % 2 ^ (-exponent).toNat = 0 := by
        rw [← Nat.dvd_iff_mod_eq_zero]
        rcases Int.le_total 0 exponent with up | down
        · simp [show (-exponent).toNat = 0 by omega]
        · simp [show exponent.toNat = 0 by omega, Dvd.dvd, Nat.mul_comm]
      simp only [IsNatural, isBelowZero, isInteger, Nat.pow_eq, beq_iff_eq, ← whole]
      cases negative with
      | false => simp
      | true =>
          simp only [true_imp_iff, Bool.true_and, bne_eq_false_iff_eq]
          constructor
          · rintro ⟨_, same, rfl⟩
            rw [Nat.zero_mul, Nat.mul_eq_zero] at same
            have zero := same.resolve_right (Nat.two_pow_pos exponent.toNat).ne'
            exact ⟨zero, 0, by simp [zero]⟩
          · rintro ⟨rfl, -⟩
            exact ⟨0, by simp⟩

theorem closesQuote_iff {text : List Char} :
    ClosesQuote text ↔ Renderers.SeedForm.of text ≠ .unclosed := by
  unfold ClosesQuote Renderers.SeedForm.of
  split
  · split <;> simp
  · next rest =>
      have ends (before : List Char) :
          rest = before ++ ['"'] ↔ rest.reverse = '"' :: before.reverse := by
        rw [← List.reverse_inj, List.reverse_append]
        rfl
      have only (rest' : List Char) : '"' :: rest = '"' :: rest' ↔ rest' = rest := by
        rw [List.cons.injEq, eq_comm (a := rest)]
        exact and_iff_right rfl
      simp only [only, forall_eq, ends, ← List.head?_reverse]
      split
      · next tail shape =>
          simp only [shape, List.cons.injEq, true_and, ne_eq, not_true, iff_false, not_exists,
            not_and, not_not]
          rintro before same
          rw [← same]
          rfl
      · next before plain shape =>
          refine iff_of_true ⟨before.reverse, by simp [shape], fun escaped => ?_⟩ (by simp)
          rw [List.reverse_reverse] at escaped
          obtain ⟨tail, rfl⟩ : ∃ tail, before = '\\' :: tail := by
            cases before with
            | nil => cases escaped
            | cons c tail => cases escaped; exact ⟨tail, rfl⟩
          exact plain tail rfl
      · next other =>
          simp only [ne_eq, not_true, iff_false, not_exists]
          exact fun before ⟨same, _⟩ => other before.reverse same
  · next single double =>
      refine iff_of_true (fun rest same => absurd same (double rest)) (by simp)

/-! ## Blocks -/

namespace Workspace

/-- A block of one of these types is among the owners above a block. -/
def StandsBelow (w : Workspace) (id : BlockId) (types : List String) : Prop :=
  ∃ above ∈ w.ancestors id, ∃ block, w.get? above = some block ∧ block.type ∈ types

/-- The owners above a block are as a placement wants them. -/
def Stands (w : Workspace) (id : BlockId) : Placement → Prop
  | .anywhere => True
  | .topLevel => w.ancestors id = []
  | .within types => w.StandsBelow id types
  | .topLevelOr types => w.ancestors id = [] ∨ w.StandsBelow id types

/-- A block passes the checks of its type. -/
structure Passes (w : Workspace) (id : BlockId) (block : Block) (type : BlockType) : Prop where
  placed : w.Stands id type.placement
  fields : ∀ field ∈ type.fields, ¬ (block.type = "function_param" ∧ field.name = "name") →
    field.Accepts (field.valueIn block)
  slots : ∀ slot ∈ type.slots, slot.required = true → slot.name ∈ block.slots
  index : block.type = "get_account" → ∀ field, type.field? "index" = some field →
    ∀ x, (field.valueIn block).number? = some x → (BinaryNumber.ofFloat x).IsNatural
  seed : block.type = "pda_seed" → ∀ field, type.field? "value" = some field →
    ClosesQuote (Text.trim (field.valueIn block).display).toList
  arms : block.type = "controls_if" → ∀ arm, 0 < arm → arm < Palette.Standard.conditionalArms →
    Palette.Standard.bodySlot arm ∈ block.slots → Palette.Standard.conditionSlot arm ∈ block.slots

/-- A block has a type and passes the checks of it. -/
def Sound (w : Workspace) (id : BlockId) : Prop :=
  ∃ block type, w.get? id = some block ∧ w.palette.get? block.type = some type ∧
    w.Passes id block type

/-- The slot for data of a variant that has none. -/
def Silences (w : Workspace) (seat : Seat) : Prop :=
  seat.slot = "fields" ∧ ∃ block, w.get? seat.owner = some block ∧ block.type = "enum_variant" ∧
    (block.fields["type"]?).map FieldValue.display = some "SIMPLE"

/-- A block lies in the data of a variant that has none. -/
def Hidden (w : Workspace) (id : BlockId) : Prop :=
  ∃ top seat, w.Below id top ∧ w.seat? top = some seat ∧ w.Silences seat

variable {w : Workspace} {id : BlockId}

theorem ancestors_eq_nil_iff : w.ancestors id = [] ↔ w.seat? id = none := by
  rw [ancestors, ancestorsFrom_eq]
  cases w.seat? id <;> simp

theorem isPlaced_iff {placement : Placement} :
    Emitter.isPlaced w id placement = true ↔ w.Stands id placement := by
  have below (types : List String) :
      types.any (w.hasAncestorOfType id) = true ↔ w.StandsBelow id types := by
    simp only [hasAncestorOfType, List.any_eq_true, Option.any_eq_true, beq_iff_eq, StandsBelow]
    constructor
    · rintro ⟨type, listed, above, member, block, found, rfl⟩
      exact ⟨above, member, block, found, listed⟩
    · rintro ⟨above, member, block, found, listed⟩
      exact ⟨block.type, listed, above, member, block, found, rfl⟩
  cases placement with
  | anywhere => simp [Emitter.isPlaced, Stands]
  | topLevel => simp [Emitter.isPlaced, Stands, ancestors_eq_nil_iff]
  | within types => exact below types
  | topLevelOr types =>
      rw [Emitter.isPlaced, Stands, Bool.or_eq_true, below, ancestors_eq_nil_iff,
        Option.isNone_iff_eq_none]

end Workspace

/-! ## Reading fields -/

namespace Site

variable {site : Site} {name : String} {field : FieldDecl}

theorem text_ok_iff (declared : site.fieldDecl name = .ok field) (free : field.kind = .freeText) :
    (∃ code, site.text name = .ok code) ↔ field.Accepts (field.valueIn site.block) := by
  have same : site.fieldValue field = field.valueIn site.block := rfl
  unfold text FieldDecl.Accepts
  rw [declared, free]
  simp only [except_bind_eq_ok_iff, Except.ok.injEq, exists_eq_left', same]
  have blank : (Text.trim (field.valueIn site.block).display).isEmpty =
      decide (Text.trim (field.valueIn site.block).display = "") := by
    rw [Bool.eq_iff_iff]
    simp
  rw [blank]
  generalize Text.trim (field.valueIn site.block).display = trimmed
  cases field.required <;> cases field.identifier <;> by_cases empty : trimmed = "" <;>
    cases named : Text.isIdentifier trimmed <;>
    simp_all [pure, Except.pure, throw, throwThe, MonadExceptOf.throw, bind, Except.bind]

theorem choice_ok_iff {options : List Choice} (declared : site.fieldDecl name = .ok field)
    (listed : field.kind = .choice options) (visible : "" ∉ options.map Choice.value) :
    (∃ value, site.choice name = .ok value) ↔ field.Accepts (field.valueIn site.block) := by
  have same : site.fieldValue field = field.valueIn site.block := rfl
  have offered : field.options? = some options := by rw [FieldDecl.options?, listed]
  unfold choice FieldDecl.Accepts
  rw [declared, listed]
  simp only [except_bind_eq_ok_iff, Except.ok.injEq, exists_eq_left', same, offered]
  generalize (field.valueIn site.block).display = raw
  by_cases member : raw ∈ options.map Choice.value
  · have filled : raw.isEmpty = false := by
      rw [Bool.eq_false_iff]
      intro empty
      rw [String.isEmpty_iff.1 empty] at member
      exact visible member
    simp [-List.mem_map, filled, member, pure, Except.pure]
  · cases raw.isEmpty && field.required <;>
      simp [-List.mem_map, member, throw, throwThe, MonadExceptOf.throw, bind, Except.bind]

theorem number_ok_iff (declared : site.fieldDecl name = .ok field) (kind : field.kind = .number)
    (named : field.name = name) :
    (∃ x, site.number name = .ok x) ↔ field.Accepts (field.valueIn site.block) := by
  have same : (site.block.fields[name]?).getD field.default = field.valueIn site.block := by
    rw [FieldDecl.valueIn, named]
  unfold number FieldDecl.Accepts
  rw [declared, kind]
  simp only [except_bind_eq_ok_iff, Except.ok.injEq, exists_eq_left', same]
  cases (field.valueIn site.block).number? with
  | none => simp [throw, throwThe, MonadExceptOf.throw]
  | some x =>
      simp only [Option.map_some, Option.some.injEq, exists_eq_left']
      cases BinaryNumber.ofFloat x <;>
        simp [BinaryNumber.isFinite, pure, Except.pure, throw, throwThe, MonadExceptOf.throw]

end Site

end SolanaBlocks
