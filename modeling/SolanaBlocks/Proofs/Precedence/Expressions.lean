import SolanaBlocks.Proofs.Emission.Steps
import SolanaBlocks.Proofs.Grammar.Reading
import SolanaBlocks.Proofs.Precedence.Trees

/-!
# Expressions read as their trees

The tiers of fragments are levels of the grammar: a fragment can stand wherever its tier is allowed,
and in parentheses anywhere. Every standard renderer of expressions keeps this up, so by induction
over the blocks that are still to be opened all emitted expressions read as their trees.
-/

namespace SolanaBlocks

open Grammar

/-- The level of the grammar that a tier stands for; casts, which no block makes, lie in between. -/
def Tier.level (tier : Tier) : Grammar.Level :=
  if tier ≤ Tier.unary then tier else tier + 1

theorem Tier.level_mono {tier other : Tier} (tighter : tier ≤ other) :
    tier.level ≤ other.level := by
  have mono : ∀ n m : Nat, n ≤ m →
      (if n ≤ 1 then n else n + 1) ≤ (if m ≤ 1 then m else m + 1) := by
    intro n m le
    split <;> split <;> omega
  exact mono tier other tighter

namespace Grammar.Operator

/-- The tier that renderers give to an operator. -/
def tier : Operator → Tier
  | mul | div => .multiplicative
  | add | sub => .additive
  | eq | ne | lt | le | gt | ge => .relational
  | and => .conjunction
  | or => .disjunction
  | through => .loosest

def associativity : Operator → Associativity
  | mul | div | add | sub => .left
  | and | or => .flat
  | _ => .none

def spelling (op : Operator) : String := String.ofList op.symbol

end Grammar.Operator

/-- What the tiers of operands promise is what the grammar asks of them. -/
theorem Grammar.Reads.operator {op : Operator} (bounded : op ≠ .through) {left right : List Char}
    {a b : Expr}
    (first : Reads (operandTier op.tier op.associativity .left).level left a)
    (second : Reads (operandTier op.tier op.associativity .right).level right b) :
    Reads op.tier.level (left ++ ' ' :: (op.symbol ++ ' ' :: right)) (.binary op a b) := by
  cases op with
  | through => exact absurd rfl bounded
  | and =>
      have flat : Operator.and.isFlat := rfl
      exact .flat flat first second
  | or =>
      have flat : Operator.or.isFlat := rfl
      exact .flat flat first second
  | _ => exact .binary _ (first.loosen (by decide)) (second.loosen (by decide))

/-- The fragment of an expression: its code reads as the tree wherever its tier is allowed. -/
structure Expresses (fragment : Fragment) (tier : Tier) (tree : Expr) : Prop where
  tier_eq : fragment.tier = some tier
  tier_le : tier ≤ Tier.disjunction
  reads : Reads tier.level fragment.code.toList tree

theorem Expresses.wrap {fragment : Fragment} {tier : Tier} {tree : Expr}
    (expresses : Expresses fragment tier tree) (required : Tier) :
    Reads required.level (fragment.wrap required).toList tree := by
  unfold Fragment.wrap needsParentheses
  rw [expresses.tier_eq, Option.getD_some]
  split
  · have grouped := (expresses.reads.loosen (Tier.level_mono expresses.tier_le)).loosen
      (by decide : Tier.disjunction.level ≤ Level.range)
    simpa using grouped.group.loosen (Nat.zero_le required.level)
  · next fits =>
      exact expresses.reads.loosen (Tier.level_mono (by simpa using fits))

/-- All answers about expression blocks read as their trees. -/
def Expressive (w : Workspace) (answer : BlockId → Except EmitError Fragment) : Prop :=
  ∀ id block fragment, w.get? id = some block → block.type ∈ Palette.Standard.expressionIds →
    answer id = .ok fragment → ∃ tree tier, Denotes w id tree ∧ Expresses fragment tier tree

theorem standard_mem {id : String} {type : BlockType}
    (known : Palette.standard.get? id = some type) :
    type ∈ Palette.Standard.types ∧ type.id = id :=
  ⟨List.mem_of_find?_eq_some known, by simpa using List.find?_some known⟩

theorem standard_expression {id : String} {type : BlockType}
    (known : Palette.standard.get? id = some type) (produces : type.producesValue) :
    id ∈ Palette.Standard.expressionIds := by
  have expressions : ∀ type ∈ Palette.Standard.types, type.producesValue →
      type.id ∈ Palette.Standard.expressionIds := by decide
  obtain ⟨member, rfl⟩ := standard_mem known
  exact expressions type member produces

theorem producesValue_of_expression {id : String} {type : BlockType}
    (known : Palette.standard.get? id = some type)
    (expression : id ∈ Palette.Standard.expressionIds) : type.producesValue := by
  have expressions : ∀ type ∈ Palette.Standard.types,
      type.id ∈ Palette.Standard.expressionIds → type.producesValue := by decide
  obtain ⟨member, rfl⟩ := standard_mem known
  exact expressions type member expression

theorem Shape.number_eq {x : BinaryNumber} {digits : List Char}
    (spelled : (FieldValue.numberText x).toList = Decimal.minus x.isBelowZero ++ digits) :
    Shape.number x = .number x.isBelowZero (String.ofList digits) := by
  simp [Shape.number, spelled]

namespace Site

variable {site : Site} {answer : BlockId → Except EmitError Fragment}

theorem standard_field (palette : site.palette = .standard) {name : String} {field : FieldDecl}
    (declared : site.fieldDecl name = .ok field) :
    (Palette.standard.get? site.block.type).bind (BlockType.field? · name) = some field := by
  obtain ⟨type, known, named⟩ := fieldDecl_eq_ok_iff.1 declared
  rw [← palette, known]
  exact named

theorem standard_slot (palette : site.palette = .standard) {slot : String} {declaration : SlotDecl}
    (declared : site.slotDecl slot = .ok declaration) :
    (Palette.standard.get? site.block.type).bind (BlockType.slot? · slot) = some declaration := by
  obtain ⟨type, known, named⟩ := slotDecl_eq_ok_iff.1 declared
  rw [← palette, known]
  exact named

/-- What the code of a slot for an expression is: that of the expression in it, or the code that is
declared for the case that there is none. -/
theorem standard_value (palette : site.palette = .standard) {slot default code : String}
    {required : Tier}
    (declared : (Palette.standard.get? site.block.type).bind (BlockType.slot? · slot) =
      some (.expression slot default))
    (rendered : (site.value slot required).run answer = .ok code) :
    (site.block.slots[slot]? = none ∧ code = default) ∨
      ∃ child block fragment, site.block.slots[slot]? = some (.single child) ∧
        site.workspace.get? child = some block ∧ block.type ∈ Palette.Standard.expressionIds ∧
        answer child = .ok fragment ∧ code = fragment.wrap required := by
  obtain ⟨declaration, known, found⟩ := value_run_eq_ok rendered
  cases declared.symm.trans (standard_slot palette known)
  rcases found with ⟨nothing, stated⟩ | ⟨child, block, type, fragment, held, found, known, produces,
    answered, wrapped⟩
  · cases stated
    exact .inl ⟨nothing, rfl⟩
  · rw [palette] at known
    exact .inr ⟨child, block, fragment, held, found, standard_expression known produces, answered,
      wrapped⟩

/-- The code of a slot reads as the tree in the slot. -/
theorem reads_value (palette : site.palette = .standard)
    (expressive : Expressive site.workspace answer) {slot default code : String} {required : Tier}
    {empty : Expr}
    (declared : (Palette.standard.get? site.block.type).bind (BlockType.slot? · slot) =
      some (.expression slot default))
    (fallback : Reads .primary default.toList empty)
    (rendered : (site.value slot required).run answer = .ok code) :
    ∃ tree, DenotesIn site.workspace site.block slot empty tree ∧
      Reads required.level code.toList tree := by
  rcases standard_value palette declared rendered with
    ⟨nothing, rfl⟩ | ⟨child, block, fragment, held, found, expression, answered, rfl⟩
  · exact ⟨empty, .empty nothing, fallback.loosen (Nat.zero_le _)⟩
  · obtain ⟨tree, tier, denotes, expresses⟩ :=
      expressive child block fragment found expression answered
    exact ⟨tree, .filled held denotes, expresses.wrap required⟩

theorem binary_run {symbol : String} {tier : Tier} {associativity : Associativity}
    {raw : Fragment}
    (ran : (Renderers.binary site symbol tier associativity).run answer = .ok raw) :
    ∃ left right, (site.value "a" (operandTier tier associativity .left)).run answer = .ok left ∧
      (site.value "b" (operandTier tier associativity .right)).run answer = .ok right ∧
      raw = { code := s!"{left} {symbol} {right}", tier := some tier } := by
  obtain ⟨left, first, ran⟩ := (Rendering.run_bind_eq_ok_iff answer).1 ran
  obtain ⟨right, second, ran⟩ := (Rendering.run_bind_eq_ok_iff answer).1 ran
  cases ran
  exact ⟨left, right, first, second, rfl⟩

theorem reads_zero : Reads .primary "0".toList (.number false "0") :=
  .numeral (.whole (by decide) (List.all_eq_true.1 (by decide)))

theorem reads_false : Reads .primary "false".toList (.truth false) :=
  .truth false

/-- What stands in for an operand that is missing, and what it reads as. -/
inductive Fallback : String → Expr → Prop where
  | zero : Fallback "0" (.number false "0")
  | false : Fallback "false" (.truth false)

theorem Fallback.reads {default : String} {empty : Expr} (fallback : Fallback default empty) :
    Reads .primary default.toList empty := by
  cases fallback with
  | zero => exact reads_zero
  | false => exact reads_false

/-- The fragment of an expression block, told by what the block contributes to its tree. -/
inductive Forms (site : Site) (answer : BlockId → Except EmitError Fragment) :
    Shape → Fragment → Prop where
  | truth (value : Bool) :
    Forms site answer (.leaf (.truth value)) { code := toString value, tier := some Tier.atomic }
  | text (content : String) :
    Forms site answer (.leaf (.text content))
      { code := Text.quote content, tier := some Tier.atomic }
  | name {name : String} (valid : Text.isIdentifier name) :
    Forms site answer (.leaf (.name name)) { code := name, tier := some Tier.atomic }
  | number {x : Float} (finite : (BinaryNumber.ofFloat x).isFinite) :
    Forms site answer (.leaf (Shape.number (.ofFloat x)))
      { code := FieldValue.numberText (.ofFloat x)
        tier := some (if (BinaryNumber.ofFloat x).isBelowZero then .unary else .atomic) }
  | negation {operand : String}
    (slot : (Palette.standard.get? site.block.type).bind (BlockType.slot? · "bool") =
      some (.expression "bool" "false"))
    (inner : (site.value "bool" .unary).run answer = .ok operand) :
    Forms site answer .negation { code := s!"!{operand}", tier := some .unary }
  | operation {op : Operator} {default : String} {empty : Expr} {left right : String}
    (bounded : op ≠ .through) (fallback : Fallback default empty)
    (first : (Palette.standard.get? site.block.type).bind (BlockType.slot? · "a") =
      some (.expression "a" default))
    (second : (Palette.standard.get? site.block.type).bind (BlockType.slot? · "b") =
      some (.expression "b" default))
    (leftRan : (site.value "a" (operandTier op.tier op.associativity .left)).run answer = .ok left)
    (rightRan :
      (site.value "b" (operandTier op.tier op.associativity .right)).run answer = .ok right) :
    Forms site answer (.operation op empty)
      { code := s!"{left} {op.spelling} {right}", tier := some op.tier }

section

variable (palette : site.palette = .standard) {raw : Fragment}

include palette

/-- A block whose operator is chosen in a field. -/
theorem forms_operation (decode : String → Option Operator) {name default : String}
    {options : List (String × String)} {empty : Expr} {k : String → Rendering Fragment}
    (field : (Palette.standard.get? site.block.type).bind (BlockType.field? · name) =
      some (.ofChoice name options))
    (first : (Palette.standard.get? site.block.type).bind (BlockType.slot? · "a") =
      some (.expression "a" default))
    (second : (Palette.standard.get? site.block.type).bind (BlockType.slot? · "b") =
      some (.expression "b" default))
    (fallback : Fallback default empty)
    (shape : site.block.shape? =
      (decode (site.fieldValue (.ofChoice name options)).display).map (.operation · empty))
    (each : ∀ option ∈ options, ∃ op, op ≠ .through ∧ decode option.2 = some op ∧
      k option.2 = Renderers.binary site op.spelling op.tier op.associativity)
    (ran : (Rendering.ofExcept (site.choice name) >>= k).run answer = .ok raw) :
    ∃ shape, site.block.shape? = some shape ∧ site.Forms answer shape raw := by
  obtain ⟨value, chosen, ran⟩ := (Rendering.run_bind_eq_ok_iff answer).1 ran
  obtain ⟨declaration, declared, shown, listed⟩ := choice_eq_ok chosen
  cases field.symm.trans (standard_field palette declared)
  obtain ⟨choice, offered, rfl⟩ := List.mem_map.1 (listed _ rfl)
  obtain ⟨option, member, rfl⟩ := List.mem_map.1 offered
  obtain ⟨op, bounded, denoted, rendered⟩ := each option member
  rw [← shown, denoted] at shape
  rw [rendered] at ran
  obtain ⟨left, right, leftRan, rightRan, rfl⟩ := binary_run ran
  exact ⟨_, shape, .operation bounded fallback first second leftRan rightRan⟩

theorem forms_mathOperation (type : site.block.type = "math_operation")
    (ran : (Renderers.mathOperation site).run answer = .ok raw) :
    ∃ shape, site.block.shape? = some shape ∧ site.Forms answer shape raw := by
  refine forms_operation palette Shape.arithmetic? (by rw [type]; rfl) (by rw [type]; rfl)
    (by rw [type]; rfl) .zero (by rw [Block.shape?, type]; rfl) ?_ ran
  simp only [List.forall_mem_cons]
  exact ⟨⟨.add, by decide, rfl, rfl⟩, ⟨.sub, by decide, rfl, rfl⟩, ⟨.mul, by decide, rfl, rfl⟩,
    ⟨.div, by decide, rfl, rfl⟩, by simp⟩

theorem forms_comparison (type : site.block.type = "logic_compare")
    (ran : (Renderers.comparison site).run answer = .ok raw) :
    ∃ shape, site.block.shape? = some shape ∧ site.Forms answer shape raw := by
  refine forms_operation palette Shape.comparison? (by rw [type]; rfl) (by rw [type]; rfl)
    (by rw [type]; rfl) .zero (by rw [Block.shape?, type]; rfl) ?_ ran
  simp only [List.forall_mem_cons]
  exact ⟨⟨.eq, by decide, rfl, rfl⟩, ⟨.ne, by decide, rfl, rfl⟩, ⟨.lt, by decide, rfl, rfl⟩,
    ⟨.le, by decide, rfl, rfl⟩, ⟨.gt, by decide, rfl, rfl⟩, ⟨.ge, by decide, rfl, rfl⟩, by simp⟩

theorem forms_logicOperation (type : site.block.type = "logic_operation")
    (ran : (Renderers.logicOperation site).run answer = .ok raw) :
    ∃ shape, site.block.shape? = some shape ∧ site.Forms answer shape raw := by
  refine forms_operation palette Shape.connective? (by rw [type]; rfl) (by rw [type]; rfl)
    (by rw [type]; rfl) .false (by rw [Block.shape?, type]; rfl) ?_ ran
  simp only [List.forall_mem_cons]
  exact ⟨⟨.and, by decide, rfl, rfl⟩, ⟨.or, by decide, rfl, rfl⟩, by simp⟩

omit palette in
theorem forms_negation (type : site.block.type = "logic_negate")
    (ran : (Renderers.negation site).run answer = .ok raw) :
    ∃ shape, site.block.shape? = some shape ∧ site.Forms answer shape raw := by
  obtain ⟨operand, inner, ran⟩ := (Rendering.run_bind_eq_ok_iff answer).1 ran
  cases ran
  have shape : site.block.shape? = some .negation := by
    simp [Block.shape?, type]
  exact ⟨_, shape, .negation (by rw [type]; rfl) inner⟩

theorem truthValue_run (type : site.block.type = "logic_boolean")
    (ran : (Renderers.truthValue site).run answer = .ok raw) :
    ∃ value, site.block.shape? = some (.leaf (.truth value)) ∧
      raw = { code := toString value, tier := some Tier.atomic } := by
  obtain ⟨chosen, choice, ran⟩ := (Rendering.run_bind_eq_ok_iff answer).1 ran
  cases ran
  obtain ⟨declaration, declared, shown, listed⟩ := choice_eq_ok choice
  have declared := standard_field palette declared
  rw [type] at declared
  cases declared
  have shape : site.block.shape? = (Shape.truth? chosen).map fun value => .leaf (.truth value) := by
    rw [Block.shape?, type, shown]
    rfl
  have member : chosen ∈ ["TRUE", "FALSE"] := listed _ rfl
  have spelled : ∃ value, Shape.truth? chosen = some value ∧
      Text.lowercase chosen = toString value := by
    revert member
    simp only [List.mem_cons, List.not_mem_nil, or_false]
    rintro (rfl | rfl)
    · exact ⟨true, rfl, by decide⟩
    · exact ⟨false, rfl, by decide⟩
  obtain ⟨value, denoted, spelled⟩ := spelled
  rw [denoted] at shape
  exact ⟨value, shape, by rw [spelled]⟩

theorem textLiteral_run (type : site.block.type = "text")
    (ran : (Renderers.textLiteral site).run answer = .ok raw) :
    ∃ content, site.block.shape? = some (.leaf (.text content)) ∧
      raw = { code := Text.quote content, tier := some Tier.atomic } := by
  obtain ⟨content, read, ran⟩ := (Rendering.run_bind_eq_ok_iff answer).1 ran
  cases ran
  obtain ⟨declaration, declared, shown⟩ := text_eq_ok read
  have declared := standard_field palette declared
  rw [type] at declared
  cases declared
  refine ⟨content, ?_, rfl⟩
  rw [Block.shape?, type, shown]
  rfl

theorem variableName_run (type : site.block.type = "variable_get")
    (ran : (Renderers.variableName site).run answer = .ok raw) :
    ∃ name, Text.isIdentifier name ∧ site.block.shape? = some (.leaf (.name name)) ∧
      raw = { code := name, tier := some Tier.atomic } := by
  obtain ⟨name, read, ran⟩ := (Rendering.run_bind_eq_ok_iff answer).1 ran
  cases ran
  obtain ⟨declaration, declared, shown⟩ := text_eq_ok read
  have declared := standard_field palette declared
  rw [type] at declared
  cases declared
  obtain ⟨shown, valid⟩ := shown
  refine ⟨name, valid, ?_, rfl⟩
  rw [Block.shape?, type, shown]
  rfl

theorem numberLiteral_run (type : site.block.type = "math_number")
    (ran : (Renderers.numberLiteral site).run answer = .ok raw) :
    ∃ value, (BinaryNumber.ofFloat value).isFinite ∧
      (site.block.fieldValue "num" (.number 0)).number? = some value ∧
      site.block.shape? = some (.leaf (Shape.number (.ofFloat value))) ∧
      raw = {
        code := FieldValue.numberText (.ofFloat value)
        tier := some (if (BinaryNumber.ofFloat value).isBelowZero then .unary else .atomic) } := by
  obtain ⟨x, read, ran⟩ := (Rendering.run_bind_eq_ok_iff answer).1 ran
  cases ran
  obtain ⟨declaration, declared, finite, shown⟩ := number_eq_ok read
  have declared := standard_field palette declared
  rw [type] at declared
  cases declared
  obtain ⟨value, held, rfl⟩ := Option.map_eq_some_iff.1 shown
  have same : (site.block.fieldValue "num" (.number 0)).number? = some value := held
  refine ⟨value, finite, same, ?_, rfl⟩
  rw [Block.shape?, type]
  simp only [same, Option.map_some]

/-- What the fragment of an expression block is. -/
theorem forms_standard (expression : site.block.type ∈ Palette.Standard.expressionIds)
    {renderer : Renderer} (rendered : Renderers.standard? site.block.type = some renderer)
    (ran : (renderer site).run answer = .ok raw) :
    ∃ shape, site.block.shape? = some shape ∧ site.Forms answer shape raw := by
  simp only [Palette.Standard.expressionIds, Palette.Standard.expressionTypes, List.map_cons,
    List.map_nil, Palette.Standard.value, List.mem_cons, List.not_mem_nil, or_false] at expression
  rcases expression with type | type | type | type | type | type | type | type <;>
    rw [type] at rendered <;> cases rendered
  · exact forms_mathOperation palette type ran
  · obtain ⟨x, finite, -, shape, rfl⟩ := numberLiteral_run palette type ran
    exact ⟨_, shape, .number finite⟩
  · exact forms_comparison palette type ran
  · exact forms_logicOperation palette type ran
  · exact forms_negation type ran
  · obtain ⟨value, shape, rfl⟩ := truthValue_run palette type ran
    exact ⟨_, shape, .truth value⟩
  · obtain ⟨content, shape, rfl⟩ := textLiteral_run palette type ran
    exact ⟨_, shape, .text content⟩
  · obtain ⟨name, valid, shape, rfl⟩ := variableName_run palette type ran
    exact ⟨_, shape, .name valid⟩

end

/-- The fragment of an expression block reads as its tree if the answers about its operands do. -/
theorem expresses_standard (palette : site.palette = .standard)
    (expressive : Expressive site.workspace answer)
    (found : site.workspace.get? site.id = some site.block)
    (expression : site.block.type ∈ Palette.Standard.expressionIds) {renderer : Renderer}
    (rendered : Renderers.standard? site.block.type = some renderer) {raw : Fragment}
    (ran : (renderer site).run answer = .ok raw) :
    ∃ tree tier, Denotes site.workspace site.id tree ∧ Expresses raw tier tree := by
  obtain ⟨shape, shown, forms⟩ := forms_standard palette expression rendered ran
  cases forms with
  | truth value => exact ⟨.truth value, .atomic, .leaf found shown, rfl, by decide, .truth value⟩
  | text content => exact ⟨.text content, .atomic, .leaf found shown, rfl, by decide, .text content⟩
  | @name name valid => exact ⟨.name name, .atomic, .leaf found shown, rfl, by decide, .name valid⟩
  | @number x finite =>
      obtain ⟨digits, written, spelled⟩ := Decimal.numberText_toList finite
      rw [Shape.number_eq spelled] at shown
      refine ⟨_, _, .leaf found shown, rfl, ?_, ?_⟩
      · cases (BinaryNumber.ofFloat x).isBelowZero <;> decide
      · change Reads _ (FieldValue.numberText _).toList _
        rw [spelled]
        cases (BinaryNumber.ofFloat x).isBelowZero with
        | false => exact .numeral written.numeral
        | true => exact .negative written.numeral
  | @negation operand slot inner =>
      obtain ⟨tree, inside, reads⟩ := reads_value palette expressive slot reads_false inner
      refine ⟨.signed .not tree, .unary, .negation found shown inside, rfl, by decide, ?_⟩
      change Reads _ ("!" ++ operand).toList _
      rw [String.toList_append]
      exact .not reads
  | @operation op default empty left right bounded fallback first second leftRan rightRan =>
      obtain ⟨a, inLeft, leftReads⟩ :=
        reads_value palette expressive first fallback.reads leftRan
      obtain ⟨b, inRight, rightReads⟩ :=
        reads_value palette expressive second fallback.reads rightRan
      refine ⟨.binary op a b, op.tier, .operation found shown inLeft inRight, rfl, ?_, ?_⟩
      · cases op with
        | through => exact absurd rfl bounded
        | _ => decide
      · have code : (left ++ " " ++ op.spelling ++ " " ++ right).toList =
            left.toList ++ ' ' :: (op.symbol ++ ' ' :: right.toList) := by
          simp [Operator.spelling]
        change Reads _ (left ++ " " ++ op.spelling ++ " " ++ right).toList _
        rw [code]
        exact .operator bounded leftReads rightReads

end Site

theorem Expresses.settleTier {raw : Fragment} {tier : Tier} {tree : Expr}
    (expresses : Expresses raw tier tree) {type : BlockType} (produces : type.producesValue) :
    Expresses (Emitter.settleTier type raw) tier tree := by
  refine ⟨?_, expresses.tier_le, expresses.reads⟩
  simp [Emitter.settleTier, produces, expresses.tier_eq]

namespace Emitter

/-- The emitter of the standard types and their own renderers. -/
def standard (width : Nat) : Emitter := { palette := .standard, indentWidth := width }

/-- All emitted expressions have a property that every renderer of expressions passes on to its
fragment from the answers about other expressions. -/
theorem expressions_induction {w : Workspace} {P : BlockId → Fragment → Prop} {width : Nat}
    (step : ∀ {site : Site} {answer renderer raw type}, site.palette = .standard →
      site.workspace = w → w.get? site.id = some site.block →
      (∀ id block fragment, w.get? id = some block →
        block.type ∈ Palette.Standard.expressionIds → answer id = .ok fragment → P id fragment) →
      site.block.type ∈ Palette.Standard.expressionIds →
      Renderers.standard? site.block.type = some renderer → (renderer site).run answer = .ok raw →
      type.producesValue → P site.id (settleTier type raw))
    (open_ : List BlockId) (id : BlockId) (block : Block) (fragment : Fragment)
    (found : w.get? id = some block) (expression : block.type ∈ Palette.Standard.expressionIds)
    (emitted : (standard width).emitWithin w open_ id = .ok fragment) : P id fragment := by
  induction open_ using w.unseen_induction generalizing id block fragment with
  | step open_ ih =>
      obtain ⟨block', type, renderer, raw, found', closed, known, rendered, ran, rfl⟩ :=
        emitWithin_eq_ok emitted
      cases found.symm.trans found'
      let site : Site := ⟨w, .standard, (standard width).unit, id, block⟩
      have palette : site.palette = .standard := rfl
      exact step palette rfl found (ih found' closed) expression rendered ran
        (producesValue_of_expression known expression)

theorem expressive_emitWithin (w : Workspace) (width : Nat) (open_ : List BlockId) :
    Expressive w ((standard width).emitWithin w open_) := by
  refine expressions_induction (fun palette same found answers expression rendered ran produces => ?_)
    open_
  subst same
  obtain ⟨tree, tier, denotes, expresses⟩ :=
    Site.expresses_standard palette answers found expression rendered ran
  exact ⟨tree, tier, denotes, expresses.settleTier produces⟩

end Emitter

end SolanaBlocks
