import SolanaBlocks.Proofs.Emission.Acceptance
import SolanaBlocks.Proofs.Emission.Nesting
import SolanaBlocks.Proofs.Generation.Batches

/-!
# Whom an error points at

Errors are raised where blocks are read and rendered, often on behalf of another block: an owner
renders what is in its slots, and a field of a variant reads what kind of variant it is in. In an
orderly workspace the block that the error names is still the one that is at fault, and nothing but a
field, a slot or the place of a block can be.
-/

namespace SolanaBlocks

open Palette.Standard (conditionalArms conditionSlot bodySlot)

theorem except_bind_eq_error_iff {ε α β : Type} {x : Except ε α} {f : α → Except ε β} {e : ε} :
    (x >>= f) = .error e ↔ x = .error e ∨ ∃ a, x = .ok a ∧ f a = .error e := by
  cases x <;> simp [bind, Except.bind]

theorem except_map_eq_error_iff {ε α β : Type} {x : Except ε α} {f : α → β} {e : ε} :
    x.map f = .error e ↔ x = .error e := by
  cases x <;> simp [Except.map]

theorem Rendering.run_bind_eq_error_iff {α β : Type} {answer : BlockId → Except EmitError Fragment}
    {r : Rendering α} {f : α → Rendering β} {failure : EmitError} :
    (r >>= f).run answer = .error failure ↔
      r.run answer = .error failure ∨ ∃ a, r.run answer = .ok a ∧ (f a).run answer = .error failure := by
  rw [run_bind]
  cases r.run answer <;> simp

namespace Workspace

/-- A stored block with the type it follows. -/
structure Follows (w : Workspace) (id : BlockId) (block : Block) (type : BlockType) : Prop where
  found : w.get? id = some block
  known : w.palette.get? block.type = some type

/-- What an error says is true of the block it names. Only these errors say anything about a field, a
slot or the place of a block. -/
inductive Breaks (w : Workspace) : EmitError → Prop
  | blank {id : BlockId} {block : Block} {type : BlockType} {name : String} {field : FieldDecl}
    (follows : w.Follows id block type) (declared : type.field? name = some field)
    (required : field.required = true) (blank : Text.trim (field.valueIn block).display = "") :
    Breaks w (.missingField id name)
  | notAnIdentifier {id : BlockId} {block : Block} {type : BlockType} {name : String}
    {field : FieldDecl} (follows : w.Follows id block type)
    (declared : type.field? name = some field) (identifier : field.identifier = true)
    (other : Text.isIdentifier (Text.trim (field.valueIn block).display) = false) :
    Breaks w (.invalidField id name (Text.trim (field.valueIn block).display) .notAnIdentifier)
  | notAmong {id : BlockId} {block : Block} {type : BlockType} {name : String} {field : FieldDecl}
    {options : List Choice} (follows : w.Follows id block type)
    (declared : type.field? name = some field) (kind : field.kind = .choice options)
    (other : (field.valueIn block).display ∉ options.map Choice.value) :
    Breaks w (.invalidField id name (field.valueIn block).display
      (.notAmong (options.map Choice.value)))
  | notFinite {id : BlockId} {block : Block} {type : BlockType} {name : String} {field : FieldDecl}
    (follows : w.Follows id block type) (declared : type.field? name = some field)
    (kind : field.kind = .number)
    (other : ¬ ∃ x, (field.valueIn block).number? = some x ∧ (BinaryNumber.ofFloat x).isFinite) :
    Breaks w (.invalidField id name (field.valueIn block).display .notFinite)
  | notAnIndex {id : BlockId} {block : Block} {type : BlockType} {field : FieldDecl} {x : Float}
    (follows : w.Follows id block type) (account : block.type = "get_account")
    (declared : type.field? "index" = some field) (held : (field.valueIn block).number? = some x)
    (other : ¬ (BinaryNumber.ofFloat x).IsNatural) :
    Breaks w (.invalidField id "index" (Decimal.plain .double (BinaryNumber.ofFloat x)) .notAnIndex)
  | unclosedSeed {id : BlockId} {block : Block} {type : BlockType} {field : FieldDecl}
    (follows : w.Follows id block type) (seed : block.type = "pda_seed")
    (declared : type.field? "value" = some field)
    (other : ¬ ClosesQuote (Text.trim (field.valueIn block).display).toList) :
    Breaks w (.invalidField id "value" (Text.trim (field.valueIn block).display) .unclosedSeed)
  | unbound {id : BlockId} {block : Block} {type : BlockType} {slot : String}
    {declaration : SlotDecl} (follows : w.Follows id block type)
    (declared : type.slot? slot = some declaration) (required : declaration.required = true)
    (unbound : slot ∉ block.slots) :
    Breaks w (.missingSlot id slot)
  | unconditional {id : BlockId} {block : Block} {type : BlockType} {arm : Nat}
    (follows : w.Follows id block type) (conditional : block.type = "controls_if")
    (later : 0 < arm) (inside : arm < conditionalArms) (body : bodySlot arm ∈ block.slots)
    (unbound : conditionSlot arm ∉ block.slots) :
    Breaks w (.missingSlot id (conditionSlot arm))
  | misplaced {id : BlockId} {block : Block} {type : BlockType} (follows : w.Follows id block type)
    (elsewhere : ¬ w.Stands id type.placement) :
    Breaks w (.misplaced id block.type (.against type.placement))

theorem Breaks.contains {w : Workspace} {failure : EmitError} (breaks : w.Breaks failure) :
    w.contains failure.block = true := by
  cases breaks <;> exact contains_iff.2 ⟨_, ‹w.Follows _ _ _›.found⟩

end Workspace

/-! ## Renderings -/

namespace Site

/-- An error that can end a rendering: the block or its owner is at fault, or the error has been heard
about a block in a slot. -/
inductive Traces (site : Site) (answer : BlockId → Except EmitError Fragment) (failure : EmitError) :
    Prop
  | own (breaks : site.workspace.Breaks failure) (mine : failure.block = site.id)
  | owner (breaks : site.workspace.Breaks failure)
    (above : site.workspace.OwnedBy site.id failure.block)
  | heard {child : BlockId} (owned : site.workspace.OwnedBy child site.id)
    (answered : answer child = .error failure)

/-- All errors of a rendering can be traced. -/
def Blames {α : Type} (site : Site) (answer : BlockId → Except EmitError Fragment)
    (r : Rendering α) : Prop :=
  ∀ failure, r.run answer = .error failure → site.Traces answer failure

namespace Blames

variable {α β : Type} {site : Site} {answer : BlockId → Except EmitError Fragment}
  {r t : Rendering α} {f : α → Rendering β}

theorem pure (a : α) : site.Blames answer (Pure.pure a : Rendering α) := by
  intro failure failed
  cases failed

theorem fail {failure : EmitError} (traces : site.Traces answer failure) :
    site.Blames answer (.fail failure : Rendering α) := by
  intro failure' failed
  cases failed
  exact traces

theorem bind (first : site.Blames answer r)
    (next : ∀ a, r.run answer = .ok a → site.Blames answer (f a)) :
    site.Blames answer (r >>= f) := by
  intro failure failed
  obtain failed | ⟨a, ran, failed⟩ := Rendering.run_bind_eq_error_iff.1 failed
  · exact first failure failed
  · exact next a ran failure failed

/-- What is read at the block itself can only fail for a fault of the block. -/
theorem own {outcome : Except EmitError α}
    (faults : ∀ failure, outcome = .error failure →
      site.workspace.Breaks failure ∧ failure.block = site.id) :
    site.Blames answer (.ofExcept outcome) := by
  intro failure failed
  obtain ⟨breaks, mine⟩ := faults failure failed
  exact .own breaks mine

theorem ite {c : Prop} [Decidable c] (then_ : c → site.Blames answer r)
    (else_ : ¬ c → site.Blames answer t) : site.Blames answer (if c then r else t) := by
  split
  · next holds => exact then_ holds
  · next fails => exact else_ fails

end Blames

namespace Orderly

variable {site : Site} {T : BlockType} {answer : BlockId → Except EmitError Fragment}
  (o : site.Orderly T)

include o

theorem follows : site.workspace.Follows site.id site.block T :=
  ⟨o.found, o.workspace.palette ▸ o.known⟩

/-! ## Fields -/

section Fields

variable {name : String} {failure : EmitError}

theorem breaks_of_text (free : T.isText name = true) (failed : site.text name = .error failure) :
    site.workspace.Breaks failure ∧ failure.block = site.id := by
  obtain ⟨field, declared, -, -⟩ := o.fieldDecl free
  obtain missing | ⟨_, same, failed⟩ := except_bind_eq_error_iff.1 failed
  · cases declared.symm.trans missing
  cases declared.symm.trans same
  have named := o.fieldDecl_iff.1 declared
  dsimp only at failed
  split at failed
  · next empty =>
      cases failed
      simp only [Bool.and_eq_true, String.isEmpty_iff] at empty
      exact ⟨.blank o.follows named empty.1 empty.2, rfl⟩
  split at failed
  · next identifier =>
      split at failed
      · cases failed
      · next other =>
          cases failed
          exact ⟨.notAnIdentifier o.follows named identifier (Bool.eq_false_iff.2 other), rfl⟩
  · cases failed

theorem breaks_of_choice (listed : T.isChoice name = true)
    (failed : site.choice name = .error failure) :
    site.workspace.Breaks failure ∧ failure.block = site.id := by
  obtain ⟨field, declared, -, -⟩ := o.fieldDecl listed
  obtain missing | ⟨_, same, failed⟩ := except_bind_eq_error_iff.1 failed
  · cases declared.symm.trans missing
  cases declared.symm.trans same
  have named := o.fieldDecl_iff.1 declared
  dsimp only at failed
  split at failed
  · cases failed
  · next options offered =>
      split at failed
      · next empty =>
          cases failed
          simp only [Bool.and_eq_true, String.isEmpty_iff] at empty
          have nothing : (field.valueIn site.block).display = "" := empty.1
          have blank : Text.trim (field.valueIn site.block).display = "" := by
            rw [nothing]
            rfl
          exact ⟨.blank o.follows named empty.2 blank, rfl⟩
      split at failed
      · cases failed
      · next other =>
          cases failed
          have kind : field.kind = .choice options := by
            unfold FieldDecl.options? at offered
            split at offered
            · next kind => rw [kind, Option.some.inj offered]
            · cases offered
          exact ⟨.notAmong o.follows named kind fun there => other (List.contains_iff_mem.2 there), rfl⟩

theorem breaks_of_number (number : T.isNumber name = true)
    (failed : site.number name = .error failure) :
    site.workspace.Breaks failure ∧ failure.block = site.id := by
  obtain ⟨field, declared, rfl, kind⟩ := o.fieldDecl number
  have kind : field.kind = .number := by simpa using kind
  have unread : ¬ ∃ x, site.number field.name = .ok x := by
    rintro ⟨x, read⟩
    cases failed.symm.trans read
  rw [number_ok_iff declared kind rfl, FieldDecl.Accepts, kind] at unread
  obtain missing | ⟨_, same, failed⟩ := except_bind_eq_error_iff.1 failed
  · cases declared.symm.trans missing
  cases declared.symm.trans same
  dsimp only at failed
  split at failed
  · cases failed
  · cases failed
    exact ⟨.notFinite o.follows (o.fieldDecl_iff.1 declared) kind unread, rfl⟩

end Fields

theorem blames_text {name : String} (free : T.isText name = true) :
    site.Blames answer (.ofExcept (site.text name)) :=
  .own fun _ => o.breaks_of_text free

theorem blames_choice {name : String} (listed : T.isChoice name = true) :
    site.Blames answer (.ofExcept (site.choice name)) :=
  .own fun _ => o.breaks_of_choice listed

theorem blames_number {name : String} (number : T.isNumber name = true) :
    site.Blames answer (.ofExcept (site.number name)) :=
  .own fun _ => o.breaks_of_number number

/-! ## Slots -/

theorem blames_value? {slot : String} (tier : Tier) (expression : T.takesExpression slot = true) :
    site.Blames answer (site.value? slot tier) := by
  obtain ⟨declaration, declared, kind⟩ := o.slotDecl expression
  obtain ⟨arity, free⟩ : declaration.arity = .expression ∧ declaration.required = false := by
    simpa using kind
  refine .bind (fun failure failed => ?_) fun _ same => ?_
  · cases declared.symm.trans failed
  cases declared.symm.trans same
  rcases o.contents declared with ⟨held, -⟩ | ⟨-, child, held, only⟩ | ⟨chain, -⟩
  · rw [held, free]
    exact .pure none
  · have sits := (only child).2 rfl
    obtain ⟨block, type, found, known, fits⟩ := o.child declared sits
    have produces : type.producesValue = true := by simp [fits, arity]
    rw [held]
    simp only [resolve_eq found known]
    refine .bind (fun failure failed => by cases failed) fun resolved same => ?_
    cases same
    dsimp only
    rw [if_pos produces]
    refine .bind (fun failure answered => ?_) fun _ _ => .pure _
    exact .heard (Workspace.ownedBy_iff.2 ⟨slot, sits⟩) answered
  · rw [arity] at chain
    cases chain

theorem blames_value {slot : String} (tier : Tier) (default : T.hasDefault slot = true) :
    site.Blames answer (site.value slot tier) := by
  obtain ⟨declaration, declared, kind⟩ := o.slotDecl default
  have stated : declaration.defaultCode.isSome := by
    simp only [decide_eq_true_eq] at kind
    exact kind.2.2
  have takes := BlockType.takesExpression_of_hasDefault default
  refine .bind (o.blames_value? tier takes) fun content _ => ?_
  cases content with
  | some code => exact .pure code
  | none =>
      refine .bind (fun failure failed => ?_) fun _ same => ?_
      · cases declared.symm.trans failed
      cases declared.symm.trans same
      obtain ⟨code, stated⟩ := Option.isSome_iff_exists.1 stated
      rw [stated]
      exact .pure code

omit o in
/-- At a new member that is a statement, a loop over a chain fails with what it hears about this member,
or later. -/
theorem fragmentsFrom_error_cases {slot : String} {seen : List BlockId} {id : BlockId}
    {block : Block} {type : BlockType} (new : id ∉ seen)
    (found : site.workspace.get? id = some block)
    (known : site.palette.get? block.type = some type) (statement : type.producesValue = false)
    {failure : EmitError}
    (failed : (site.fragmentsFrom slot seen id).run answer = .error failure) :
    answer id = .error failure ∨ ∃ next, block.next = some next ∧
      (site.fragmentsFrom slot (id :: seen) next).run answer = .error failure := by
  have typed : (site.moveTo id block).type = .ok type := by simp [Site.type, moveTo, known]
  rw [fragmentsFrom_eq, if_neg new, found] at failed
  obtain unknown | ⟨_, same, failed⟩ := Rendering.run_bind_eq_error_iff.1 failed
  · cases typed.symm.trans unknown
  cases typed.symm.trans same
  rw [statement, if_neg Bool.false_ne_true] at failed
  obtain here | ⟨fragment, -, failed⟩ := Rendering.run_bind_eq_error_iff.1 failed
  · exact .inl here
  split at failed
  · cases failed
  · next next link =>
      refine .inr ⟨next, link, ?_⟩
      obtain later | ⟨codes, -, failed⟩ := Rendering.run_bind_eq_error_iff.1 failed
      · exact later
      · cases failed

omit o in
/-- A loop over a chain of statements fails with what it hears about one of them. -/
theorem fragmentsFrom_error {slot : String} {rest : List BlockId} {id : BlockId}
    (seen : List BlockId) (distinct : (id :: rest).Nodup)
    (linked : Linked site.workspace.next? (id :: rest) none)
    (new : ∀ member ∈ id :: rest, member ∉ seen)
    (statements : ∀ member ∈ id :: rest, ∃ block type,
      site.workspace.get? member = some block ∧ site.palette.get? block.type = some type ∧
        type.producesValue = false) {failure : EmitError}
    (failed : (site.fragmentsFrom slot seen id).run answer = .error failure) :
    ∃ member ∈ id :: rest, answer member = .error failure := by
  induction rest generalizing id seen with
  | nil =>
      obtain ⟨block, type, found, known, statement⟩ := statements id List.mem_cons_self
      have last : block.next = none := by simpa [Workspace.next?, found] using linked.1
      rcases fragmentsFrom_error_cases (new id List.mem_cons_self) found known statement failed with
        here | ⟨next, link, -⟩
      · exact ⟨id, List.mem_cons_self, here⟩
      · cases last.symm.trans link
  | cons next rest ih =>
      obtain ⟨block, type, found, known, statement⟩ := statements id List.mem_cons_self
      have follows : block.next = some next := by simpa [Workspace.next?, found] using linked.1
      obtain ⟨once, distinct⟩ := List.nodup_cons.1 distinct
      rcases fragmentsFrom_error_cases (new id List.mem_cons_self) found known statement failed with
        here | ⟨_, link, later⟩
      · exact ⟨id, List.mem_cons_self, here⟩
      · cases follows.symm.trans link
        have new' : ∀ member ∈ next :: rest, member ∉ id :: seen := by
          intro member there passed
          rcases List.mem_cons.1 passed with rfl | passed
          · exact once there
          · exact new member (List.mem_cons_of_mem id there) passed
        obtain ⟨member, there, answered⟩ :=
          ih (id :: seen) distinct linked.2 new' (List.forall_mem_cons.1 statements).2 later
        exact ⟨member, List.mem_cons_of_mem id there, answered⟩

theorem blames_fragments {slot : String} (chain : T.takesChain slot = true) :
    site.Blames answer (site.fragments slot) := by
  obtain ⟨declaration, declared, kind⟩ := o.slotDecl chain
  have arity : declaration.arity = .chain := by simpa using kind
  refine .bind (fun failure failed => ?_) fun _ same => ?_
  · cases declared.symm.trans failed
  cases declared.symm.trans same
  rcases o.contents declared with ⟨held, -⟩ | ⟨expression, -⟩ |
    ⟨-, head, rest, held, distinct, linked, inside⟩
  · rw [held]
    refine .ite (fun required => .fail (.own ?_ rfl)) fun _ => .pure []
    obtain ⟨type, known, named⟩ := slotDecl_eq_ok_iff.1 declared
    cases o.known.symm.trans known
    refine .unbound o.follows named required fun bound => ?_
    rw [← Std.ExtTreeMap.isSome_getElem?_iff_mem, held] at bound
    cases bound
  · rw [arity] at expression
    cases expression
  · have statements : ∀ member ∈ head :: rest, ∃ block type,
        site.workspace.get? member = some block ∧ site.palette.get? block.type = some type ∧
          type.producesValue = false := by
      intro member here
      obtain ⟨block, type, found, known, fits⟩ := o.child declared ((inside member).2 here)
      exact ⟨block, type, found, known, by rw [fits, arity]; rfl⟩
    rw [held]
    intro failure failed
    obtain ⟨member, here, answered⟩ :=
      fragmentsFrom_error [] distinct linked (fun _ _ => List.not_mem_nil) statements failed
    exact .heard (Workspace.ownedBy_iff.2 ⟨slot, (inside member).2 here⟩) answered

theorem blames_flatStatements {slot : String} (chain : T.takesChain slot = true) :
    site.Blames answer (site.flatStatements slot) :=
  .bind (o.blames_fragments chain) fun _ _ => .pure _

theorem blames_statements {slot : String} (chain : T.takesChain slot = true) :
    site.Blames answer (site.statements slot) :=
  .bind (o.blames_flatStatements chain) fun _ _ => .pure _

/-! ## Renderers with checks of their own -/

open Renderers BlockType

/-- The kind of a variant is read at the variant, which owns the field. -/
theorem blames_structField (palette : site.palette = .standard) (name : T.isText "name")
    (type : T.isChoice "type") : site.Blames answer (structField site) := by
  refine .bind (o.blames_text name) fun _ _ => .bind (o.blames_choice type) fun _ _ => ?_
  split
  · next owner above =>
      refine .ite (fun variant => .bind (fun failure failed => ?_) fun _ _ => ?_) fun _ => ?_
      · obtain ⟨ownerId, owned, above⟩ := Option.bind_eq_some_iff.1 above
        obtain ⟨block, found, rfl⟩ := Option.map_eq_some_iff.1 above
        obtain ⟨T', known, shape⟩ : ∃ T', site.palette.get? block.type = some T' ∧
            T'.isChoice "type" = true := by
          rw [palette, show block.type = "enum_variant" from variant]
          exact ⟨_, rfl, rfl⟩
        have o' : (site.moveTo ownerId block).Orderly T' := ⟨o.workspace, found, known⟩
        obtain ⟨breaks, mine⟩ := o'.breaks_of_choice shape failed
        exact .owner breaks (mine.symm ▸ owned)
      · exact .ite (fun _ => .pure _) fun _ => .pure _
      · exact .ite (fun _ => .pure _) fun _ => .pure _
  · exact .pure _

theorem blames_enumVariant (name : T.isText "name") (shape : T.isShape "type")
    (fields : T.takesBody "fields") : site.Blames answer (enumVariant site) := by
  have chain := takesChain_of_takesBody fields
  refine .bind (o.blames_text name) fun _ _ =>
    .bind (o.blames_choice (isChoice_of_isShape shape)) fun _ _ => ?_
  split
  · exact .bind (o.blames_fragments chain) fun _ _ => .pure _
  · exact .bind (o.blames_statements chain) fun _ _ => .pure _
  · exact .pure _

theorem blames_getAccount (account : site.block.type = "get_account") (number : T.isNumber "index")
    (name : T.isText "name") : site.Blames answer (getAccount site) := by
  refine .bind (o.blames_number number) fun index read => .ite (fun wrong => .fail ?_) fun _ =>
    .bind (o.blames_text name) fun _ _ => .pure _
  obtain ⟨field, declared, -, found⟩ := number_eq_ok read
  obtain ⟨field', declared', named, -⟩ := o.fieldDecl number
  cases declared.symm.trans declared'
  have value : (site.block.fields["index"]?).getD field.default = field.valueIn site.block := by
    rw [FieldDecl.valueIn, named]
  rw [value] at found
  obtain ⟨x, held, rfl⟩ := Option.map_eq_some_iff.1 found
  have other : ¬ (BinaryNumber.ofFloat x).IsNatural := by
    rw [BinaryNumber.isNatural_iff]
    rintro ⟨positive, whole⟩
    simp [positive, whole] at wrong
  exact .own (.notAnIndex o.follows account (o.fieldDecl_iff.1 declared) held other) rfl

theorem blames_pdaSeed (seed : site.block.type = "pda_seed") (value : T.isPlainText "value") :
    site.Blames answer (pdaSeed site) := by
  refine .bind (o.blames_text (isText_of_isPlainText value)) fun raw read => ?_
  obtain ⟨field, declared, shown⟩ := text_eq_ok read
  obtain ⟨field', declared', -, kind⟩ := o.fieldDecl value
  cases declared.symm.trans declared'
  obtain ⟨-, plain⟩ : field.kind = .freeText ∧ field.identifier = false := by simpa using kind
  obtain rfl : raw = (field.valueIn site.block).display := by
    rw [plain] at shown
    exact shown
  dsimp only
  split
  · exact .pure _
  · next unclosed =>
      have other : ¬ ClosesQuote (Text.trim (field.valueIn site.block).display).toList := by
        rw [closesQuote_iff, unclosed]
        simp
      exact .fail (.own (.unclosedSeed o.follows seed (o.fieldDecl_iff.1 declared) other) rfl)
  · exact .pure _

theorem blames_binary (left : T.hasDefault "a") (right : T.hasDefault "b") (symbol : String)
    (tier : Tier) (associativity : Associativity) :
    site.Blames answer (binary site symbol tier associativity) :=
  .bind (o.blames_value _ left) fun _ _ => .bind (o.blames_value _ right) fun _ _ => .pure _

theorem blames_mathOperation (operation : T.isChoice "operation") (left : T.hasDefault "a")
    (right : T.hasDefault "b") : site.Blames answer (mathOperation site) := by
  refine .bind (o.blames_choice operation) fun _ _ => ?_
  split <;> exact o.blames_binary left right _ _ _

theorem blames_logicOperation (op : T.isChoice "op") (left : T.hasDefault "a")
    (right : T.hasDefault "b") : site.Blames answer (logicOperation site) := by
  refine .bind (o.blames_choice op) fun _ _ => ?_
  split <;> exact o.blames_binary left right _ _ _

/-- An arm with a body but no condition is a fault of the conditional. -/
theorem blames_conditionalArm (conditional : site.block.type = "controls_if") {arm : Nat}
    (inside : arm < conditionalArms) (first : arm = 0 → T.hasDefault (conditionSlot arm))
    (condition : T.takesExpression (conditionSlot arm)) (body : T.takesBody (bodySlot arm)) :
    site.Blames answer (conditionalArm site arm) := by
  have chain := takesChain_of_takesBody body
  unfold conditionalArm
  by_cases zero : arm = 0
  · simp only [if_pos zero]
    refine .bind (.bind (o.blames_value _ (first zero)) fun _ _ => .pure _) fun content read => ?_
    obtain ⟨code, -, read⟩ := (Rendering.run_bind_eq_ok_iff _).1 read
    cases read
    exact .bind (o.blames_statements chain) fun _ _ => .pure _
  · simp only [if_neg zero]
    refine .bind (o.blames_value? _ condition) fun content read => ?_
    cases content with
    | some code => exact .bind (o.blames_statements chain) fun _ _ => .pure _
    | none =>
        refine .ite (fun bound => .fail (.own ?_ rfl)) fun _ => .pure ""
        have unbound : ¬ site.isBound (conditionSlot arm) = true := by simp [isBound_of_value? read]
        exact .unconditional o.follows conditional (Nat.pos_of_ne_zero zero) inside
          (mem_slots.2 bound) (mt mem_slots.1 unbound)

theorem blames_conditionalArmsFrom (conditional : site.block.type = "controls_if") (arms : List Nat)
    (declared : ∀ arm ∈ arms, arm < conditionalArms ∧
      (arm = 0 → T.hasDefault (conditionSlot arm)) ∧ T.takesExpression (conditionSlot arm) ∧
        T.takesBody (bodySlot arm)) :
    site.Blames answer (conditionalArmsFrom site arms) := by
  induction arms with
  | nil => exact .pure ""
  | cons arm rest ih =>
      obtain ⟨⟨inside, first, condition, body⟩, later⟩ := List.forall_mem_cons.1 declared
      exact .bind (o.blames_conditionalArm conditional inside first condition body) fun _ _ =>
        .bind (ih later) fun _ _ => .pure _

theorem blames_conditional (conditional : site.block.type = "controls_if")
    (declared : ∀ arm ∈ List.range conditionalArms, arm < conditionalArms ∧
      (arm = 0 → T.hasDefault (conditionSlot arm)) ∧ T.takesExpression (conditionSlot arm) ∧
        T.takesBody (bodySlot arm)) (last : T.takesChain "else") :
    site.Blames answer (Renderers.conditional site) :=
  .bind (o.blames_conditionalArmsFrom conditional _ declared) fun _ _ =>
    .ite (fun _ => .bind (o.blames_statements last) fun _ _ => .pure _) fun _ => .pure _

end Orderly

/-! ## All types -/

open Palette.Standard (programTypes accountTypes controlTypes expressionTypes)

variable {site : Site} {T : BlockType} {answer : BlockId → Except EmitError Fragment}
  {renderer : Renderer} (o : site.Orderly T) (named : T.id = site.block.type)
  (rendered : Renderers.standard? T.id = some renderer)

include o rendered

theorem blames_programTypes (palette : site.palette = .standard) (member : T ∈ programTypes) :
    site.Blames answer (renderer site) := by
  unfold programTypes at member
  fin_cases member <;> cases rendered
  · exact .bind (o.blames_text rfl) fun _ _ =>
      .bind (o.blames_flatStatements rfl) fun _ _ => .pure _
  · exact .bind (o.blames_text rfl) fun _ _ => .bind (o.blames_statements rfl) fun _ _ => .pure _
  · exact o.blames_structField palette rfl rfl
  · exact .bind (o.blames_text rfl) fun _ _ => .bind (o.blames_statements rfl) fun _ _ => .pure _
  · exact o.blames_enumVariant rfl rfl rfl
  · exact .bind (o.blames_text rfl) fun _ _ => .bind (o.blames_statements rfl) fun _ _ =>
      .bind (o.blames_statements rfl) fun _ _ => .pure _
  · exact .bind (o.blames_choice rfl) fun _ _ => .pure _

include named

theorem blames_accountTypes (member : T ∈ accountTypes) : site.Blames answer (renderer site) := by
  unfold accountTypes at member
  fin_cases member <;> cases rendered
  · exact .bind (o.blames_value _ rfl) fun _ _ => .pure _
  · exact o.blames_getAccount named.symm rfl rfl
  · exact .bind (o.blames_text rfl) fun _ _ => .bind (o.blames_choice rfl) fun _ _ => .pure _
  · exact .bind (o.blames_text rfl) fun _ _ => .bind (o.blames_text rfl) fun _ _ => .pure _
  · exact .bind (o.blames_text rfl) fun _ _ => .bind (o.blames_text rfl) fun _ _ =>
      .bind (o.blames_value _ rfl) fun _ _ => .pure _
  · exact .bind (o.blames_text rfl) fun _ _ => .bind (o.blames_choice rfl) fun _ _ => .pure _
  · exact .bind (o.blames_text rfl) fun _ _ => .bind (o.blames_fragments rfl) fun _ _ => .pure _
  · exact o.blames_pdaSeed named.symm rfl
  · exact .bind (o.blames_choice rfl) fun _ _ => .bind (o.blames_value _ rfl) fun _ _ =>
      .bind (o.blames_fragments rfl) fun _ _ => .pure _
  · exact .bind (o.blames_text rfl) fun _ _ => .bind (o.blames_fragments rfl) fun _ _ =>
      .ite (fun _ => .pure _) fun _ => .pure _
  · exact .bind (o.blames_text rfl) fun _ _ => .bind (o.blames_fragments rfl) fun _ _ =>
      .bind (o.blames_value _ rfl) fun _ _ => .pure _
  · exact .bind (o.blames_text rfl) fun _ _ => .pure _
  · exact .bind (o.blames_choice rfl) fun _ _ => .pure _

theorem blames_controlTypes (member : T ∈ controlTypes) : site.Blames answer (renderer site) := by
  unfold controlTypes at member
  fin_cases member <;> cases rendered
  · exact o.blames_conditional named.symm (by decide) rfl
  · exact .bind (o.blames_text rfl) fun _ _ => .bind (o.blames_value _ rfl) fun _ _ =>
      .bind (o.blames_value _ rfl) fun _ _ => .bind (o.blames_value _ rfl) fun _ _ =>
        .bind (o.blames_statements rfl) fun _ _ => .pure _
  · exact .bind (o.blames_value _ rfl) fun _ _ =>
      .bind (o.blames_statements rfl) fun _ _ => .pure _

omit named

theorem blames_expressionTypes (member : T ∈ expressionTypes) :
    site.Blames answer (renderer site) := by
  unfold expressionTypes at member
  fin_cases member <;> cases rendered
  · exact o.blames_mathOperation rfl rfl rfl
  · exact .bind (o.blames_number rfl) fun _ _ => .pure _
  · exact .bind (o.blames_choice rfl) fun _ _ => o.blames_binary rfl rfl _ _ _
  · exact o.blames_logicOperation rfl rfl rfl
  · exact .bind (o.blames_value _ rfl) fun _ _ => .pure _
  · exact .bind (o.blames_choice rfl) fun _ _ => .pure _
  · exact .bind (o.blames_text rfl) fun _ _ => .pure _
  · exact .bind (o.blames_text rfl) fun _ _ => .pure _

omit rendered in
/-- All errors that the rendering of a block of a standard type ends with can be traced. -/
theorem blames_standard (palette : site.palette = .standard)
    (rendered : Renderers.standard? site.block.type = some renderer) :
    site.Blames answer (renderer site) := by
  have known := o.known
  rw [palette] at known
  obtain ⟨member, named⟩ := standard_mem known
  rw [← named] at rendered
  rcases List.mem_append.1 member with member | member
  · rcases List.mem_append.1 member with member | member
    · rcases List.mem_append.1 member with member | member
      · exact blames_programTypes o rendered palette member
      · exact blames_accountTypes o named rendered member
    · exact blames_controlTypes o named rendered member
  · exact blames_expressionTypes o rendered member

end Site

/-! ## Emission -/

namespace Emitter

variable {w : Workspace} {width : Nat} {failure : EmitError}

/-- The renderers of a block with no owner, of what is in its slots and so on end with errors that are
true of the blocks they name, and these blocks are below the first one. -/
theorem breaks_of_emitWithin (order : w.Orderly .standard) {top : BlockId}
    (lone : w.owner? top = none) {open_ : List BlockId} {id : BlockId} (below : w.Below id top)
    (alive : w.contains id = true) (apart : ∀ other ∈ open_, ¬ w.Below other id)
    (failed : (standard width).emitWithin w open_ id = .error failure) :
    w.Breaks failure ∧ w.Below failure.block top := by
  induction open_ using w.unseen_induction generalizing id with
  | step open_ ih =>
      obtain ⟨members, laid⟩ := order.laid
      obtain ⟨block, found⟩ := Workspace.contains_iff.1 alive
      have closed : id ∉ open_ := fun member => apart id member Workspace.Below.refl
      obtain ⟨T, typed⟩ := order.typed.known id alive
      have known : Palette.standard.get? block.type = some T := by
        rwa [Workspace.typeAt?, Workspace.typeName?, found, Option.map_some, Option.bind_some,
          order.palette] at typed
      obtain ⟨member, named⟩ := standard_mem known
      obtain ⟨renderer, rendered⟩ := exists_renderer member
      rw [named] at rendered
      rw [emitWithin_eq] at failed
      simp only [found, if_neg closed, show (standard width).palette = .standard from rfl, known,
        show (standard width).renderer? block.type = some renderer from rendered] at failed
      split at failed
      · let site : Site := ⟨w, .standard, (standard width).unit, id, block⟩
        have o : site.Orderly T := ⟨order, found, known⟩
        cases Site.blames_standard o rfl rendered failure (except_map_eq_error_iff.1 failed) with
        | own breaks mine => exact ⟨breaks, mine ▸ below⟩
        | owner breaks above =>
            have other : id ≠ top := by
              rintro rfl
              cases lone.symm.trans above
            exact ⟨breaks, below.to_owner other above⟩
        | heard owned answered =>
            obtain ⟨slot, sits⟩ := Workspace.ownedBy_iff.1 owned
            refine ih found closed (below.head owned) (Workspace.contains_of_seat? sits) ?_ answered
            intro other member under
            rcases List.mem_cons.1 member with rfl | member
            · exact laid.not_below_owner owned under
            · exact apart other member (under.tail owned)
      · next elsewhere =>
          cases failed
          have follows : w.Follows id block T := ⟨found, order.palette ▸ known⟩
          exact ⟨.misplaced follows (mt Workspace.isPlaced_iff.2 elsewhere), below⟩

/-- Errors point at what is wrong. If a workspace has no code, the error says something true about a
field, a slot or the place of the block it names; this block exists and lies in the tree of the first
root that fails. -/
theorem emitDocument_breaks (w : Workspace) (width : Nat) (run : Workspace.Reached .standard w)
    (failure : EmitError) (failed : (standard width).emitDocument w = .error failure) :
    w.Breaks failure ∧ w.contains failure.block = true ∧
      ∃ before root after, w.roots = before ++ root :: after ∧
        (∀ earlier ∈ before, ∃ code, (standard width).emitRoot w earlier = .ok code) ∧
        (standard width).emitRoot w root = .error failure ∧ w.Below failure.block root := by
  have order := run.orderly
  obtain ⟨members, laid⟩ := order.laid
  obtain ⟨before, root, after, split, earlier, here⟩ := (emitDocument_eq_error_iff _ w).1 failed
  obtain ⟨alive, free, -⟩ := (laid.mem_roots root).1 (by simp [split])
  have lone : w.owner? root = none := by rw [Workspace.owner?, free, Option.map_none]
  obtain ⟨breaks, below⟩ := breaks_of_emitWithin order lone .refl alive
    (fun _ none => absurd none List.not_mem_nil) (except_map_eq_error_iff.1 here)
  exact ⟨breaks, breaks.contains, before, root, after, split, earlier, here, below⟩

/-- A handler behind a program that is in order: its conditional has a second arm without a
condition. -/
theorem emitDocument_breaks_arm :
    let edits : List Edit := [
      .create (some ⟨"p"⟩) "solana_program" [],
      .create (some ⟨"h"⟩) "process_instruction" [],
      .create (some ⟨"c"⟩) "controls_if" [],
      .create (some ⟨"r"⟩) "program_error" [],
      .bind ⟨"h"⟩ "body" (.chain [⟨"c"⟩]),
      .bind ⟨"c"⟩ "do1" (.chain [⟨"r"⟩])]
    let w : Workspace := edits.foldl (fun w edit => (w.apply edit).1) { palette := .standard }
    let failure : EmitError := .missingSlot ⟨"c"⟩ "if1"
    Workspace.Reached .standard w ∧ (standard 4).emitDocument w = .error failure ∧
      w.Breaks failure ∧ w.contains ⟨"c"⟩ = true ∧
      ∃ before root after, w.roots = before ++ root :: after ∧
        (∀ earlier ∈ before, ∃ code, (standard 4).emitRoot w earlier = .ok code) ∧
        (standard 4).emitRoot w root = .error failure ∧ w.Below ⟨"c"⟩ root := by
  intro edits w failure
  have run : Workspace.Reached .standard w := by
    refine .edit _ (.edit _ (.edit _ (.edit _ (.edit _ (.edit _ .empty ?_) ?_) ?_) ?_) ?_) ?_ <;>
      exact id
  have failed : (standard 4).emitDocument w = .error failure := by decide +kernel
  exact ⟨run, failed, emitDocument_breaks w 4 run failure failed⟩

end Emitter

end SolanaBlocks
