import SolanaBlocks.Proofs.Emission.Nesting
import SolanaBlocks.Proofs.Forest.Elsewhere
import SolanaBlocks.Proofs.Forest.Kinds

/-!
# Renamed sites

What a renderer writes is the same wherever a block stands and whatever the ids are. To say so, ids
are translated by a function `f`, and two workspaces are compared on the blocks with `S`: there each
block of the one is the translation of a block of the other. A renderer that works at a block and at
its translation asks for blocks and their translations, and as long as it hears the same about them,
with translated errors, it comes to the same end.
-/

namespace SolanaBlocks

open Palette.Standard (conditionalArms conditionSlot bodySlot)

/-! ## Translations -/

/-- What a slot holds, under other ids. -/
def SlotContent.rename (f : BlockId → BlockId) : SlotContent → SlotContent
  | single child => single (f child)
  | chain head => chain (f head)

/-- A seat, with its owner under another id. -/
def Seat.rename (f : BlockId → BlockId) (seat : Seat) : Seat :=
  ⟨f seat.owner, seat.slot⟩

/-- A block that refers to others under other ids. -/
def Block.rename (f : BlockId → BlockId) (block : Block) : Block where
  type := block.type
  fields := block.fields
  slots := block.slots.map fun _ content => content.rename f
  next := block.next.map f
  seat := block.seat.map (Seat.rename f)

theorem Block.getElem?_slots_rename (f : BlockId → BlockId) (block : Block) (slot : String) :
    (block.rename f).slots[slot]? = (block.slots[slot]?).map (SlotContent.rename f) :=
  Std.ExtTreeMap.getElem?_map

/-- An error that names its blocks by other ids. -/
def EmitError.rename (f : BlockId → BlockId) : EmitError → EmitError
  | unknownType block type => unknownType (f block) type
  | noRenderer block type => noRenderer (f block) type
  | missingField block field => missingField (f block) field
  | missingSlot block slot => missingSlot (f block) slot
  | invalidField block field value fault => invalidField (f block) field value fault
  | misplaced block type fault => misplaced (f block) type fault
  | wrongContent block slot child fault => wrongContent (f block) slot (f child) fault
  | cyclic block => cyclic (f block)
  | dangling block => dangling (f block)

/-- An outcome whose error names its blocks by other ids. -/
def renameOutcome {α : Type} (f : BlockId → BlockId) (outcome : Except EmitError α) :
    Except EmitError α :=
  outcome.mapError (EmitError.rename f)

variable {f : BlockId → BlockId} {S : BlockId → Prop}

@[simp] theorem renameOutcome_ok {α : Type} (a : α) :
    renameOutcome f (.ok a : Except EmitError α) = .ok a := rfl

@[simp] theorem renameOutcome_error {α : Type} (e : EmitError) :
    renameOutcome f (.error e : Except EmitError α) = .error (e.rename f) := rfl

theorem renameOutcome_bind {α β : Type} {x x' : Except EmitError α} {g g' : α → Except EmitError β}
    (same : x' = renameOutcome f x) (next : ∀ a, g' a = renameOutcome f (g a)) :
    (x' >>= g') = renameOutcome f (x >>= g) := by
  subst same
  cases x with
  | error e => rfl
  | ok a => exact next a

theorem renameOutcome_ite {α : Type} {c : Prop} [Decidable c] {x x' y y' : Except EmitError α}
    (then_ : x' = renameOutcome f x) (else_ : y' = renameOutcome f y) :
    (if c then x' else y') = renameOutcome f (if c then x else y) := by
  split
  · exact then_
  · exact else_

/-- Where `S` holds, the blocks of `w'` are those of `w` under other ids. Blocks with `S` refer only
to blocks with `S`. -/
structure Workspace.Renamed (f : BlockId → BlockId) (S : BlockId → Prop) (w w' : Workspace) :
    Prop where
  apart : ∀ a b, S a → S b → f a = f b → a = b
  block : ∀ id, S id → w'.get? (f id) = (w.get? id).map (Block.rename f)
  closed : w.SelfContained S

namespace Workspace.Renamed

variable {w w' : Workspace} {id : BlockId} (h : w.Renamed f S w')

include h

theorem seat?_eq (inside : S id) : w'.seat? (f id) = (w.seat? id).map (Seat.rename f) := by
  rw [seat?, seat?, h.block id inside]
  cases w.get? id <;> rfl

theorem owner?_eq (inside : S id) : w'.owner? (f id) = (w.owner? id).map f := by
  rw [owner?, owner?, h.seat?_eq inside, Option.map_map, Option.map_map]
  rfl

end Workspace.Renamed

/-! ## Renderings -/

namespace Rendering

variable {α β : Type}

/-- Two renderings that do the same, where one names the blocks by other ids. It asks for blocks with
`S` only. -/
inductive Renames (f : BlockId → BlockId) (S : BlockId → Prop) {α : Type} :
    Rendering α → Rendering α → Prop
  | done (outcome : Except EmitError α) : Renames f S (.done outcome) (.done (renameOutcome f outcome))
  | request {block : BlockId} {resume resume' : Except EmitError Fragment → Rendering α} :
    S block → (∀ answer, Renames f S (resume answer) (resume' (renameOutcome f answer))) →
    Renames f S (.request block resume) (.request (f block) resume')

namespace Renames

variable {r r' : Rendering α} {g g' : α → Rendering β}

theorem pure (a : α) : Renames f S (Pure.pure a) (Pure.pure a) :=
  .done (.ok a)

theorem fail (e : EmitError) : Renames f S (.fail e : Rendering α) (.fail (e.rename f)) :=
  .done (.error e)

theorem bind (first : Renames f S r r') (next : ∀ a, Renames f S (g a) (g' a)) :
    Renames f S (r >>= g) (r' >>= g') := by
  change Renames f S (r.bind g) (r'.bind g')
  induction first with
  | done outcome =>
      cases outcome with
      | ok a => exact next a
      | error e => exact .done (.error e)
  | request inside _ ih => exact .request inside ih

/-- What is read without asking may differ in the ids of an error. -/
theorem read {outcome outcome' : Except EmitError α} (same : outcome' = renameOutcome f outcome)
    (next : ∀ a, Renames f S (g a) (g' a)) :
    Renames f S (.ofExcept outcome >>= g) (.ofExcept outcome' >>= g') :=
  same ▸ bind (.done outcome) next

/-- A case distinction that comes out the same. -/
theorem ite {c : Prop} [Decidable c] {t t' : Rendering α} (then_ : Renames f S r r')
    (else_ : Renames f S t t') : Renames f S (if c then r else t) (if c then r' else t') := by
  split
  · exact then_
  · exact else_

theorem fragment {block : BlockId} (inside : S block) :
    Renames f S (.fragment block) (.fragment (f block)) :=
  .request inside .done

/-- With translated answers a rendering comes to a translated end. -/
theorem run {answer answer' : BlockId → Except EmitError Fragment} (same : Renames f S r r')
    (answers : ∀ block, S block → answer' (f block) = renameOutcome f (answer block)) :
    r'.run answer' = renameOutcome f (r.run answer) := by
  induction same with
  | done outcome => rfl
  | request inside _ ih =>
      rw [run_request, run_request, answers _ inside]
      exact ih _

end Renames

end Rendering

/-! ## Sites -/

namespace Site

/-- The same block in another workspace and under other ids. -/
def renamed (f : BlockId → BlockId) (w' : Workspace) (site : Site) : Site where
  workspace := w'
  palette := site.palette
  unit := site.unit
  id := f site.id
  block := site.block.rename f

/-- The site is at a block with `S`, and the other workspace is a translation there. -/
structure Mirrored (f : BlockId → BlockId) (S : BlockId → Prop) (w' : Workspace) (site : Site) :
    Prop where
  workspace : site.workspace.Renamed f S w'
  inside : S site.id
  found : site.workspace.get? site.id = some site.block

variable {w' : Workspace} (site : Site)

/-! ### Fields -/

theorem type_renamed : (site.renamed f w').type = renameOutcome f site.type := by
  unfold type
  dsimp only [renamed, Block.rename]
  cases site.palette.get? site.block.type <;> rfl

theorem fieldDecl_renamed (name : String) :
    (site.renamed f w').fieldDecl name = renameOutcome f (site.fieldDecl name) :=
  renameOutcome_bind site.type_renamed fun type => by cases type.field? name <;> rfl

theorem text_renamed (name : String) :
    (site.renamed f w').text name = renameOutcome f (site.text name) :=
  renameOutcome_bind (site.fieldDecl_renamed name) fun _ =>
    renameOutcome_ite rfl (renameOutcome_ite (renameOutcome_ite rfl rfl) rfl)

theorem choice_renamed (name : String) :
    (site.renamed f w').choice name = renameOutcome f (site.choice name) := by
  refine renameOutcome_bind (site.fieldDecl_renamed name) fun field => ?_
  cases field.options? with
  | none => rfl
  | some options => exact renameOutcome_ite rfl (renameOutcome_ite rfl rfl)

theorem number_renamed (name : String) :
    (site.renamed f w').number name = renameOutcome f (site.number name) := by
  refine renameOutcome_bind (site.fieldDecl_renamed name) fun field => ?_
  have value : (site.renamed f w').block.fields[name]? = site.block.fields[name]? := rfl
  simp only [value]
  split <;> rfl

theorem slotDecl_renamed (slot : String) :
    (site.renamed f w').slotDecl slot = renameOutcome f (site.slotDecl slot) :=
  renameOutcome_bind site.type_renamed fun type => by cases type.slot? slot <;> rfl

/-! ### Slots -/

theorem getElem?_slots_renamed (slot : String) :
    (site.renamed f w').block.slots[slot]? =
      (site.block.slots[slot]?).map (SlotContent.rename f) :=
  site.block.getElem?_slots_rename f slot

theorem isBound_renamed (slot : String) : (site.renamed f w').isBound slot = site.isBound slot := by
  rw [isBound, getElem?_slots_renamed, Option.isSome_map]
  rfl

namespace Mirrored

open Rendering (Renames)

variable {site : Site}

theorem type_moveTo (id : BlockId) (block : Block) :
    ((site.renamed f w').moveTo (f id) (block.rename f)).type =
      renameOutcome f (site.moveTo id block).type :=
  (site.moveTo id block).type_renamed

variable (m : site.Mirrored f S w')

include m

theorem named {slot : String} {content : SlotContent}
    (held : site.block.slots[slot]? = some content) : S content.named :=
  (m.workspace.closed site.id site.block m.inside m.found).slot slot content held

theorem get?_renamed {id : BlockId} (inside : S id) :
    (site.renamed f w').workspace.get? (f id) = (site.workspace.get? id).map (Block.rename f) :=
  m.workspace.block id inside

theorem value? (slot : String) (tier : Tier) :
    Renames f S (site.value? slot tier) ((site.renamed f w').value? slot tier) := by
  refine .read (site.slotDecl_renamed slot) fun declaration => ?_
  rw [getElem?_slots_renamed]
  cases held : site.block.slots[slot]? with
  | none => exact .ite (.fail _) (.pure none)
  | some content =>
      have inside := m.named held
      cases content with
      | chain head => exact .fail _
      | single child =>
          have known : (site.renamed f w').workspace.get? (f child) = _ := m.get?_renamed inside
          simp only [Option.map_some, SlotContent.rename]
          unfold resolve
          rw [known]
          cases site.workspace.get? child with
          | none => exact .fail _
          | some block =>
              simp only [Option.map_some]
              rw [type_moveTo child block]
              cases (site.moveTo child block).type with
              | error e => exact .fail _
              | ok type => exact .ite (.bind (.fragment inside) fun _ => .pure _) (.fail _)

theorem value (slot : String) (tier : Tier) :
    Renames f S (site.value slot tier) ((site.renamed f w').value slot tier) := by
  refine .bind (m.value? slot tier) fun content => ?_
  cases content with
  | some code => exact .pure code
  | none =>
      refine .read (site.slotDecl_renamed slot) fun declaration => ?_
      cases declaration.defaultCode with
      | some code => exact .pure code
      | none => exact .fail _

/-- One member of a chain, and then the rest. -/
theorem fragmentsFrom_step (slot : String) {seen : List BlockId} {id : BlockId} (inside : S id)
    (passed : ∀ other ∈ seen, S other) (new : id ∉ seen)
    (later : ∀ next, site.workspace.next? id = some next →
      Renames f S (site.fragmentsFrom slot (id :: seen) next)
        ((site.renamed f w').fragmentsFrom slot (f id :: seen.map f) (f next))) :
    Renames f S (site.fragmentsFrom slot seen id)
      ((site.renamed f w').fragmentsFrom slot (seen.map f) (f id)) := by
  have new' : f id ∉ seen.map f := by
    rintro again
    obtain ⟨other, ho, same⟩ := List.mem_map.1 again
    exact new (m.workspace.apart other id (passed other ho) inside same ▸ ho)
  rw [fragmentsFrom_eq, fragmentsFrom_eq, if_neg new, if_neg new', m.get?_renamed inside]
  cases found : site.workspace.get? id with
  | none => exact .fail _
  | some member =>
      refine .read (type_moveTo id member) fun type => .ite (.fail _) <|
        .bind (.fragment inside) fun fragment => ?_
      rw [Workspace.next?, found, Option.bind_some] at later
      cases link : member.next with
      | none =>
          have link' : (member.rename f).next = none := by rw [Block.rename, link, Option.map_none]
          rw [link']
          exact .pure _
      | some next =>
          have link' : (member.rename f).next = some (f next) := by
            rw [Block.rename, link, Option.map_some]
          rw [link']
          exact .bind (later next link) fun _ => .pure _

theorem fragmentsFrom (slot : String) (seen : List BlockId) (id : BlockId) (inside : S id)
    (passed : ∀ other ∈ seen, S other) :
    Renames f S (site.fragmentsFrom slot seen id)
      ((site.renamed f w').fragmentsFrom slot (seen.map f) (f id)) := by
  induction seen, id using Workspace.walk_induction site.workspace with
  | again seen id again =>
      rw [fragmentsFrom_eq, fragmentsFrom_eq, if_pos again, if_pos (List.mem_map_of_mem again)]
      exact .fail _
  | last seen id new none =>
      refine m.fragmentsFrom_step slot inside passed new fun next link => ?_
      rw [none] at link
      cases link
  | step seen id next new link ih =>
      refine m.fragmentsFrom_step slot inside passed new fun next' link' => ?_
      cases link.symm.trans link'
      exact ih (m.workspace.closed.next inside link) (List.forall_mem_cons.2 ⟨inside, passed⟩)

theorem fragments (slot : String) :
    Renames f S (site.fragments slot) ((site.renamed f w').fragments slot) := by
  refine .read (site.slotDecl_renamed slot) fun declaration => ?_
  rw [getElem?_slots_renamed]
  cases held : site.block.slots[slot]? with
  | none => exact .ite (.fail _) (.pure [])
  | some content =>
      have inside := m.named held
      cases content with
      | single child => exact .fail _
      | chain head => exact m.fragmentsFrom slot [] head inside (by simp)

theorem flatStatements (slot : String) :
    Renames f S (site.flatStatements slot) ((site.renamed f w').flatStatements slot) :=
  .bind (m.fragments slot) fun _ => .pure _

theorem statements (slot : String) :
    Renames f S (site.statements slot) ((site.renamed f w').statements slot) :=
  .bind (m.flatStatements slot) fun _ => .pure _

theorem owner?_renamed : (site.renamed f w').owner? = site.owner?.map (renamed f w') := by
  unfold owner?
  have above : (site.renamed f w').workspace.owner? (site.renamed f w').id =
      (site.workspace.owner? site.id).map f := m.workspace.owner?_eq m.inside
  rw [above]
  cases owned : site.workspace.owner? site.id with
  | none => rfl
  | some owner =>
      simp only [Option.map_some, Option.bind_some]
      rw [m.get?_renamed (m.workspace.closed.owner m.inside owned)]
      cases site.workspace.get? owner <;> rfl

/-- The owner is at a translated site as well. -/
theorem owner {owner : Site} (above : site.owner? = some owner) : owner.Mirrored f S w' := by
  obtain ⟨id, owned, there⟩ := Option.bind_eq_some_iff.1 above
  obtain ⟨block, found, rfl⟩ := Option.map_eq_some_iff.1 there
  exact ⟨m.workspace, m.workspace.closed.owner m.inside owned, found⟩

end Mirrored

/-! ## Blocks without slots -/

open Renderers
open Rendering (Renames)

variable {site : Site} (m : site.Mirrored f S w')

include m in
/-- A field also reads its owner, and the kind of variant that this is. -/
theorem renames_structField : Renames f S (structField site) (structField (site.renamed f w')) := by
  refine .read (site.text_renamed _) fun name => .read (site.choice_renamed _) fun type => ?_
  rw [m.owner?_renamed]
  cases above : site.owner? with
  | none => exact .pure _
  | some owner =>
      exact .ite (.read (owner.choice_renamed _) fun shape => .ite (.pure _) (.pure _))
        (.ite (.pure _) (.pure _))

theorem renames_parameter : Renames f S (parameter site) (parameter (site.renamed f w')) :=
  .read (site.choice_renamed _) fun _ => .pure _

theorem renames_getAccount : Renames f S (getAccount site) (getAccount (site.renamed f w')) :=
  .read (site.number_renamed _) fun _ =>
    .ite (.fail _) (.read (site.text_renamed _) fun _ => .pure _)

theorem renames_checkOwner : Renames f S (checkOwner site) (checkOwner (site.renamed f w')) :=
  .read (site.text_renamed _) fun _ => .read (site.choice_renamed _) fun _ => .pure _

theorem renames_deserializeAccount :
    Renames f S (deserializeAccount site) (deserializeAccount (site.renamed f w')) :=
  .read (site.text_renamed _) fun _ => .read (site.text_renamed _) fun _ => .pure _

theorem renames_accountConstraint :
    Renames f S (accountConstraint site) (accountConstraint (site.renamed f w')) := by
  refine .read (site.text_renamed _) fun account => .read (site.choice_renamed _) fun kind => ?_
  split
  exact .pure _

theorem renames_pdaSeed : Renames f S (pdaSeed site) (pdaSeed (site.renamed f w')) := by
  refine .read (site.text_renamed _) fun raw => ?_
  dsimp only
  cases SeedForm.of (Text.trim raw).toList with
  | quoted content => exact .pure _
  | unclosed => exact .fail _
  | binding => exact .pure _

theorem renames_accountRef : Renames f S (accountRef site) (accountRef (site.renamed f w')) :=
  .read (site.text_renamed _) fun _ => .pure _

theorem renames_programError : Renames f S (programError site) (programError (site.renamed f w')) :=
  .read (site.choice_renamed _) fun _ => .pure _

theorem renames_numberLiteral :
    Renames f S (numberLiteral site) (numberLiteral (site.renamed f w')) :=
  .read (site.number_renamed _) fun _ => .pure _

theorem renames_truthValue : Renames f S (truthValue site) (truthValue (site.renamed f w')) :=
  .read (site.choice_renamed _) fun _ => .pure _

theorem renames_textLiteral : Renames f S (textLiteral site) (textLiteral (site.renamed f w')) :=
  .read (site.text_renamed _) fun _ => .pure _

theorem renames_variableName : Renames f S (variableName site) (variableName (site.renamed f w')) :=
  .read (site.text_renamed _) fun _ => .pure _

/-! ## Blocks with slots -/

include m

theorem renames_program : Renames f S (program site) (program (site.renamed f w')) :=
  .read (site.text_renamed _) fun _ => .bind (m.flatStatements _) fun _ => .pure _

theorem renames_struct : Renames f S (struct site) (struct (site.renamed f w')) :=
  .read (site.text_renamed _) fun _ => .bind (m.statements _) fun _ => .pure _

theorem renames_enum : Renames f S (enum site) (enum (site.renamed f w')) :=
  .read (site.text_renamed _) fun _ => .bind (m.statements _) fun _ => .pure _

theorem renames_enumVariant : Renames f S (enumVariant site) (enumVariant (site.renamed f w')) := by
  refine .read (site.text_renamed _) fun name => .read (site.choice_renamed _) fun shape => ?_
  split
  · exact .bind (m.fragments _) fun _ => .pure _
  · exact .bind (m.statements _) fun _ => .pure _
  · exact .pure _

theorem renames_handler : Renames f S (handler site) (handler (site.renamed f w')) :=
  .read (site.text_renamed _) fun _ => .bind (m.statements _) fun _ =>
    .bind (m.statements _) fun _ => .pure _

theorem renames_validateAccounts :
    Renames f S (validateAccounts site) (validateAccounts (site.renamed f w')) :=
  .bind (m.value _ _) fun _ => .pure _

theorem renames_initAccount : Renames f S (initAccount site) (initAccount (site.renamed f w')) :=
  .read (site.text_renamed _) fun _ => .read (site.text_renamed _) fun _ =>
    .bind (m.value _ _) fun _ => .pure _

theorem renames_createPda : Renames f S (createPda site) (createPda (site.renamed f w')) :=
  .read (site.text_renamed _) fun _ => .bind (m.fragments _) fun _ => .pure _

theorem renames_tokenOperation :
    Renames f S (tokenOperation site) (tokenOperation (site.renamed f w')) :=
  .read (site.choice_renamed _) fun _ => .bind (m.value _ _) fun _ =>
    .bind (m.fragments _) fun _ => .pure _

theorem renames_emitEvent : Renames f S (emitEvent site) (emitEvent (site.renamed f w')) :=
  .read (site.text_renamed _) fun _ => .bind (m.fragments _) fun _ => .ite (.pure _) (.pure _)

theorem renames_callProgram : Renames f S (callProgram site) (callProgram (site.renamed f w')) :=
  .read (site.text_renamed _) fun _ => .bind (m.fragments _) fun _ =>
    .bind (m.value _ _) fun _ => .pure _

theorem renames_countedLoop : Renames f S (countedLoop site) (countedLoop (site.renamed f w')) :=
  .read (site.text_renamed _) fun _ => .bind (m.value _ _) fun _ => .bind (m.value _ _) fun _ =>
    .bind (m.value _ _) fun _ => .bind (m.statements _) fun _ => .pure _

theorem renames_whileLoop : Renames f S (whileLoop site) (whileLoop (site.renamed f w')) :=
  .bind (m.value _ _) fun _ => .bind (m.statements _) fun _ => .pure _

theorem renames_binary (symbol : String) (tier : Tier) (associativity : Associativity) :
    Renames f S (binary site symbol tier associativity)
      (binary (site.renamed f w') symbol tier associativity) :=
  .bind (m.value _ _) fun _ => .bind (m.value _ _) fun _ => .pure _

theorem renames_mathOperation :
    Renames f S (mathOperation site) (mathOperation (site.renamed f w')) := by
  refine .read (site.choice_renamed _) fun operation => ?_
  split <;> exact renames_binary m _ _ _

theorem renames_comparison : Renames f S (comparison site) (comparison (site.renamed f w')) :=
  .read (site.choice_renamed _) fun _ => renames_binary m _ _ _

theorem renames_logicOperation :
    Renames f S (logicOperation site) (logicOperation (site.renamed f w')) := by
  refine .read (site.choice_renamed _) fun operation => ?_
  split <;> exact renames_binary m _ _ _

theorem renames_negation : Renames f S (negation site) (negation (site.renamed f w')) :=
  .bind (m.value _ _) fun _ => .pure _

theorem renames_conditionalArm (arm : Nat) :
    Renames f S (conditionalArm site arm) (conditionalArm (site.renamed f w') arm) := by
  unfold conditionalArm
  refine .ite (.bind (.bind (m.value _ _) fun _ => .pure _) fun content => ?_)
    (.bind (m.value? _ _) fun content => ?_)
  -- how the condition was read makes no difference to what is done with it
  all_goals
    rw [site.isBound_renamed]
    cases content with
    | none => exact .ite (.fail _) (.pure _)
    | some condition => exact .bind (m.statements _) fun body => .ite (.pure _) (.pure _)

theorem renames_conditionalArmsFrom (arms : List Nat) :
    Renames f S (conditionalArmsFrom site arms) (conditionalArmsFrom (site.renamed f w') arms) := by
  induction arms with
  | nil => exact .pure ""
  | cons arm rest ih =>
      exact .bind (renames_conditionalArm m arm) fun _ => .bind ih fun _ => .pure _

theorem renames_conditional : Renames f S (conditional site) (conditional (site.renamed f w')) := by
  refine .bind (renames_conditionalArmsFrom m _) fun arms => ?_
  rw [site.isBound_renamed]
  exact .ite (.bind (m.statements _) fun _ => .pure _) (.pure _)

/-! ## All types -/

/-- Whatever the type of a block, its renderer does the same at a translated site. -/
theorem renames_standard {type : String} {renderer : Renderer}
    (rendered : Renderers.standard? type = some renderer) :
    Renames f S (renderer site) (renderer (site.renamed f w')) := by
  unfold Renderers.standard? at rendered
  split at rendered <;> cases rendered
  · exact renames_program m
  · exact renames_struct m
  · exact renames_structField m
  · exact renames_enum m
  · exact renames_enumVariant m
  · exact renames_handler m
  · exact renames_parameter
  · exact renames_validateAccounts m
  · exact renames_getAccount
  · exact renames_checkOwner
  · exact renames_deserializeAccount
  · exact renames_initAccount m
  · exact renames_accountConstraint
  · exact renames_createPda m
  · exact renames_pdaSeed
  · exact renames_tokenOperation m
  · exact renames_emitEvent m
  · exact renames_callProgram m
  · exact renames_accountRef
  · exact renames_programError
  · exact renames_conditional m
  · exact renames_countedLoop m
  · exact renames_whileLoop m
  · exact renames_mathOperation m
  · exact renames_numberLiteral
  · exact renames_comparison m
  · exact renames_logicOperation m
  · exact renames_negation m
  · exact renames_truthValue
  · exact renames_textLiteral
  · exact renames_variableName

end Site

end SolanaBlocks
