import SolanaBlocks.Proofs.Emission.Nesting
import SolanaBlocks.Proofs.Emission.Acceptance

/-!
# What a rendering asks for

A rendering that succeeds has asked for what its slots hold, slot by slot in the order in which its
type declares them, and chains in chain order. The one exception is a variant without data, which
asks for nothing. So in an orderly workspace a rendering leaves out no child, asks for none twice, and
for nothing that is not a child.
-/

namespace SolanaBlocks

open Palette.Standard (conditionalArms conditionSlot bodySlot)

namespace Site

/-- The blocks in a slot, as a walk meets them. -/
def slotMembers (site : Site) (slot : String) : List BlockId :=
  match site.block.slots[slot]? with
  | none => []
  | some content => site.workspace.contentMembers content

/-- If the rendering succeeds, it has asked for what these slots hold, one slot after the other. -/
def Visits {α : Type} (site : Site) (answer : BlockId → Except EmitError Fragment)
    (slots : List String) (r : Rendering α) : Prop :=
  ∀ a, r.run answer = .ok a → r.asked answer = slots.flatMap site.slotMembers

variable {site : Site} {answer : BlockId → Except EmitError Fragment}

theorem slotMembers_of_unbound {slot : String} (unbound : site.isBound slot = false) :
    site.slotMembers slot = [] := by
  have empty : site.block.slots[slot]? = none :=
    Option.isNone_iff_eq_none.1 (Option.isSome_eq_false_iff.1 unbound)
  rw [slotMembers, empty]

namespace Visits

variable {α β : Type} {name : String} {slots slots' : List String} {r : Rendering α}
  {f : α → Rendering β}

theorem done (outcome : Except EmitError α) : site.Visits answer [] (.done outcome) :=
  fun _ _ => rfl

theorem pure (a : α) : site.Visits answer [] (Pure.pure a) :=
  done (.ok a)

theorem fail (e : EmitError) : site.Visits answer slots (.fail e : Rendering α) := by
  intro a ran
  cases ran

/-- A slot that holds nothing may be passed over. -/
theorem skip (unbound : site.isBound name = false) (rest : site.Visits answer slots r) :
    site.Visits answer (name :: slots) r := by
  intro a ran
  rw [List.flatMap_cons, slotMembers_of_unbound unbound, List.nil_append]
  exact rest a ran

theorem append (first : site.Visits answer slots r)
    (next : ∀ a, r.run answer = .ok a → site.Visits answer slots' (f a)) :
    site.Visits answer (slots ++ slots') (r >>= f) := by
  intro b ran
  obtain ⟨a, here, later⟩ := (Rendering.run_bind_eq_ok_iff _).1 ran
  rw [Rendering.asked_bind, here, List.flatMap_append, first a here]
  exact congrArg _ (next a here b later)

/-- Reading a field asks for nothing. -/
theorem read {outcome : Except EmitError α}
    (next : ∀ a, outcome = .ok a → site.Visits answer slots (f a)) :
    site.Visits answer slots (.ofExcept outcome >>= f) :=
  append (done outcome : site.Visits answer [] (.ofExcept outcome)) next

/-- One slot and then others. -/
theorem slot (first : site.Visits answer [name] r)
    (next : ∀ a, r.run answer = .ok a → site.Visits answer slots (f a)) :
    site.Visits answer (name :: slots) (r >>= f) :=
  append first next

end Visits

/-! ## Slots -/

theorem visits_value? (slot : String) (tier : Tier) :
    site.Visits answer [slot] (site.value? slot tier) := by
  refine .read fun declaration _ => ?_
  cases held : site.block.slots[slot]? with
  | none =>
      dsimp only
      split
      · exact .fail _
      · exact .skip (by simp [isBound, held]) (.pure none)
  | some content =>
      cases content with
      | chain head => exact .fail _
      | single child =>
          refine .read fun resolved _ => ?_
          obtain ⟨block, type⟩ := resolved
          dsimp only
          split
          · refine .slot (fun fragment _ => ?_) fun _ _ => .pure _
            simp [slotMembers, held, Workspace.contentMembers]
          · exact .fail _

theorem visits_value (slot : String) (tier : Tier) :
    site.Visits answer [slot] (site.value slot tier) := by
  refine .slot (visits_value? slot tier) fun content _ => ?_
  cases content with
  | some code => exact .pure code
  | none =>
      refine .read fun declaration _ => ?_
      cases declaration.defaultCode with
      | some code => exact .pure code
      | none => exact .fail _

/-- A loop over a chain that succeeds has asked for the block it came to, and has gone on from the next
one if there is one. -/
theorem fragmentsFrom_ok_cases {slot : String} {seen : List BlockId} {id : BlockId}
    (new : id ∉ seen) {codes : List String}
    (ran : (site.fragmentsFrom slot seen id).run answer = .ok codes) :
    let asked := (site.fragmentsFrom slot seen id).asked answer
    (site.workspace.next? id = none ∧ asked = [id]) ∨
      ∃ next rest, site.workspace.next? id = some next ∧
        (site.fragmentsFrom slot (id :: seen) next).run answer = .ok rest ∧
        asked = id :: (site.fragmentsFrom slot (id :: seen) next).asked answer := by
  intro asked
  have asked_eq : asked = (site.fragmentsFrom slot seen id).asked answer := rfl
  rw [fragmentsFrom_eq, if_neg new] at ran asked_eq
  cases found : site.workspace.get? id with
  | none =>
      rw [found] at ran
      cases ran
  | some member =>
      rw [found] at ran asked_eq
      obtain ⟨type, known, ran⟩ := (Rendering.run_bind_eq_ok_iff _).1 ran
      rw [Rendering.run_ofExcept] at known
      simp only [Rendering.asked_bind, Rendering.asked_ofExcept, Rendering.run_ofExcept, known,
        List.nil_append] at asked_eq
      split at ran
      · cases ran
      · next statement =>
          obtain ⟨fragment, answered, ran⟩ := (Rendering.run_bind_eq_ok_iff _).1 ran
          rw [Rendering.run_fragment] at answered
          rw [if_neg statement, Rendering.asked_bind, Rendering.asked_fragment,
            Rendering.run_fragment, answered] at asked_eq
          rw [Workspace.next?, found, Option.bind_some]
          cases link : member.next with
          | none =>
              rw [link] at asked_eq
              exact .inl ⟨rfl, asked_eq⟩
          | some next =>
              rw [link] at ran asked_eq
              obtain ⟨rest, later, -⟩ := (Rendering.run_bind_eq_ok_iff _).1 ran
              refine .inr ⟨next, rest, rfl, later, ?_⟩
              rw [asked_eq]
              dsimp only
              rw [Rendering.asked_bind, later]
              simp

/-- It has asked for all that a walk along the chain meets. -/
theorem asked_fragmentsFrom_of_ok {slot : String} (seen : List BlockId) (id : BlockId)
    {codes : List String} (ran : (site.fragmentsFrom slot seen id).run answer = .ok codes) :
    (site.fragmentsFrom slot seen id).asked answer = (site.workspace.walkFrom seen id).members := by
  induction seen, id using Workspace.walk_induction site.workspace generalizing codes with
  | again seen id passed =>
      rw [fragmentsFrom_eq, if_pos passed] at ran
      cases ran
  | last seen id new none =>
      rw [Workspace.walkFrom_eq, if_neg new, none]
      rcases fragmentsFrom_ok_cases new ran with ⟨-, asked⟩ | ⟨next, _, link, -⟩
      · exact asked
      · cases none.symm.trans link
  | step seen id next new link ih =>
      rw [Workspace.walkFrom_eq, if_neg new, link]
      rcases fragmentsFrom_ok_cases new ran with ⟨none, -⟩ | ⟨next', rest, link', later, asked⟩
      · cases none.symm.trans link
      · cases link.symm.trans link'
        rw [asked, ih later]

theorem visits_fragments (slot : String) : site.Visits answer [slot] (site.fragments slot) := by
  refine .read fun declaration _ => ?_
  cases held : site.block.slots[slot]? with
  | none =>
      dsimp only
      split
      · exact .fail _
      · exact .skip (by simp [isBound, held]) (.pure [])
  | some content =>
      cases content with
      | single child => exact .fail _
      | chain head =>
          intro codes ran
          rw [List.flatMap_singleton, slotMembers, held]
          exact asked_fragmentsFrom_of_ok [] head ran

theorem visits_flatStatements (slot : String) :
    site.Visits answer [slot] (site.flatStatements slot) :=
  .slot (visits_fragments slot) fun _ _ => .pure _

theorem visits_statements (slot : String) : site.Visits answer [slot] (site.statements slot) :=
  .slot (visits_flatStatements slot) fun _ _ => .pure _

/-! ## Blocks without slots -/

open Renderers

variable (site answer)

theorem visits_structField : site.Visits answer [] (structField site) := by
  refine .read fun name _ => .read fun type _ => ?_
  split
  · split
    · refine .read fun shape _ => ?_
      split <;> exact .pure _
    · split <;> exact .pure _
  · exact .pure _

theorem visits_parameter : site.Visits answer [] (parameter site) :=
  .read fun _ _ => .pure _

theorem visits_getAccount : site.Visits answer [] (getAccount site) := by
  refine .read fun index _ => ?_
  split
  · exact .fail _
  · exact .read fun _ _ => .pure _

theorem visits_checkOwner : site.Visits answer [] (checkOwner site) :=
  .read fun _ _ => .read fun _ _ => .pure _

theorem visits_deserializeAccount : site.Visits answer [] (deserializeAccount site) :=
  .read fun _ _ => .read fun _ _ => .pure _

theorem visits_accountConstraint : site.Visits answer [] (accountConstraint site) := by
  refine .read fun _ _ => .read fun _ _ => ?_
  split
  exact .pure _

theorem visits_pdaSeed : site.Visits answer [] (pdaSeed site) := by
  refine .read fun raw _ => ?_
  dsimp only
  split
  · exact .pure _
  · exact .fail _
  · exact .pure _

theorem visits_accountRef : site.Visits answer [] (accountRef site) :=
  .read fun _ _ => .pure _

theorem visits_programError : site.Visits answer [] (programError site) :=
  .read fun _ _ => .pure _

theorem visits_numberLiteral : site.Visits answer [] (numberLiteral site) :=
  .read fun _ _ => .pure _

theorem visits_truthValue : site.Visits answer [] (truthValue site) :=
  .read fun _ _ => .pure _

theorem visits_textLiteral : site.Visits answer [] (textLiteral site) :=
  .read fun _ _ => .pure _

theorem visits_variableName : site.Visits answer [] (variableName site) :=
  .read fun _ _ => .pure _

/-! ## Blocks with slots -/

theorem visits_program : site.Visits answer ["body"] (program site) :=
  .read fun _ _ => .slot (visits_flatStatements _) fun _ _ => .pure _

theorem visits_struct : site.Visits answer ["fields"] (struct site) :=
  .read fun _ _ => .slot (visits_statements _) fun _ _ => .pure _

theorem visits_enum : site.Visits answer ["variants"] (enum site) :=
  .read fun _ _ => .slot (visits_statements _) fun _ _ => .pure _

/-- A variant looks into its slot for data if it has any. -/
theorem visits_enumVariant {shape : String} (chosen : site.choice "type" = .ok shape) :
    site.Visits answer (if shape = "TUPLE" ∨ shape = "STRUCT" then ["fields"] else [])
      (enumVariant site) := by
  refine .read fun _ _ => .read fun shape' chosen' => ?_
  cases chosen.symm.trans chosen'
  by_cases data : shape = "TUPLE" ∨ shape = "STRUCT"
  · rw [if_pos data]
    rcases data with rfl | rfl
    · exact .slot (visits_fragments _) fun _ _ => .pure _
    · exact .slot (visits_statements _) fun _ _ => .pure _
  · rw [if_neg data]
    split
    · exact absurd (.inl rfl) data
    · exact absurd (.inr rfl) data
    · exact .pure _

theorem visits_handler : site.Visits answer ["params", "body"] (handler site) :=
  .read fun _ _ => .slot (visits_statements _) fun _ _ =>
    .slot (visits_statements _) fun _ _ => .pure _

theorem visits_validateAccounts : site.Visits answer ["min_accounts"] (validateAccounts site) :=
  .slot (visits_value _ _) fun _ _ => .pure _

theorem visits_initAccount : site.Visits answer ["space"] (initAccount site) :=
  .read fun _ _ => .read fun _ _ => .slot (visits_value _ _) fun _ _ => .pure _

theorem visits_createPda : site.Visits answer ["seeds"] (createPda site) :=
  .read fun _ _ => .slot (visits_fragments _) fun _ _ => .pure _

theorem visits_tokenOperation : site.Visits answer ["amount", "accounts"] (tokenOperation site) :=
  .read fun _ _ => .slot (visits_value _ _) fun _ _ =>
    .slot (visits_fragments _) fun _ _ => .pure _

theorem visits_emitEvent : site.Visits answer ["fields"] (emitEvent site) := by
  refine .read fun _ _ => .slot (visits_fragments _) fun _ _ => ?_
  split <;> exact .pure _

theorem visits_callProgram : site.Visits answer ["accounts", "data"] (callProgram site) :=
  .read fun _ _ => .slot (visits_fragments _) fun _ _ => .slot (visits_value _ _) fun _ _ => .pure _

theorem visits_countedLoop : site.Visits answer ["start", "end", "step", "do"] (countedLoop site) :=
  .read fun _ _ => .slot (visits_value _ _) fun _ _ => .slot (visits_value _ _) fun _ _ =>
    .slot (visits_value _ _) fun _ _ => .slot (visits_statements _) fun _ _ => .pure _

theorem visits_whileLoop : site.Visits answer ["bool", "do"] (whileLoop site) :=
  .slot (visits_value _ _) fun _ _ => .slot (visits_statements _) fun _ _ => .pure _

theorem visits_binary (symbol : String) (tier : Tier) (associativity : Associativity) :
    site.Visits answer ["a", "b"] (binary site symbol tier associativity) :=
  .slot (visits_value _ _) fun _ _ => .slot (visits_value _ _) fun _ _ => .pure _

theorem visits_mathOperation : site.Visits answer ["a", "b"] (mathOperation site) := by
  refine .read fun _ _ => ?_
  split <;> exact visits_binary site answer _ _ _

theorem visits_comparison : site.Visits answer ["a", "b"] (comparison site) :=
  .read fun _ _ => visits_binary site answer _ _ _

theorem visits_logicOperation : site.Visits answer ["a", "b"] (logicOperation site) := by
  refine .read fun _ _ => ?_
  split <;> exact visits_binary site answer _ _ _

theorem visits_negation : site.Visits answer ["bool"] (negation site) :=
  .slot (visits_value _ _) fun _ _ => .pure _

/-- An arm of a conditional that is left out has nothing in its body, or the rendering fails. -/
theorem visits_conditionalArm (arm : Nat) :
    site.Visits answer [conditionSlot arm, bodySlot arm] (conditionalArm site arm) := by
  unfold conditionalArm
  by_cases zero : arm = 0
  · simp only [if_pos zero]
    refine .slot (.slot (visits_value _ _) fun _ _ => .pure _) fun content read => ?_
    obtain ⟨code, -, read⟩ := (Rendering.run_bind_eq_ok_iff _).1 read
    cases read
    exact .slot (visits_statements _) fun _ _ => .pure _
  · simp only [if_neg zero]
    refine .slot (visits_value? _ _) fun content _ => ?_
    cases content with
    | some code => exact .slot (visits_statements _) fun _ _ => .pure _
    | none =>
        dsimp only
        split
        · exact .fail _
        · next unbound => exact .skip (by simpa using unbound) (.pure "")

theorem visits_conditionalArmsFrom (arms : List Nat) :
    site.Visits answer (arms.flatMap fun arm => [conditionSlot arm, bodySlot arm])
      (conditionalArmsFrom site arms) := by
  induction arms with
  | nil => exact .pure ""
  | cons arm rest ih =>
      rw [List.flatMap_cons, ← List.append_nil (rest.flatMap _)]
      exact .append (visits_conditionalArm site answer arm) fun _ _ => .append ih fun _ _ => .pure _

theorem visits_conditional :
    site.Visits answer ((List.range conditionalArms).flatMap (fun arm =>
      [conditionSlot arm, bodySlot arm]) ++ ["else"]) (conditional site) := by
  refine .append (visits_conditionalArmsFrom site answer _) fun _ _ => ?_
  split
  · exact .slot (visits_statements _) fun _ _ => .pure _
  · next unbound => exact .skip (by simpa using unbound) (.pure _)

/-! ## All types -/

open Palette.Standard

variable {site answer} {T : BlockType} {renderer : Renderer}
  (rendered : Renderers.standard? T.id = some renderer)

include rendered

theorem visits_programTypes (member : T ∈ programTypes) (other : T.id ≠ "enum_variant") :
    site.Visits answer (T.slots.map SlotDecl.name) (renderer site) := by
  unfold programTypes at member
  fin_cases member <;> cases rendered
  · exact visits_program site answer
  · exact visits_struct site answer
  · exact visits_structField site answer
  · exact visits_enum site answer
  · exact absurd rfl other
  · exact visits_handler site answer
  · exact visits_parameter site answer

theorem visits_accountTypes (member : T ∈ accountTypes) :
    site.Visits answer (T.slots.map SlotDecl.name) (renderer site) := by
  unfold accountTypes at member
  fin_cases member <;> cases rendered
  · exact visits_validateAccounts site answer
  · exact visits_getAccount site answer
  · exact visits_checkOwner site answer
  · exact visits_deserializeAccount site answer
  · exact visits_initAccount site answer
  · exact visits_accountConstraint site answer
  · exact visits_createPda site answer
  · exact visits_pdaSeed site answer
  · exact visits_tokenOperation site answer
  · exact visits_emitEvent site answer
  · exact visits_callProgram site answer
  · exact visits_accountRef site answer
  · exact visits_programError site answer

theorem visits_controlTypes (member : T ∈ controlTypes) :
    site.Visits answer (T.slots.map SlotDecl.name) (renderer site) := by
  unfold controlTypes at member
  fin_cases member <;> cases rendered
  · exact visits_conditional site answer
  · exact visits_countedLoop site answer
  · exact visits_whileLoop site answer

theorem visits_expressionTypes (member : T ∈ expressionTypes) :
    site.Visits answer (T.slots.map SlotDecl.name) (renderer site) := by
  unfold expressionTypes at member
  fin_cases member <;> cases rendered
  · exact visits_mathOperation site answer
  · exact visits_numberLiteral site answer
  · exact visits_comparison site answer
  · exact visits_logicOperation site answer
  · exact visits_negation site answer
  · exact visits_truthValue site answer
  · exact visits_textLiteral site answer
  · exact visits_variableName site answer

/-- Blocks of all types but one ask for what is in the slots that their type declares. -/
theorem visits_standard (member : T ∈ types) (other : T.id ≠ "enum_variant") :
    site.Visits answer (T.slots.map SlotDecl.name) (renderer site) := by
  rcases List.mem_append.1 member with member | member
  · rcases List.mem_append.1 member with member | member
    · rcases List.mem_append.1 member with member | member
      · exact visits_programTypes rendered member other
      · exact visits_accountTypes rendered member
    · exact visits_controlTypes rendered member
  · exact visits_expressionTypes rendered member

omit rendered

/-! ## Children -/

/-- The members of a slot are what sits in it. -/
theorem Orderly.mem_slotMembers (o : site.Orderly T) (slot : String) (child : BlockId) :
    child ∈ site.slotMembers slot ↔ site.workspace.seat? child = some ⟨site.id, slot⟩ := by
  obtain ⟨members, laid⟩ := o.workspace.laid
  have holds := laid.holds ⟨site.id, slot⟩
  rw [o.content?_eq] at holds
  rw [← laid.mem_members, slotMembers]
  cases held : site.block.slots[slot]? with
  | none =>
      rw [held] at holds
      rw [holds.eq_nil_iff.2 rfl]
  | some content => exact laid.contentMembers ((o.content?_eq slot).trans held) ▸ Iff.rfl

theorem nodup_slotMembers (site : Site) (slot : String) : (site.slotMembers slot).Nodup := by
  unfold slotMembers
  split
  · exact List.nodup_nil
  · exact site.workspace.nodup_contentMembers _

/-- Different slots have no member in common. -/
theorem Orderly.nodup_flatMap (o : site.Orderly T) {slots : List String} (distinct : slots.Nodup) :
    (slots.flatMap site.slotMembers).Nodup := by
  refine List.nodup_flatMap.2 ⟨fun slot _ => nodup_slotMembers site slot, ?_⟩
  refine distinct.imp fun apart => List.disjoint_left.2 fun child here there => apart ?_
  have sits := (o.mem_slotMembers _ child).1 here
  cases sits.symm.trans ((o.mem_slotMembers _ child).1 there)
  rfl

/-- Slots that are visited give the blocks asked for. -/
theorem Orderly.asked_of_visits (o : site.Orderly T) {α : Type} {slots : List String}
    {r : Rendering α} {a : α} (visits : site.Visits answer slots r) (ran : r.run answer = .ok a)
    (distinct : slots.Nodup)
    (all : ∀ child, site.workspace.Asks site.id child ↔
      ∃ slot ∈ slots, site.workspace.seat? child = some ⟨site.id, slot⟩) :
    (r.asked answer).Nodup ∧ ∀ child, child ∈ r.asked answer ↔ site.workspace.Asks site.id child := by
  rw [visits a ran]
  refine ⟨o.nodup_flatMap distinct, fun child => ?_⟩
  rw [List.mem_flatMap, all]
  simp only [o.mem_slotMembers]

theorem Orderly.asked_enumVariant (o : site.Orderly T) (variant : site.block.type = "enum_variant")
    (shape : T.isShape "type") (only : T.slots.map SlotDecl.name = ["fields"])
    (stored : "type" ∈ site.block.fields) {fragment : Fragment}
    (ran : (enumVariant site).run answer = .ok fragment) :
    ((enumVariant site).asked answer).Nodup ∧
      ∀ child, child ∈ (enumVariant site).asked answer ↔ site.workspace.Asks site.id child := by
  obtain ⟨raw, chosen⟩ : ∃ raw, site.choice "type" = .ok raw := by
    obtain ⟨_, -, later⟩ := (Rendering.run_bind_eq_ok_iff _).1 ran
    obtain ⟨raw, chosen, -⟩ := (Rendering.run_bind_eq_ok_iff _).1 later
    exact ⟨raw, chosen⟩
  obtain ⟨one_of, silent⟩ := o.shape_of_choice variant shape stored chosen
  refine o.asked_of_visits (visits_enumVariant site answer chosen) ran (by split <;> simp)
    fun child => ⟨?_, ?_⟩
  · rintro ⟨slot, sits, heard⟩
    obtain ⟨declaration, declared, rfl⟩ := o.slot_of_seat sits
    have fields : declaration.name = "fields" := by
      simpa [only] using List.mem_map_of_mem (f := SlotDecl.name) declared
    rw [fields, silent] at heard
    rw [fields] at sits
    exact ⟨"fields", by simp [one_of.resolve_left heard], sits⟩
  · rintro ⟨slot, visited, sits⟩
    by_cases data : raw = "TUPLE" ∨ raw = "STRUCT"
    · obtain rfl : slot = "fields" := by simpa [data] using visited
      refine ⟨"fields", sits, fun silenced => ?_⟩
      rw [silent] at silenced
      subst silenced
      simp at data
    · simp [data] at visited

/-- The rendering of a block that succeeds has asked for each block in the slots that are looked into
exactly once, and for no other block. -/
theorem Orderly.asked_standard (o : site.Orderly T) (palette : site.palette = .standard)
    (rendered : Renderers.standard? site.block.type = some renderer) {fragment : Fragment}
    (ran : (renderer site).run answer = .ok fragment) :
    ((renderer site).asked answer).Nodup ∧
      ∀ child, child ∈ (renderer site).asked answer ↔ site.workspace.Asks site.id child := by
  have known := o.known
  rw [palette] at known
  obtain ⟨member, named⟩ := standard_mem known
  by_cases variant : site.block.type = "enum_variant"
  · rw [variant] at rendered named
    cases rendered
    have data : ∀ type ∈ types, type.id = "enum_variant" →
        type.isShape "type" ∧ (type.field? "type").isSome ∧
          type.slots.map SlotDecl.name = ["fields"] := by decide
    obtain ⟨shape, declared, only⟩ := data T member named
    refine o.asked_enumVariant variant shape only ?_ ran
    exact (o.workspace.typed.keyed site.id T site.block.fields o.typeAt?_eq
      (by rw [Workspace.fields?, o.found, Option.map_some]) "type").2 declared
  · refine o.asked_of_visits (visits_standard (named ▸ rendered) member (named ▸ variant)) ran
      (distinct_names member).2 fun child => ⟨?_, ?_⟩
    · rintro ⟨slot, sits, -⟩
      obtain ⟨declaration, declared, rfl⟩ := o.slot_of_seat sits
      exact ⟨_, List.mem_map_of_mem declared, sits⟩
    · rintro ⟨slot, -, sits⟩
      exact ⟨slot, sits, o.heard variant slot⟩

end Site

end SolanaBlocks
