import SolanaBlocks.Proofs.Emission.Checks

/-!
# What renderings depend on

Whether a rendering succeeds is a matter of the fields it reads, the slots it renders, and a few
conditions on what it has read. The demands of a rendering list all this; the rendering of a whole
block has the demands of its steps, one after the other. How the blocks in the slots are rendered
stays open, so nothing here is recursive.
-/

namespace SolanaBlocks

/-- One thing on which the rendering of a block depends. -/
inductive Demand where
  | field (name : String)
  | slot (name : String)
  | index
  | seed
  | arm (arm : Nat)
deriving DecidableEq

namespace BlockType

/-- Whether a type declares such a field. -/
def declaresField (type : BlockType) (name : String) (p : FieldDecl → Bool) : Bool :=
  (type.field? name).any p

/-- Whether a type declares such a slot. -/
def declaresSlot (type : BlockType) (name : String) (p : SlotDecl → Bool) : Bool :=
  (type.slot? name).any p

/-- The field is a free text. -/
def isText (type : BlockType) (name : String) : Bool :=
  type.declaresField name fun field => field.kind = .freeText

/-- The field is a dropdown without an empty entry. -/
def isChoice (type : BlockType) (name : String) : Bool :=
  type.declaresField name fun field =>
    field.options?.any fun options => "" ∉ options.map Choice.value

/-- The field is a number. -/
def isNumber (type : BlockType) (name : String) : Bool :=
  type.declaresField name fun field => field.kind = .number

/-- The slot takes one expression and may stay empty. -/
def takesExpression (type : BlockType) (slot : String) : Bool :=
  type.declaresSlot slot fun declaration =>
    declaration.arity = .expression ∧ declaration.required = false

/-- The slot takes one expression, and there is code for the case that it stays empty. -/
def hasDefault (type : BlockType) (slot : String) : Bool :=
  type.declaresSlot slot fun declaration =>
    declaration.arity = .expression ∧ declaration.required = false ∧
      declaration.defaultCode.isSome = true

/-- The slot takes a chain. -/
def takesChain (type : BlockType) (slot : String) : Bool :=
  type.declaresSlot slot fun declaration => declaration.arity = .chain

theorem takesExpression_of_hasDefault {type : BlockType} {slot : String}
    (default : type.hasDefault slot = true) : type.takesExpression slot = true := by
  obtain ⟨declaration, here, kind⟩ := (Option.any_eq_true _ _).1 default
  exact (Option.any_eq_true _ _).2 ⟨declaration, here, by simp_all⟩

end BlockType

open Palette.Standard

namespace Site

/-- The site is a block of the given type in an orderly workspace. -/
structure Orderly (site : Site) (type : BlockType) : Prop where
  workspace : site.workspace.Orderly site.palette
  found : site.workspace.get? site.id = some site.block
  known : site.palette.get? site.block.type = some type

/-- What a demand comes to at a site, given the answers about the blocks in its slots. A slot has to
be bound if its type says so, and all blocks in it have to be answered for. -/
def Meets (site : Site) (answer : BlockId → Except EmitError Fragment) : Demand → Prop
  | .field name => ∀ field, site.fieldDecl name = .ok field →
    field.Accepts (field.valueIn site.block)
  | .slot name =>
    (∀ declaration, site.slotDecl name = .ok declaration → declaration.required = true →
      name ∈ site.block.slots) ∧
    (¬ site.workspace.Silences ⟨site.id, name⟩ →
      ∀ child, site.workspace.seat? child = some ⟨site.id, name⟩ →
        ∃ fragment, answer child = .ok fragment)
  | .index => ∀ field, site.fieldDecl "index" = .ok field →
    ∀ x, (field.valueIn site.block).number? = some x → (BinaryNumber.ofFloat x).IsNatural
  | .seed => ∀ field, site.fieldDecl "value" = .ok field →
    ClosesQuote (Text.trim (field.valueIn site.block).display).toList
  | .arm arm => bodySlot arm ∈ site.block.slots → conditionSlot arm ∈ site.block.slots

/-- A rendering succeeds exactly if the demands are met. -/
def Reads {α : Type} (site : Site) (answer : BlockId → Except EmitError Fragment)
    (demands : List Demand) (r : Rendering α) : Prop :=
  (∃ a, r.run answer = .ok a) ↔ ∀ demand ∈ demands, site.Meets answer demand

namespace Reads

variable {α β : Type} {site : Site} {answer : BlockId → Except EmitError Fragment}
  {demand : Demand} {demands demands' : List Demand} {r : Rendering α} {f : α → Rendering β}

theorem of_met {a : α} (met : ∀ demand ∈ demands, site.Meets answer demand)
    (ok : r.run answer = .ok a) : site.Reads answer demands r :=
  iff_of_true ⟨a, ok⟩ met

theorem of_ok {a : α} (ok : r.run answer = .ok a) : site.Reads answer [] r :=
  of_met (by simp) ok

theorem pure (a : α) : site.Reads answer [] (Pure.pure a : Rendering α) :=
  of_ok (a := a) rfl

/-- What follows a step may rely on its result. -/
theorem append (first : site.Reads answer demands r)
    (next : ∀ a, r.run answer = .ok a → site.Reads answer demands' (f a)) :
    site.Reads answer (demands ++ demands') (r >>= f) := by
  unfold Reads at first next ⊢
  rw [List.forall_mem_append, ← first]
  simp only [Rendering.run_bind_eq_ok_iff]
  constructor
  · rintro ⟨b, a, ran, later⟩
    exact ⟨⟨a, ran⟩, (next a ran).1 ⟨b, later⟩⟩
  · rintro ⟨⟨a, ran⟩, later⟩
    obtain ⟨b, later⟩ := (next a ran).2 later
    exact ⟨b, a, ran, later⟩

theorem bind (first : site.Reads answer [demand] r)
    (next : ∀ a, r.run answer = .ok a → site.Reads answer demands (f a)) :
    site.Reads answer (demand :: demands) (r >>= f) :=
  first.append next

/-- A condition under which the rendering fails is a demand of its own. -/
theorem check {wrong : Prop} [Decidable wrong] {e : EmitError}
    (same : site.Meets answer demand ↔ ¬ wrong) (rest : site.Reads answer demands r) :
    site.Reads answer (demand :: demands) (if wrong then .fail e else r) := by
  rw [Reads, List.forall_mem_cons, same]
  split
  · next bad => exact iff_of_false (fun ⟨a, ran⟩ => (by cases ran)) fun met => met.1 bad
  · next good => exact rest.trans (iff_and_self.2 fun _ => good)

/-- The order of the demands does not matter. -/
theorem of_perm (reads : site.Reads answer demands r) (same : demands'.Perm demands) :
    site.Reads answer demands' r :=
  Iff.trans reads (forall_congr' fun _ => by rw [same.mem_iff])

end Reads

namespace Orderly

variable {site : Site} {T : BlockType}

theorem fieldDecl (o : site.Orderly T) {name : String} {p : FieldDecl → Bool}
    (declared : T.declaresField name p = true) :
    ∃ field, site.fieldDecl name = .ok field ∧ field.name = name ∧ p field = true := by
  obtain ⟨field, named, holds⟩ := (Option.any_eq_true _ _).1 declared
  have name : field.name = name := by simpa using List.find?_some named
  exact ⟨field, fieldDecl_eq_ok_iff.2 ⟨T, o.known, named⟩, name, holds⟩

theorem slotDecl (o : site.Orderly T) {slot : String} {p : SlotDecl → Bool}
    (declared : T.declaresSlot slot p = true) :
    ∃ declaration, site.slotDecl slot = .ok declaration ∧ p declaration = true := by
  obtain ⟨declaration, named, holds⟩ := (Option.any_eq_true _ _).1 declared
  exact ⟨declaration, slotDecl_eq_ok_iff.2 ⟨T, o.known, named⟩, holds⟩

theorem typeAt?_eq (o : site.Orderly T) : site.workspace.typeAt? site.id = some T := by
  rw [Workspace.typeAt?, Workspace.typeName?, o.found, Option.map_some, Option.bind_some,
    o.workspace.palette, o.known]

theorem content?_eq (o : site.Orderly T) (slot : String) :
    site.workspace.content? ⟨site.id, slot⟩ = site.block.slots[slot]? := by
  rw [Workspace.content?, Workspace.slot?, o.found, Option.bind_some]

theorem arity?_eq (o : site.Orderly T) {slot : String} {declaration : SlotDecl}
    (declared : site.slotDecl slot = .ok declaration) :
    site.workspace.arity? ⟨site.id, slot⟩ = some declaration.arity := by
  obtain ⟨type, known, named⟩ := slotDecl_eq_ok_iff.1 declared
  cases o.known.symm.trans known
  rw [Workspace.arity?, o.typeAt?_eq, Option.bind_some, named, Option.map_some]

/-- The slots of all types but one are looked into. -/
theorem heard (o : site.Orderly T) (other : site.block.type ≠ "enum_variant") (slot : String) :
    ¬ site.workspace.Silences ⟨site.id, slot⟩ := by
  rintro ⟨-, block, found, variant, -⟩
  cases o.found.symm.trans found
  exact other variant

/-- What sits in a slot exists and fits there. -/
theorem child (o : site.Orderly T) {slot : String} {declaration : SlotDecl} {child : BlockId}
    (declared : site.slotDecl slot = .ok declaration)
    (sits : site.workspace.seat? child = some ⟨site.id, slot⟩) :
    ∃ block type, site.workspace.get? child = some block ∧
      site.palette.get? block.type = some type ∧
      type.producesValue = (declaration.arity == .expression) := by
  obtain ⟨arity, type, known, typed, fits⟩ := o.workspace.typed.fitting child _ sits
  cases (o.arity?_eq declared).symm.trans known
  obtain ⟨name, named, typed⟩ := Option.bind_eq_some_iff.1 typed
  obtain ⟨block, found, rfl⟩ := Option.map_eq_some_iff.1 named
  rw [o.workspace.palette] at typed
  exact ⟨block, type, found, typed, fits⟩

variable {answer : BlockId → Except EmitError Fragment}

/-! ## Fields -/

theorem reads_text (o : site.Orderly T) {name : String} (free : T.isText name = true) :
    site.Reads answer [.field name] (.ofExcept (site.text name)) := by
  obtain ⟨field, declared, -, kind⟩ := o.fieldDecl free
  refine Iff.trans (text_ok_iff declared (by simpa using kind)) ?_
  simp [Meets, declared]

theorem reads_choice (o : site.Orderly T) {name : String} (listed : T.isChoice name = true) :
    site.Reads answer [.field name] (.ofExcept (site.choice name)) := by
  obtain ⟨field, declared, -, kind⟩ := o.fieldDecl listed
  obtain ⟨options, offered, visible⟩ := (Option.any_eq_true _ _).1 kind
  have kind : field.kind = .choice options := by
    unfold FieldDecl.options? at offered
    split at offered
    · next kind => rw [kind, Option.some.inj offered]
    · cases offered
  refine Iff.trans (choice_ok_iff declared kind (by simpa using visible)) ?_
  simp [Meets, declared]

theorem reads_number (o : site.Orderly T) {name : String} (number : T.isNumber name = true) :
    site.Reads answer [.field name] (.ofExcept (site.number name)) := by
  obtain ⟨field, declared, named, kind⟩ := o.fieldDecl number
  refine Iff.trans (number_ok_iff declared (by simpa using kind) named) ?_
  simp [Meets, declared]

/-! ## Slots -/

theorem resolve_eq {child : BlockId} {block : Block} {type : BlockType}
    (found : site.workspace.get? child = some block)
    (known : site.palette.get? block.type = some type) :
    site.resolve child = .ok (block, type) := by
  simp [resolve, found, Site.type, moveTo, known, Except.map]

/-- What a slot holds fits the declaration, and it is what sits there. -/
theorem contents (o : site.Orderly T) {slot : String} {declaration : SlotDecl}
    (declared : site.slotDecl slot = .ok declaration) :
    (site.block.slots[slot]? = none ∧
      ∀ child, site.workspace.seat? child ≠ some ⟨site.id, slot⟩) ∨
    (declaration.arity = .expression ∧ ∃ child, site.block.slots[slot]? = some (.single child) ∧
      ∀ other, site.workspace.seat? other = some ⟨site.id, slot⟩ ↔ other = child) ∨
    (declaration.arity = .chain ∧ ∃ head rest, site.block.slots[slot]? = some (.chain head) ∧
      (head :: rest).Nodup ∧ Linked site.workspace.next? (head :: rest) none ∧
      ∀ other, site.workspace.seat? other = some ⟨site.id, slot⟩ ↔ other ∈ head :: rest) := by
  obtain ⟨members, laid⟩ := o.workspace.laid
  have fits (content : SlotContent) (held : site.block.slots[slot]? = some content) :
      declaration.arity = content.arity := by
    have known := o.workspace.typed.declared ⟨site.id, slot⟩ content
      ((o.content?_eq slot).trans held)
    exact Option.some.inj ((o.arity?_eq declared).symm.trans known)
  have holds := laid.holds ⟨site.id, slot⟩
  have inside := laid.mem_members ⟨site.id, slot⟩
  have distinct := laid.nodup ⟨site.id, slot⟩
  have linked := laid.linked ⟨site.id, slot⟩
  rw [o.content?_eq] at holds
  generalize members ⟨site.id, slot⟩ = list at holds inside distinct linked
  cases held : site.block.slots[slot]? with
  | none =>
      rw [held] at holds
      cases holds
      exact .inl ⟨rfl, fun child sits => List.not_mem_nil ((inside child).2 sits)⟩
  | some content =>
      rw [held] at holds
      cases holds with
      | single child =>
          exact .inr (.inl ⟨fits _ held, child, rfl, fun other => by simp [← inside]⟩)
      | chain head rest =>
          exact .inr (.inr ⟨fits _ held, head, rest, rfl, distinct, linked,
            fun other => (inside other).symm⟩)

theorem reads_value? (o : site.Orderly T) {slot : String} (tier : Tier)
    (expression : T.takesExpression slot = true)
    (heard : ¬ site.workspace.Silences ⟨site.id, slot⟩) :
    site.Reads answer [.slot slot] (site.value? slot tier) := by
  obtain ⟨declaration, declared, kind⟩ := o.slotDecl expression
  obtain ⟨arity, free⟩ : declaration.arity = .expression ∧ declaration.required = false := by
    simpa using kind
  have meets : site.Meets answer (.slot slot) ↔
      ∀ child, site.workspace.seat? child = some ⟨site.id, slot⟩ →
        ∃ fragment, answer child = .ok fragment := by
    simp [Meets, declared, free, heard]
  rw [Reads, List.forall_mem_singleton, meets]
  unfold value?
  simp only [Rendering.run_bind_eq_ok_iff, Rendering.run_ofExcept, declared, Except.ok.injEq,
    exists_eq_left']
  rcases o.contents declared with ⟨held, nothing⟩ | ⟨-, child, held, only⟩ | ⟨chain, -⟩
  · simp [held, free, nothing]
  · obtain ⟨block, type, found, known, fits⟩ := o.child declared ((only child).2 rfl)
    have resolved := resolve_eq found known
    have produces : type.producesValue = true := by simp [fits, arity]
    simp only [held, only, forall_eq, Rendering.run_bind_eq_ok_iff, Rendering.run_ofExcept,
      resolved, Except.ok.injEq, exists_eq_left', produces, if_true, Rendering.run_fragment,
      Rendering.run_pure]
    exact ⟨fun ⟨_, fragment, answered, _⟩ => ⟨fragment, answered⟩,
      fun ⟨fragment, answered⟩ => ⟨_, fragment, answered, rfl⟩⟩
  · rw [arity] at chain
    cases chain

theorem reads_value (o : site.Orderly T) {slot : String} (tier : Tier)
    (default : T.hasDefault slot = true) (heard : ¬ site.workspace.Silences ⟨site.id, slot⟩) :
    site.Reads answer [.slot slot] (site.value slot tier) := by
  obtain ⟨declaration, declared, kind⟩ := o.slotDecl default
  obtain ⟨code, stated⟩ : ∃ code, declaration.defaultCode = some code := by
    simp only [decide_eq_true_eq] at kind
    exact Option.isSome_iff_exists.1 kind.2.2
  have takes := BlockType.takesExpression_of_hasDefault default
  refine (o.reads_value? tier takes heard).bind fun content _ => ?_
  cases content with
  | some code => exact .pure code
  | none =>
      refine .of_ok (a := code) ?_
      simp only [Rendering.run_bind, Rendering.run_ofExcept, declared, stated, Rendering.run_pure]

/-- One member of a chain of statements, and then the rest. -/
theorem fragmentsFrom_ok {slot : String} {seen : List BlockId} {id : BlockId} {block : Block}
    {type : BlockType} (new : id ∉ seen) (found : site.workspace.get? id = some block)
    (known : site.palette.get? block.type = some type) (statement : type.producesValue = false) :
    (∃ codes, (site.fragmentsFrom slot seen id).run answer = .ok codes) ↔
      (∃ fragment, answer id = .ok fragment) ∧ ∀ next, block.next = some next →
        ∃ codes, (site.fragmentsFrom slot (id :: seen) next).run answer = .ok codes := by
  rw [fragmentsFrom, dif_neg new]
  split
  · next absent =>
      rw [found] at absent
      cases absent
  · next member found' =>
      cases found.symm.trans found'
      have typed : (site.moveTo id block).type = .ok type := by simp [Site.type, moveTo, known]
      simp only [Rendering.run_bind_eq_ok_iff, Rendering.run_ofExcept, typed, Except.ok.injEq,
        exists_eq_left', statement, Bool.false_eq_true, if_false, Rendering.run_fragment]
      cases block.next with
      | none =>
          simp only [Rendering.run_pure, reduceCtorEq, false_imp_iff, implies_true, and_true]
          constructor
          · rintro ⟨_, fragment, answered, -⟩
            exact ⟨fragment, answered⟩
          · rintro ⟨fragment, answered⟩
            exact ⟨_, fragment, answered, rfl⟩
      | some next =>
          simp only [Option.some.injEq, forall_eq', Rendering.run_bind_eq_ok_iff,
            Rendering.run_pure]
          constructor
          · rintro ⟨_, fragment, answered, codes, later, -⟩
            exact ⟨⟨fragment, answered⟩, codes, later⟩
          · rintro ⟨⟨fragment, answered⟩, codes, later⟩
            exact ⟨_, fragment, answered, codes, later, rfl⟩

/-- The members of a chain are rendered if all of them are answered for. -/
theorem fragmentsFrom_ok_iff {slot : String} {rest : List BlockId} {id : BlockId}
    (seen : List BlockId) (distinct : (id :: rest).Nodup)
    (linked : Linked site.workspace.next? (id :: rest) none)
    (new : ∀ member ∈ id :: rest, member ∉ seen)
    (statements : ∀ member ∈ id :: rest, ∃ block type,
      site.workspace.get? member = some block ∧ site.palette.get? block.type = some type ∧
        type.producesValue = false) :
    (∃ codes, (site.fragmentsFrom slot seen id).run answer = .ok codes) ↔
      ∀ member ∈ id :: rest, ∃ fragment, answer member = .ok fragment := by
  induction rest generalizing id seen with
  | nil =>
      obtain ⟨block, type, found, known, statement⟩ := statements id List.mem_cons_self
      have last : block.next = none := by simpa [Workspace.next?, found] using linked.1
      rw [fragmentsFrom_ok (new id List.mem_cons_self) found known statement]
      simp [last]
  | cons next rest ih =>
      obtain ⟨block, type, found, known, statement⟩ := statements id List.mem_cons_self
      have follows : block.next = some next := by simpa [Workspace.next?, found] using linked.1
      obtain ⟨once, distinct⟩ := List.nodup_cons.1 distinct
      rw [fragmentsFrom_ok (new id List.mem_cons_self) found known statement, List.forall_mem_cons]
      simp only [follows, Option.some.injEq, forall_eq']
      rw [ih (id :: seen) distinct linked.2 ?_ (List.forall_mem_cons.1 statements).2]
      intro member later passed
      rcases List.mem_cons.1 passed with rfl | passed
      · exact once later
      · exact new member (List.mem_cons_of_mem id later) passed

theorem reads_fragments (o : site.Orderly T) {slot : String} (chain : T.takesChain slot = true)
    (heard : ¬ site.workspace.Silences ⟨site.id, slot⟩) :
    site.Reads answer [.slot slot] (site.fragments slot) := by
  obtain ⟨declaration, declared, kind⟩ := o.slotDecl chain
  have arity : declaration.arity = .chain := by simpa using kind
  rw [Reads, List.forall_mem_singleton]
  unfold fragments
  simp only [Rendering.run_bind_eq_ok_iff, Rendering.run_ofExcept, declared, Except.ok.injEq,
    exists_eq_left', Meets, heard, not_false_eq_true, true_imp_iff, forall_eq']
  have bound : slot ∈ site.block.slots ↔ (site.block.slots[slot]?).isSome := by
    rw [Std.ExtTreeMap.isSome_getElem?_iff_mem]
  rcases o.contents declared with ⟨held, nothing⟩ | ⟨expression, -⟩ |
    ⟨-, head, rest, held, distinct, linked, inside⟩
  · cases needed : declaration.required <;> simp [held, nothing, bound]
  · rw [arity] at expression
    cases expression
  · have statements : ∀ member ∈ head :: rest, ∃ block type,
        site.workspace.get? member = some block ∧ site.palette.get? block.type = some type ∧
          type.producesValue = false := by
      intro member here
      obtain ⟨block, type, found, known, fits⟩ := o.child declared ((inside member).2 here)
      exact ⟨block, type, found, known, by rw [fits, arity]; rfl⟩
    have all : (∃ codes, (site.fragmentsFrom slot [] head).run answer = .ok codes) ↔ _ :=
      fragmentsFrom_ok_iff [] distinct linked (fun _ _ => List.not_mem_nil) statements
    simp only [held, bound, Option.isSome_some, implies_true, true_and, inside, all]

theorem reads_flatStatements (o : site.Orderly T) {slot : String} (chain : T.takesChain slot = true)
    (heard : ¬ site.workspace.Silences ⟨site.id, slot⟩) :
    site.Reads answer [.slot slot] (site.flatStatements slot) :=
  (o.reads_fragments chain heard).bind fun _ _ => .pure _

theorem reads_statements (o : site.Orderly T) {slot : String} (chain : T.takesChain slot = true)
    (heard : ¬ site.workspace.Silences ⟨site.id, slot⟩) :
    site.Reads answer [.slot slot] (site.statements slot) :=
  (o.reads_flatStatements chain heard).bind fun _ _ => .pure _

end Orderly

end Site

end SolanaBlocks
