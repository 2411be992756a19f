import SolanaBlocks.Emission.Document
import SolanaBlocks.Proofs.Emission.Renderers
import SolanaBlocks.Proofs.Forest.Forest

/-!
# Which workspaces can be emitted

Emission checks blocks one by one while it writes code, and stops at the first that does not pass.
In an orderly workspace it succeeds exactly if all blocks pass that do not lie in the data of a
variant without data. From an owner it goes on to exactly the blocks in the slots that are looked
into, so what it meets below the roots is what is not hidden, and it meets nothing twice.
-/

namespace SolanaBlocks

open Palette.Standard (types conditionSlot bodySlot conditionalArms)

theorem find?_eq_some_of_nodup {α : Type} {key : α → String} {list : List α}
    (distinct : (list.map key).Nodup) {a : α} (member : a ∈ list) :
    list.find? (fun b => key b == key a) = some a := by
  induction list with
  | nil => cases member
  | cons b rest ih =>
      obtain ⟨once, distinct⟩ := List.nodup_cons.1 distinct
      rcases List.mem_cons.1 member with rfl | member
      · simp
      · have other : key b ≠ key a := fun same =>
          once (same ▸ List.mem_map_of_mem member)
        rw [List.find?_cons_of_neg (by simpa using other), ih distinct member]

theorem distinct_names {type : BlockType} (member : type ∈ types) :
    (type.fields.map FieldDecl.name).Nodup ∧ (type.slots.map SlotDecl.name).Nodup := by
  have all : ∀ type ∈ types, (type.fields.map FieldDecl.name).Nodup ∧
      (type.slots.map SlotDecl.name).Nodup := by decide
  exact all type member

theorem exists_renderer {type : BlockType} (member : type ∈ types) :
    ∃ renderer, Renderers.standard? type.id = some renderer := by
  have all : ∀ type ∈ types, (Renderers.standard? type.id).isSome := by decide
  exact Option.isSome_iff_exists.1 (all type member)

namespace Workspace

variable {w : Workspace}

/-- The rendering of a block asks for another one. -/
def Asks (w : Workspace) (id child : BlockId) : Prop :=
  ∃ slot, w.seat? child = some ⟨id, slot⟩ ∧ ¬ w.Silences ⟨id, slot⟩

end Workspace

namespace Site.Orderly

variable {site : Site} {T : BlockType} {answer : BlockId → Except EmitError Fragment}

theorem meets_field_iff (o : site.Orderly T) (distinct : (T.fields.map FieldDecl.name).Nodup)
    {field : FieldDecl} (member : field ∈ T.fields) :
    site.Meets answer (.field field.name) ↔ field.Accepts (field.valueIn site.block) := by
  have declared : site.fieldDecl field.name = .ok field :=
    fieldDecl_eq_ok_iff.2 ⟨T, o.known, find?_eq_some_of_nodup distinct member⟩
  simp only [Meets, declared, Except.ok.injEq, forall_eq']

theorem meets_slot_iff (o : site.Orderly T) (distinct : (T.slots.map SlotDecl.name).Nodup)
    {slot : SlotDecl} (member : slot ∈ T.slots) :
    site.Meets answer (.slot slot.name) ↔
      (slot.required = true → slot.name ∈ site.block.slots) ∧
        (¬ site.workspace.Silences ⟨site.id, slot.name⟩ →
          ∀ child, site.workspace.seat? child = some ⟨site.id, slot.name⟩ →
            ∃ fragment, answer child = .ok fragment) := by
  have declared : site.slotDecl slot.name = .ok slot :=
    slotDecl_eq_ok_iff.2 ⟨T, o.known, find?_eq_some_of_nodup distinct member⟩
  simp only [Meets, declared, Except.ok.injEq, forall_eq']

theorem fieldDecl_iff (o : site.Orderly T) {name : String} {field : FieldDecl} :
    site.fieldDecl name = .ok field ↔ T.field? name = some field := by
  rw [fieldDecl_eq_ok_iff, o.known]
  simp

/-- What sits below a block sits in one of the slots that its type declares. -/
theorem slot_of_seat (o : site.Orderly T) {child : BlockId} {slot : String}
    (sits : site.workspace.seat? child = some ⟨site.id, slot⟩) :
    ∃ declaration ∈ T.slots, declaration.name = slot := by
  obtain ⟨arity, type, known, -⟩ := o.workspace.typed.fitting child _ sits
  obtain ⟨declaration, declared, -⟩ := Option.map_eq_some_iff.1 known
  obtain ⟨owner, typed, declared⟩ := Option.bind_eq_some_iff.1 declared
  cases o.typeAt?_eq.symm.trans typed
  exact ⟨declaration, List.mem_of_find?_eq_some declared, by simpa using List.find?_some declared⟩

theorem meets_conditions_iff :
    (∀ demand ∈ Palette.Standard.conditions site.block.type, site.Meets answer demand) ↔
      (site.block.type = "get_account" → site.Meets answer .index) ∧
      (site.block.type = "pda_seed" → site.Meets answer .seed) ∧
      (site.block.type = "controls_if" →
        ∀ arm, 0 < arm → arm < conditionalArms → site.Meets answer (.arm arm)) := by
  unfold Palette.Standard.conditions
  split
  · next account => simp [account]
  · next seed => simp [seed]
  · next conditional =>
      have arms : (∀ arm, 0 < arm → arm < conditionalArms → site.Meets answer (.arm arm)) ↔
          ∀ arm ∈ [1, 2, 3], site.Meets answer (.arm arm) := by
        refine forall_congr' fun arm => ?_
        have between : arm ∈ [1, 2, 3] ↔ 0 < arm ∧ arm < conditionalArms := by
          simp [conditionalArms]
          omega
        rw [between, and_imp]
      rw [arms]
      simp [conditional]
  · next account seed conditional =>
      refine iff_of_true (fun _ none => absurd none List.not_mem_nil) ⟨?_, ?_, ?_⟩
      · exact fun same => (account same).elim
      · exact fun same => (seed same).elim
      · exact fun same => (conditional same).elim

/-- The demands of a type are the checks of its blocks, and answers about the blocks asked for. -/
theorem meets_demands_iff (o : site.Orderly T) (member : T ∈ types) (named : T.id = site.block.type)
    (placed : site.workspace.Stands site.id T.placement) :
    (∀ demand ∈ T.demands, site.Meets answer demand) ↔
      site.workspace.Passes site.id site.block T ∧
        ∀ child, site.workspace.Asks site.id child → ∃ fragment, answer child = .ok fragment := by
  obtain ⟨fields, slots⟩ := distinct_names member
  have read : (∀ demand ∈ (T.fields.filter fun field =>
        !(T.id == "function_param" && field.name == "name")).map fun field => .field field.name,
        site.Meets answer demand) ↔
      ∀ field ∈ T.fields, ¬ (site.block.type = "function_param" ∧ field.name = "name") →
        field.Accepts (field.valueIn site.block) := by
    rw [List.forall_mem_map]
    simp only [List.mem_filter, and_imp, Bool.not_eq_true', Bool.and_eq_false_iff,
      beq_eq_false_iff_ne, ne_eq, named, not_and_or]
    exact forall₂_congr fun field member => imp_congr_right fun _ => o.meets_field_iff fields member
  have filled : (∀ demand ∈ T.slots.map fun slot => .slot slot.name, site.Meets answer demand) ↔
      (∀ slot ∈ T.slots, slot.required = true → slot.name ∈ site.block.slots) ∧
        ∀ child, site.workspace.Asks site.id child → ∃ fragment, answer child = .ok fragment := by
    rw [List.forall_mem_map]
    constructor
    · intro met
      refine ⟨fun slot member => ((o.meets_slot_iff slots member).1 (met slot member)).1, ?_⟩
      rintro child ⟨_, sits, heard⟩
      obtain ⟨slot, member, rfl⟩ := o.slot_of_seat sits
      exact ((o.meets_slot_iff slots member).1 (met slot member)).2 heard child sits
    · rintro ⟨bound, answered⟩ slot member
      exact (o.meets_slot_iff slots member).2
        ⟨bound slot member, fun heard child sits => answered child ⟨slot.name, sits, heard⟩⟩
  unfold BlockType.demands
  rw [List.forall_mem_append, List.forall_mem_append, read, filled, named, meets_conditions_iff]
  simp only [Meets, o.fieldDecl_iff]
  constructor
  · rintro ⟨⟨read, bound, answered⟩, index, seed, arms⟩
    exact ⟨⟨placed, read, bound, index, seed, arms⟩, answered⟩
  · rintro ⟨⟨-, read, bound, index, seed, arms⟩, answered⟩
    exact ⟨⟨read, bound, answered⟩, index, seed, arms⟩

end Site.Orderly

/-! ## One block -/

/-- In a variant that passes its checks one can read which kind of variant it is. -/
theorem Site.choice_of_sound {site : Site} (palette : site.palette = .standard)
    (order : site.workspace.Orderly .standard)
    (found : site.workspace.get? site.id = some site.block)
    (variant : site.block.type = "enum_variant") (sound : site.workspace.Sound site.id) :
    ∃ shape, site.choice "type" = .ok shape := by
  obtain ⟨block, T, found', known, passes⟩ := sound
  cases found.symm.trans found'
  rw [order.palette] at known
  obtain ⟨member, named⟩ := standard_mem known
  have shape : T.isChoice "type" := by
    have all : ∀ type ∈ types, type.id = "enum_variant" → type.isChoice "type" := by decide
    exact all T member (named.trans variant)
  have o : site.Orderly T := ⟨palette ▸ order, found, palette ▸ known⟩
  have reads : site.Reads (fun _ => .error (.cyclic site.id)) [.field "type"] _ :=
    o.reads_choice shape
  refine reads.2 (List.forall_mem_singleton.2 fun field declared => ?_)
  rw [o.fieldDecl_iff] at declared
  have name : field.name = "type" := by simpa using List.find?_some declared
  exact passes.fields field (List.mem_of_find?_eq_some declared) (by simp [name])

namespace Emitter

variable {w : Workspace} {width : Nat} {open_ : List BlockId} {id : BlockId}

/-- A block is emitted exactly if it passes its checks and the blocks it asks for are emitted. Its
owner has passed the checks before. -/
theorem emitWithin_ok_iff (order : w.Orderly .standard) (alive : w.contains id = true)
    (closed : id ∉ open_) (hosted : ∀ owner, w.OwnedBy id owner → w.Sound owner) :
    (∃ fragment, (standard width).emitWithin w open_ id = .ok fragment) ↔
      w.Sound id ∧ ∀ child, w.Asks id child →
        ∃ fragment, (standard width).emitWithin w (id :: open_) child = .ok fragment := by
  obtain ⟨block, found⟩ := Workspace.contains_iff.1 alive
  obtain ⟨T, typed⟩ := order.typed.known id alive
  have known : Palette.standard.get? block.type = some T := by
    rwa [Workspace.typeAt?, Workspace.typeName?, found, Option.map_some, Option.bind_some,
      order.palette] at typed
  obtain ⟨member, named⟩ := standard_mem known
  obtain ⟨renderer, rendered⟩ := exists_renderer member
  have rendered' : (standard width).renderer? block.type = some renderer := named ▸ rendered
  have sound_iff : w.Sound id ↔ w.Passes id block T := by
    simp [Workspace.Sound, found, order.palette, known]
  rw [emitWithin_eq, sound_iff]
  simp only [found, if_neg closed, show (standard width).palette = .standard from rfl, known,
    rendered']
  by_cases placed : w.Stands id T.placement
  · let site : Site := ⟨w, .standard, (standard width).unit, id, block⟩
    have o : site.Orderly T := ⟨order, found, known⟩
    have host : ∀ owner, site.owner? = some owner → owner.block.type = "enum_variant" →
        ∃ shape, owner.choice "type" = .ok shape := by
      intro owner above variant
      obtain ⟨ownerId, owned, above⟩ := Option.bind_eq_some_iff.1 above
      obtain ⟨ownerBlock, ownerFound, rfl⟩ := Option.map_eq_some_iff.1 above
      exact Site.choice_of_sound rfl order ownerFound variant (hosted ownerId owned)
    have reads : site.Reads ((standard width).emitWithin w (id :: open_)) _ _ :=
      Site.reads_standard o rfl (named ▸ rendered) host
    rw [if_pos (Workspace.isPlaced_iff.2 placed), ← o.meets_demands_iff member named placed,
      ← show _ ↔ _ from reads]
    exact exists_except_map_eq_ok_iff
  · rw [if_neg (mt Workspace.isPlaced_iff.1 placed)]
    refine iff_of_false ?_ fun sound => placed sound.1.placed
    rintro ⟨_, emitted⟩
    cases emitted

end Emitter

/-! ## Everything below a block -/

namespace Workspace

variable {w : Workspace} {id child top : BlockId}

/-- `id` is `top` or is asked for somewhere below it. -/
def Heard (w : Workspace) (id top : BlockId) : Prop :=
  Relation.ReflTransGen (fun child owner => w.Asks owner child) id top

theorem Asks.ownedBy (asks : w.Asks id child) : w.OwnedBy child id := by
  obtain ⟨slot, sits, -⟩ := asks
  exact ownedBy_iff.2 ⟨slot, sits⟩

theorem Heard.below (heard : w.Heard id top) : w.Below id top := by
  induction heard with
  | refl => exact Below.refl
  | tail _ asks ih => exact ih.tail asks.ownedBy

theorem heard_iff : w.Heard id top ↔ id = top ∨ ∃ child, w.Asks top child ∧ w.Heard id child := by
  unfold Heard
  rw [Relation.ReflTransGen.cases_tail_iff, eq_comm]
  simp only [and_comm]

/-- The blocks that are not hidden are those that are heard below a root. -/
theorem not_hidden_iff {members : Seat → List BlockId} (h : Laid w members [])
    (alive : w.contains id = true) : ¬ w.Hidden id ↔ ∃ root ∈ w.roots, w.Heard id root := by
  constructor
  · have rooted := h.rooted id alive
    induction rooted with
    | @top id alive free =>
        intro _
        exact ⟨id, (h.mem_roots id).2 ⟨alive, free, List.not_mem_nil⟩, Relation.ReflTransGen.refl⟩
    | @under id seat sits above ih =>
        intro seen
        have owned : w.OwnedBy id seat.owner := ownedBy_iff.2 ⟨seat.slot, sits⟩
        have asks : w.Asks seat.owner id :=
          ⟨seat.slot, sits, fun silent => seen ⟨id, seat, Below.refl, sits, silent⟩⟩
        have open_ : ¬ w.Hidden seat.owner := fun ⟨top, seat', below, sits', silent⟩ =>
          seen ⟨top, seat', Relation.ReflTransGen.head owned below, sits', silent⟩
        obtain ⟨root, member, heard⟩ := ih above.contains open_
        exact ⟨root, member, Relation.ReflTransGen.head asks heard⟩
  · rintro ⟨root, member, heard⟩
    have free := ((h.mem_roots root).1 member).2.1
    induction heard using Relation.ReflTransGen.head_induction_on with
    | refl =>
        rintro ⟨top, seat, below, sits, -⟩
        have lone : w.owner? root = none := by rw [owner?, free, Option.map_none]
        cases below.eq_of_free lone
        rw [free] at sits
        cases sits
    | @head id owner asks heard ih =>
        rintro ⟨top, seat, below, sits, silent⟩
        by_cases same : id = top
        · subst same
          obtain ⟨slot, sits', loud⟩ := asks
          cases sits.symm.trans sits'
          exact loud silent
        · have owned := asks.ownedBy
          obtain ⟨slot, sits', -⟩ := asks
          have above := (h.rooted id alive).owner sits'
          exact ih above.contains ⟨top, seat, below.to_owner same owned, sits, silent⟩

end Workspace

namespace Emitter

variable {w : Workspace} {width : Nat}

/-- A block is emitted exactly if everything that is heard below it passes its checks. Nothing below
it is being rendered already, so no block is met twice. -/
theorem emitWithin_ok_iff_heard (order : w.Orderly .standard) {open_ : List BlockId} {id : BlockId}
    (alive : w.contains id = true) (apart : ∀ other ∈ open_, ¬ w.Below other id)
    (hosted : ∀ owner, w.OwnedBy id owner → w.Sound owner) :
    (∃ fragment, (standard width).emitWithin w open_ id = .ok fragment) ↔
      ∀ other, w.Heard other id → w.Sound other := by
  induction open_ using w.unseen_induction generalizing id with
  | step open_ ih =>
      obtain ⟨block, found⟩ := Workspace.contains_iff.1 alive
      obtain ⟨members, laid⟩ := order.laid
      have closed : id ∉ open_ := fun member => apart id member Workspace.Below.refl
      have each (sound : w.Sound id) (child : BlockId) (asks : w.Asks id child) :
          (∃ fragment, (standard width).emitWithin w (id :: open_) child = .ok fragment) ↔
            ∀ other, w.Heard other child → w.Sound other := by
        have owned := asks.ownedBy
        obtain ⟨slot, sits, -⟩ := asks
        have alive' := Workspace.contains_of_seat? sits
        refine ih found closed alive' ?_ ?_
        · intro other member below
          rcases List.mem_cons.1 member with rfl | member
          · exact laid.not_below_owner owned below
          · exact apart other member (below.tail owned)
        · intro owner owned'
          cases Option.some.inj (owned.symm.trans owned')
          exact sound
      rw [emitWithin_ok_iff order alive closed hosted]
      constructor
      · rintro ⟨sound, answered⟩ other heard
        rcases Workspace.heard_iff.1 heard with rfl | ⟨child, asks, heard⟩
        · exact sound
        · exact (each sound child asks).1 (answered child asks) other heard
      · intro all
        have sound := all id (Workspace.heard_iff.2 (.inl rfl))
        exact ⟨sound, fun child asks => (each sound child asks).2 fun other heard =>
          all other (Workspace.heard_iff.2 (.inr ⟨child, asks, heard⟩))⟩

theorem mapM_ok_iff {ε α β : Type} {f : α → Except ε β} {list : List α} :
    (∃ results, list.mapM f = .ok results) ↔ ∀ a ∈ list, ∃ b, f a = .ok b := by
  induction list with
  | nil => simp [pure, Except.pure]
  | cons a rest ih =>
      rw [List.forall_mem_cons, ← ih]
      simp only [List.mapM_cons, except_bind_eq_ok_iff]
      constructor
      · rintro ⟨_, b, here, results, later, -⟩
        exact ⟨⟨b, here⟩, results, later⟩
      · rintro ⟨⟨b, here⟩, results, later⟩
        exact ⟨_, b, here, results, later, rfl⟩

/-- Emission accepts exactly the workspaces in which every block passes its checks that does not lie
in the data of a variant without data. -/
theorem emitDocument_ok_iff (w : Workspace) (width : Nat) (run : Workspace.Reached .standard w) :
    (∃ code, (standard width).emitDocument w = .ok code) ↔
      ∀ id, w.contains id = true → ¬ w.Hidden id → w.Sound id := by
  have order := run.orderly
  obtain ⟨members, laid⟩ := order.laid
  have roots : (∃ code, (standard width).emitDocument w = .ok code) ↔
      ∀ root ∈ w.roots, ∃ code, (standard width).emitRoot w root = .ok code := by
    rw [← mapM_ok_iff]
    exact exists_except_map_eq_ok_iff
  have below (root : BlockId) (member : root ∈ w.roots) :
      (∃ code, (standard width).emitRoot w root = .ok code) ↔
        ∀ id, w.Heard id root → w.Sound id := by
    obtain ⟨alive, free, -⟩ := (laid.mem_roots root).1 member
    have lone (owner : BlockId) (owned : w.OwnedBy root owner) : w.Sound owner := by
      rw [Workspace.OwnedBy, Workspace.owner?, free] at owned
      cases owned
    rw [← emitWithin_ok_iff_heard order alive (fun _ none => absurd none List.not_mem_nil) lone]
    exact exists_except_map_eq_ok_iff
  rw [roots]
  constructor
  · intro emitted id alive seen
    obtain ⟨root, member, heard⟩ := (Workspace.not_hidden_iff laid alive).1 seen
    exact (below root member).1 (emitted root member) id heard
  · intro sound root member
    refine (below root member).2 fun id heard => ?_
    have alive := heard.below.contains ((laid.mem_roots root).1 member).1
    exact sound id alive ((Workspace.not_hidden_iff laid alive).2 ⟨root, member, heard⟩)

/-- A field with a blank name lies in the data of a variant that has none. -/
theorem emitDocument_ok_iff_silent :
    let edits : List Edit := [
      .create (some ⟨"e"⟩) "rust_enum" [],
      .create (some ⟨"v"⟩) "enum_variant" [("type", .text "SIMPLE")],
      .create (some ⟨"f"⟩) "struct_field" [("name", .text " ")],
      .bind ⟨"e"⟩ "variants" (.chain [⟨"v"⟩]),
      .bind ⟨"v"⟩ "fields" (.chain [⟨"f"⟩])]
    let w : Workspace := edits.foldl (fun w edit => (w.apply edit).1) { palette := .standard }
    w.seat? ⟨"f"⟩ = some ⟨⟨"v"⟩, "fields"⟩ ∧ Workspace.Reached .standard w ∧
      ((∃ code, (standard 4).emitDocument w = .ok code) ↔
        ∀ id, w.contains id = true → ¬ w.Hidden id → w.Sound id) := by
  intro edits w
  have run : Workspace.Reached .standard w := by
    refine .edit _ (.edit _ (.edit _ (.edit _ (.edit _ .empty ?_) ?_) ?_) ?_) ?_ <;> exact id
  exact ⟨by decide +kernel, run, emitDocument_ok_iff w 4 run⟩

end Emitter

end SolanaBlocks
