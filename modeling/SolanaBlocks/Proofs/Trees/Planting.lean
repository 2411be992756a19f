import SolanaBlocks.BlockTree.Import
import SolanaBlocks.Proofs.Forest.Creation
import SolanaBlocks.Proofs.Forest.Moves
import SolanaBlocks.Proofs.Trees.Depiction

/-!
# Planting trees

Whole trees can be planted exactly if they are well formed and their ids are new. Planting adds the
blocks that the trees show and leaves the tops as the last roots. Until they are bound, the members
of a slot are roots themselves; as the owner is a root too at that time, nothing can lie above it, and
no binding is refused for another reason than that the slot does not take the members.
-/

namespace SolanaBlocks

/-- The outcome of a step that succeeds exactly if it is allowed, and then gives a good result. -/
def Settles {ε α : Type} (allowed : Prop) (good : α → Prop) : Except ε α → Prop
  | .ok a => allowed ∧ good a
  | .error _ => ¬ allowed

namespace Settles

variable {ε α β : Type} {allowed allowed' : Prop} {good good' : α → Prop} {goal : β → Prop}
  {step : Except ε α}

theorem ok_iff (h : Settles allowed good step) : (∃ a, step = .ok a) ↔ allowed := by
  cases step with
  | ok a => exact ⟨fun _ => h.1, fun _ => ⟨a, rfl⟩⟩
  | error e => exact ⟨fun ⟨a, same⟩ => (by cases same), fun here => absurd here h⟩

theorem good_of_ok (h : Settles allowed good step) {a : α} (ok : step = .ok a) : good a := by
  subst ok
  exact h.2

theorem imp (h : Settles allowed good step) (same : allowed' ↔ allowed)
    (better : allowed → ∀ a, good a → good' a) : Settles allowed' good' step := by
  cases step with
  | ok a => exact ⟨same.2 h.1, better h.1 a h.2⟩
  | error e => exact fun here => h (same.1 here)

/-- One step after another: what is asked of the first must be part of what is asked of both. -/
theorem bind {next : α → Except ε β} (first : Settles allowed good step)
    (part : allowed' → allowed) (later : ∀ a, allowed → good a → Settles allowed' goal (next a)) :
    Settles allowed' goal (step >>= next) := by
  cases step with
  | ok a => exact later a first.1 first.2
  | error e => exact fun here => first (part here)

end Settles

namespace Workspace

variable {v v' v'' : Workspace} {m m' m'' : Seat → List BlockId} {palette : Palette}

/-! ## Growth -/

/-- Nothing sits in the slots of a block that does not exist. -/
theorem Laid.members_eq_nil (h : Laid v m []) {seat : Seat} (absent : v.contains seat.owner = false) :
    m seat = [] := by
  have holds := h.holds seat
  cases held : v.content? seat with
  | none =>
      rw [held] at holds
      exact holds.eq_nil_iff.2 rfl
  | some content => simp [contains_of_content? held] at absent

/-- None of these ids is taken, and none comes twice. -/
def Fresh (v : Workspace) (ids : List BlockId) : Prop :=
  ids.Nodup ∧ ∀ id ∈ ids, v.contains id = false

/-- A workspace has grown by some new blocks and by the content of some seats of old ones. -/
structure Grown (v v' : Workspace) (m m' : Seat → List BlockId) (new : List BlockId)
    (filled : Seat → Prop) : Prop where
  laid : Laid v' m' []
  typed : Typed v'
  palette : v'.palette = v.palette
  contains : ∀ id, v'.contains id = true ↔ v.contains id = true ∨ id ∈ new
  typeName? : ∀ id ∉ new, v'.typeName? id = v.typeName? id
  fields? : ∀ id ∉ new, v'.fields? id = v.fields? id
  kept : ∀ seat, seat.owner ∉ new → ¬ filled seat → m' seat = m seat

namespace Grown

variable {new new' : List BlockId} {filled filled' : Seat → Prop}

theorem refl (h : Laid v m []) (t : Typed v) : Grown v v m m [] fun _ => False :=
  ⟨h, t, rfl, by simp, fun _ _ => rfl, fun _ _ => rfl, fun _ _ _ => rfl⟩

theorem trans (g : Grown v v' m m' new filled) (g' : Grown v' v'' m' m'' new' filled') :
    Grown v v'' m m'' (new ++ new') fun seat => filled seat ∨ filled' seat := by
  refine ⟨g'.laid, g'.typed, g'.palette.trans g.palette, fun id => ?_, fun id hid => ?_,
    fun id hid => ?_, fun seat hs none => ?_⟩
  · rw [g'.contains, g.contains, List.mem_append, or_assoc]
  · rw [List.mem_append, not_or] at hid
    rw [g'.typeName? id hid.2, g.typeName? id hid.1]
  · rw [List.mem_append, not_or] at hid
    rw [g'.fields? id hid.2, g.fields? id hid.1]
  · rw [List.mem_append, not_or] at hs
    rw [not_or] at none
    rw [g'.kept seat hs.2 none.2, g.kept seat hs.1 none.1]

/-- The seats of new blocks need not be listed. -/
theorem mono (g : Grown v v' m m' new filled)
    (more : ∀ seat, filled seat → seat.owner ∈ new ∨ filled' seat) :
    Grown v v' m m' new filled' := by
  refine { g with kept := fun seat hs none => g.kept seat hs fun here => ?_ }
  exact (more seat here).elim hs none

theorem fresh_append (g : Grown v v' m m' new filled) {ids : List BlockId} :
    Fresh v (new ++ ids) ↔ Fresh v new ∧ Fresh v' ids := by
  unfold Fresh
  rw [List.nodup_append, List.forall_mem_append]
  have absent (id : BlockId) : v'.contains id = false ↔ v.contains id = false ∧ id ∉ new := by
    rw [← Bool.not_eq_true, g.contains, not_or, Bool.not_eq_true]
  simp only [absent]
  constructor
  · rintro ⟨⟨once, once', apart⟩, free, free'⟩
    exact ⟨⟨once, free⟩, once', fun id hid => ⟨free' id hid, fun hn => apart id hn id hid rfl⟩⟩
  · rintro ⟨⟨once, free⟩, once', all⟩
    exact ⟨⟨once, once', fun a ha b hb same => (all b hb).2 (same ▸ ha)⟩, free,
      fun id hid => (all id hid).1⟩

/-- Old blocks with nothing new in their slots are as they were. -/
theorem alike (g : Grown v v' m m' new filled) {id : BlockId} (old : id ∉ new)
    (none : ∀ slot, ¬ filled ⟨id, slot⟩) : Alike v v' m m' id :=
  ⟨g.typeName? id old, g.fields? id old, fun slot => g.kept ⟨id, slot⟩ old (none slot)⟩

theorem typeAt? (g : Grown v v' m m' new filled) {id : BlockId} (old : id ∉ new) :
    v'.typeAt? id = v.typeAt? id := by
  rw [Workspace.typeAt?, Workspace.typeAt?, g.typeName? id old, g.palette]

theorem arity? (g : Grown v v' m m' new filled) {seat : Seat} (old : seat.owner ∉ new) :
    v'.arity? seat = v.arity? seat := by
  rw [Workspace.arity?, Workspace.arity?, g.typeAt? old]

end Grown

/-! ## Creating a block -/

theorem defaultFields_eq (type : BlockType) : defaultFields type = type.complete ∅ := by
  have general (fields : List FieldDecl) (table : NameTable FieldValue) (name : String) :
      (fields.foldl (fun table field => table.insert field.name field.default) table)[name]? =
        (fields.foldr (fun field (table : NameTable FieldValue) =>
          table.insertIfNew field.name field.default) ∅)[name]?.or table[name]? := by
    induction fields generalizing table with
    | nil => simp
    | cons field fields ih =>
        rw [List.foldl_cons, ih, List.foldr_cons, BlockType.getElem?_insertIfNew_eq_or,
          Option.or_assoc, Std.ExtTreeMap.getElem?_insert]
        by_cases same : field.name = name <;> simp [same]
  apply Std.ExtTreeMap.ext_getElem?
  intro name
  exact (general type.fields ∅ name).trans (by simp [BlockType.complete])

/-- The given fields put over the defaults are the given fields completed by defaults. -/
theorem insertMany_defaultFields (type : BlockType) (given : NameTable FieldValue) :
    (defaultFields type).insertMany given.toList = type.complete given := by
  apply Std.ExtTreeMap.ext_getElem?
  intro name
  rw [type.getElem?_complete, defaultFields_eq]
  cases held : given[name]? with
  | some value =>
      exact Std.ExtTreeMap.getElem?_insertMany_list_of_mem Std.ReflCmp.compare_self
        Std.ExtTreeMap.distinct_keys_toList
        (Std.ExtTreeMap.mem_toList_iff_getElem?_eq_some.2 held)
  | none =>
      have absent : name ∉ given := by
        rw [Std.ExtTreeMap.mem_iff_isSome_getElem?, held]
        exact Bool.false_ne_true
      rw [Std.ExtTreeMap.getElem?_insertMany_list_of_contains_eq_false (by simpa using absent),
        Option.none_or]

/-- What creating a block comes to. -/
structure Sprouted (v v' : Workspace) (m : Seat → List BlockId) (id : BlockId) (type : String)
    (declaration : BlockType) (fields : NameTable FieldValue) : Prop where
  grown : Grown v v' m m [id] fun _ => False
  roots : v'.roots = v.roots ++ [id]
  typed : v'.typeName? id = some type
  fields : v'.fields? id = some (declaration.complete fields)

theorem settles_createAs (h : Laid v m []) (t : Typed v) (id : BlockId) (type : String)
    (fields : NameTable FieldValue) :
    Settles
      (Fresh v [id] ∧ ∃ declaration, v.palette.get? type = some declaration ∧
        ∀ name ∈ fields, (declaration.field? name).isSome)
      (fun v' => ∃ declaration, v.palette.get? type = some declaration ∧
        Sprouted v v' m id type declaration fields)
      (v.createAs id type fields.toList) := by
  have listed (declaration : BlockType) :
      (∀ entry ∈ fields.toList, (declaration.field? entry.1).isSome) ↔
        ∀ name ∈ fields, (declaration.field? name).isSome := by
    constructor
    · intro all name held
      obtain ⟨value, same⟩ := Option.isSome_iff_exists.1 (Std.ExtTreeMap.isSome_getElem?_iff_mem.2 held)
      exact all (name, value) (Std.ExtTreeMap.mem_toList_iff_getElem?_eq_some.2 same)
    · intro all entry hentry
      have held := Std.ExtTreeMap.mem_toList_iff_getElem?_eq_some.1 hentry
      apply all
      rw [← Std.ExtTreeMap.isSome_getElem?_iff_mem, held]
      rfl
  have new : Fresh v [id] ↔ v.contains id = false := by simp [Fresh]
  cases made : v.createAs id type fields.toList with
  | error e =>
      rintro ⟨free, declaration, known, declared⟩
      have ok := createAs_eq_ok_iff.2 ⟨new.1 free, declaration, _, known,
        setFields_eq_ok_iff.2 ⟨(listed declaration).2 declared, rfl⟩, rfl⟩
      rw [made] at ok
      cases ok
  | ok v' =>
      obtain ⟨free, declaration, table, known, set, change⟩ := createAs_eq_ok_iff.1 made
      obtain ⟨declared, full⟩ := setFields_eq_ok_iff.1 set
      rw [insertMany_defaultFields] at full
      have created := created_insert free type table
      rw [← change] at created
      refine ⟨⟨new.2 free, declaration, known, (listed declaration).1 declared⟩, declaration, known,
        ⟨⟨created.laid h, created.typed t known fun name => mem_setFields set, created.palette,
          fun other => ?_, fun other ho => ?_, fun other ho => ?_, fun _ _ _ => rfl⟩, created.roots,
          ?_, ?_⟩⟩
      · rw [created.contains, List.mem_singleton, or_comm]
      · rw [created.types, Function.update_of_ne (List.ne_of_not_mem_cons ho)]
      · rw [created.fields, Function.update_of_ne (List.ne_of_not_mem_cons ho)]
      · rw [created.types, Function.update_self]
      · rw [created.fields, Function.update_self, full]

/-! ## Filling a slot -/

theorem ancestors_root (h : Laid v m []) {id : BlockId} (root : id ∈ v.roots) :
    v.ancestors id = [] := by
  rw [ancestors, ancestorsFrom_eq, ((h.mem_roots id).1 root).2.1]

/-- The last roots may be bound into an empty slot of another root if they fit there. -/
theorem settles_bind (h : Laid v m []) (t : Typed v) (seat : Seat) (input : SlotInput)
    {before : List BlockId} (roots : v.roots = before ++ input.members)
    (owner : seat.owner ∈ before) (empty : m seat = []) :
    Settles
      (v.arity? seat = some input.arity ∧ ∀ id ∈ input.members, v.Fits id seat)
      (fun v' => Grown v v' m (Function.update m seat input.members) [] (· = seat) ∧
        v'.roots = before)
      (v.bind seat.owner seat.slot input) := by
  have root : seat.owner ∈ v.roots := by simp [roots, owner]
  obtain ⟨-, distinct, apart⟩ := List.nodup_append.1 (roots ▸ h.roots_nodup)
  have able (arity : v.arity? seat = some input.arity) (fits : ∀ id ∈ input.members, v.Fits id seat) :
      Bindable v seat input := by
    refine ⟨arity, distinct, fun id hid => ?_, fits⟩
    rw [ancestors_root h root]
    exact ⟨fun same => apart _ owner id hid same.symm, List.not_mem_nil⟩
  cases made : v.bind seat.owner seat.slot input with
  | error e =>
      rintro ⟨arity, fits⟩
      have ok := bind_eq_ok_iff.2 ⟨able arity fits, rfl⟩
      rw [made] at ok
      cases ok
  | ok v' =>
      obtain ⟨able, rfl⟩ := bind_eq_ok_iff.1 made
      have bound := able.bound h t
      have free (id : BlockId) (hid : id ∈ input.members) (other : Seat) : id ∉ m other :=
        h.notMem_of_root (by simp [roots, hid])
      have same : ∀ other, Function.update m seat input.members other =
          Function.update (fun other => (m other).filter (· ∉ input.members)) seat
            input.members other := by
        intro other
        rw [Function.update_apply, Function.update_apply]
        split
        · rfl
        · exact (List.filter_eq_self.2 fun id hid => by
            simpa using fun hm => free id hm other hid).symm
      refine ⟨⟨able.arity, able.fits⟩, ⟨bound.laid.of_eq same, bound.typed, bound.blocks.palette,
        fun id => ?_, fun id _ => bound.blocks.typeName? id, fun id _ => bound.blocks.fields? id,
        fun other _ ho => Function.update_of_ne ho _ _⟩, ?_⟩
      · rw [bound.blocks.contains]
        simp
      · have stay : before.filter (· ∉ input.members) = before :=
          List.filter_eq_self.2 fun id hid => by simpa using fun hm => apart id hid id hm rfl
        have go : input.members.filter (· ∉ input.members) = [] := List.filter_eq_nil_iff.2 (by simp)
        rw [bound.roots, roots, empty, List.filter_append, stay, go, List.filter_nil,
          List.append_nil, List.append_nil]

/-! ## Planting trees -/

/-- Trees may be planted: all their ids are new, and everything in them is well formed. -/
def Plantable (v : Workspace) (trees : List BlockTree) : Prop :=
  Fresh v (idsOf trees) ∧ ∀ sub ∈ subtreesOf trees, sub.WellFormed v.palette

/-- Trees have been planted: they are the last roots and depict what has been added. -/
structure Planted (v v' : Workspace) (m m' : Seat → List BlockId) (trees : List BlockTree) : Prop where
  grown : Grown v v' m m' (idsOf trees) fun _ => False
  roots : v'.roots = v.roots ++ trees.map BlockTree.id
  depicts : Depicts v' m' trees

theorem Fresh.of_append {ids ids' : List BlockId} (fresh : Fresh v (ids ++ ids')) : Fresh v ids :=
  ⟨(List.nodup_append.1 fresh.1).1, (List.forall_mem_append.1 fresh.2).1⟩

theorem Plantable.of_append {trees rest : List BlockTree} (all : Plantable v (trees ++ rest)) :
    Plantable v trees := by
  unfold Plantable at all
  rw [idsOf_append, subtreesOf_append, List.forall_mem_append] at all
  exact ⟨all.1.of_append, all.2.1⟩

theorem Planted.plantable_append {trees : List BlockTree} (p : Planted v v' m m' trees)
    (rest : List BlockTree) :
    Plantable v (trees ++ rest) ↔ Plantable v trees ∧ Plantable v' rest := by
  unfold Plantable
  rw [idsOf_append, p.grown.fresh_append, subtreesOf_append, List.forall_mem_append,
    p.grown.palette]
  tauto

/-- What is planted later leaves what has been planted as it is. -/
theorem Planted.append {trees rest : List BlockTree} (p : Planted v v' m m' trees)
    (p' : Planted v' v'' m' m'' rest) (fresh : Fresh v' (idsOf rest)) :
    Planted v v'' m m'' (trees ++ rest) := by
  refine ⟨?_, ?_, Depicts.append.2 ⟨fun sub inside => ?_, p'.depicts⟩⟩
  · rw [idsOf_append]
    exact (p.grown.trans p'.grown).mono (by simp)
  · rw [p'.roots, p.roots, List.map_append, List.append_assoc]
  · have planted : v'.contains sub.id = true :=
      (p.grown.contains _).2 (.inr (List.mem_map_of_mem inside))
    have old : sub.id ∉ idsOf rest := fun new => by simp [fresh.2 _ new] at planted
    exact (p.depicts sub inside).of_alike p'.grown.palette (p'.grown.alike old fun _ => id)

/-- The tree is planted in every workspace of the palette that it may be planted in, and in no
other. -/
def SettlesPlant (palette : Palette) (tree : BlockTree) : Prop :=
  ∀ (v : Workspace) (m : Seat → List BlockId), Laid v m [] → Typed v → v.palette = palette →
    Settles (Plantable v [tree])
      (fun planted => planted.2 = some tree.id ∧ ∃ m', Planted v planted.1 m m' [tree])
      (v.plant tree)

theorem settles_plantMembers (h : Laid v m []) (t : Typed v) (same : v.palette = palette)
    {trees : List BlockTree} (each : ∀ tree ∈ trees, SettlesPlant palette tree) :
    Settles (Plantable v trees)
      (fun planted => planted.2 = trees.map BlockTree.id ∧ ∃ m', Planted v planted.1 m m' trees)
      (v.plantMembers trees) := by
  induction trees generalizing v m with
  | nil =>
      refine ⟨⟨⟨List.nodup_nil, by simp [idsOf, subtreesOf]⟩, by simp [subtreesOf]⟩, rfl, m,
        Grown.refl h t, by simp, by simp [Depicts, subtreesOf]⟩
  | cons tree rest ih =>
      obtain ⟨here, later⟩ := List.forall_mem_cons.1 each
      rw [plantMembers]
      refine (here v m h t same).bind (fun all => ?_) ?_
      · exact (show Plantable v ([tree] ++ rest) from all).of_append
      · rintro ⟨v₁, top⟩ first ⟨rfl, m₁, planted⟩
        have next := ih planted.grown.laid planted.grown.typed (planted.grown.palette.trans same) later
        refine next.bind (fun all : Plantable v (tree :: rest) => ?_) ?_
        · exact ((planted.plantable_append rest).1 all).2
        · rintro ⟨v₂, ids⟩ second ⟨rfl, m₂, planted'⟩
          exact ⟨(planted.plantable_append rest).2 ⟨first, second⟩, rfl, m₂,
            planted.append planted' second.1⟩

/-! ## Planting inputs -/

/-- The ids in some inputs. -/
def idsOfInputs (inputs : List TreeInput) : List BlockId :=
  (TreeInput.subtrees inputs).map BlockTree.id

theorem idsOfInputs_cons (input : TreeInput) (rest : List TreeInput) :
    idsOfInputs (input :: rest) = idsOf input.trees ++ idsOfInputs rest := by
  rw [idsOfInputs, TreeInput.subtrees_cons, List.map_append, idsOf, idsOfInputs]

/-- Inputs may be planted below a block of the given type: all their ids are new, everything in them
is well formed, and the slots take what they hold. -/
def PlantableInputs (v : Workspace) (owner : BlockType) (inputs : List TreeInput) : Prop :=
  Fresh v (idsOfInputs inputs) ∧ (∀ sub ∈ TreeInput.subtrees inputs, sub.WellFormed v.palette) ∧
    ∀ input ∈ inputs, ∀ arity, input.arity? = some arity →
      owner.Takes v.palette input.slot arity input.trees

/-- Inputs have been planted: the slots of the owner hold what they show. -/
structure PlantedInputs (v v' : Workspace) (m m' : Seat → List BlockId) (owner : BlockId)
    (inputs : List TreeInput) : Prop where
  grown : Grown v v' m m' (idsOfInputs inputs)
    fun seat => seat.owner = owner ∧ seat.slot ∈ inputs.map TreeInput.slot
  roots : v'.roots = v.roots
  depicts : ∀ sub ∈ TreeInput.subtrees inputs, Shows v' m' sub
  shows : ∀ input ∈ inputs, ShowsInput v' m' owner input

section Inputs

variable {owner : BlockId} {type : BlockType} {input : TreeInput} {rest : List TreeInput}

theorem PlantableInputs.cons (g : Grown v v' m m' (idsOf input.trees) fun seat =>
      seat = ⟨owner, input.slot⟩) :
    PlantableInputs v type (input :: rest) ↔
      (Plantable v input.trees ∧ ∀ arity, input.arity? = some arity →
        type.Takes v.palette input.slot arity input.trees) ∧ PlantableInputs v' type rest := by
  unfold PlantableInputs Plantable
  rw [idsOfInputs_cons, g.fresh_append, TreeInput.subtrees_cons, List.forall_mem_append,
    List.forall_mem_cons, g.palette]
  tauto

theorem PlantableInputs.head (all : PlantableInputs v type (input :: rest)) :
    Plantable v input.trees ∧ ∀ arity, input.arity? = some arity →
      type.Takes v.palette input.slot arity input.trees := by
  obtain ⟨fresh, formed, takes⟩ := all
  rw [idsOfInputs_cons] at fresh
  rw [TreeInput.subtrees_cons, List.forall_mem_append] at formed
  exact ⟨⟨fresh.of_append, formed.1⟩, takes input List.mem_cons_self⟩

/-- One slot of the owner has been filled. -/
structure PlantedSlot (v v' : Workspace) (m m' : Seat → List BlockId) (owner : BlockId)
    (input : TreeInput) : Prop where
  grown : Grown v v' m m' (idsOf input.trees) fun seat => seat = ⟨owner, input.slot⟩
  roots : v'.roots = v.roots
  depicts : Depicts v' m' input.trees
  shows : ShowsInput v' m' owner input

/-- The blocks offered to a slot for an input, once they have been planted. -/
def offer : TreeInput → List BlockId → SlotInput
  | .chain _ _, ids => .chain ids
  | _, ids => .single ids.headI

theorem offer_spec {input : TreeInput} (held : input.trees ≠ []) :
    input.arity? = some (offer input (input.trees.map BlockTree.id)).arity ∧
      (offer input (input.trees.map BlockTree.id)).members = input.trees.map BlockTree.id := by
  cases input with
  | empty slot => exact absurd rfl held
  | single slot child => exact ⟨rfl, rfl⟩
  | chain slot trees => exact ⟨rfl, rfl⟩

/-- Binding the planted members of an input into its slot. -/
theorem settles_plantSlot (h : Laid v m []) (t : Typed v) (same : v.palette = palette)
    (each : ∀ tree ∈ input.trees, SettlesPlant palette tree) (held : input.trees ≠ [])
    (root : owner ∈ v.roots) (typed : v.typeAt? owner = some type)
    (empty : m ⟨owner, input.slot⟩ = []) :
    Settles
      (Plantable v input.trees ∧ ∀ arity, input.arity? = some arity →
        type.Takes v.palette input.slot arity input.trees)
      (fun v' => ∃ m', PlantedSlot v v' m m' owner input)
      (v.plantMembers input.trees >>= fun planted =>
        planted.1.bind owner input.slot (offer input planted.2)) := by
  have alive := ((h.mem_roots owner).1 root).1
  refine (settles_plantMembers h t same each).bind And.left ?_
  rintro ⟨v₁, ids⟩ first ⟨rfl, m₁, planted⟩
  obtain ⟨kind, list⟩ := offer_spec held
  generalize offer input (input.trees.map BlockTree.id) = offered at kind list ⊢
  have low : owner ∉ idsOf input.trees := fun hid => by simp [first.1.2 owner hid] at alive
  have typed₁ := (planted.grown.typeAt? low).trans typed
  have empty₁ : m₁ ⟨owner, input.slot⟩ = [] := (planted.grown.kept _ low id).trans empty
  have bound := settles_bind planted.grown.laid planted.grown.typed ⟨owner, input.slot⟩
    offered (list ▸ planted.roots) root empty₁
  rw [list] at bound
  refine bound.imp ?_ fun fits v₂ ⟨grown, roots⟩ =>
    ⟨Function.update m₁ ⟨owner, input.slot⟩ (input.trees.map BlockTree.id), ?_, roots,
      fun sub inside => ?_, ?_⟩
  · rw [← planted.grown.palette]
    simp [first, kind, planted.depicts.takes_iff typed₁]
  · have all := planted.grown.trans grown
    rw [List.append_nil] at all
    exact all.mono fun seat filled => .inr (filled.resolve_left id)
  · have other : sub.id ≠ owner := fun same => low (same ▸ List.mem_map_of_mem inside)
    exact (planted.depicts sub inside).of_alike grown.palette
      (grown.alike List.not_mem_nil fun slot filled => other (congrArg Seat.owner filled))
  · refine ⟨Function.update_self .., fun arity here => ?_, fun none => absurd none held⟩
    rw [kind] at here
    cases here
    exact (grown.arity? List.not_mem_nil).trans fits.1

theorem PlantedSlot.append (p : PlantedSlot v v' m m' owner input)
    (p' : PlantedInputs v' v'' m' m'' owner rest) (new : input.slot ∉ rest.map TreeInput.slot)
    (fresh : Fresh v (idsOf input.trees)) (fresh' : Fresh v' (idsOfInputs rest))
    (alive : v.contains owner = true) : PlantedInputs v v'' m m'' owner (input :: rest) := by
  have alive' : v'.contains owner = true := (p.grown.contains owner).2 (.inl alive)
  have low : owner ∉ idsOfInputs rest := fun hid => by simp [fresh'.2 owner hid] at alive'
  refine ⟨?_, p'.roots.trans p.roots, ?_, List.forall_mem_cons.2 ⟨?_, p'.shows⟩⟩
  · rw [idsOfInputs_cons]
    refine (p.grown.trans p'.grown).mono fun seat filled => .inr ?_
    rcases filled with rfl | ⟨here, named⟩
    · exact ⟨rfl, List.mem_cons_self⟩
    · exact ⟨here, List.mem_cons_of_mem _ named⟩
  · rw [TreeInput.subtrees_cons, List.forall_mem_append]
    refine ⟨fun sub inside => ?_, p'.depicts⟩
    have mine : sub.id ∈ idsOf input.trees := List.mem_map_of_mem inside
    have planted : v'.contains sub.id = true := (p.grown.contains _).2 (.inr mine)
    have old : sub.id ∉ idsOfInputs rest := fun hid => by simp [fresh'.2 _ hid] at planted
    have other : sub.id ≠ owner := by
      intro same
      rw [← same, fresh.2 _ mine] at alive
      cases alive
    exact (p.depicts sub inside).of_alike p'.grown.palette
      (p'.grown.alike old fun slot filled => other filled.1)
  · refine ⟨?_, fun arity kind => ?_, p.shows.filled⟩
    · rw [p'.grown.kept ⟨owner, input.slot⟩ low fun filled => new filled.2]
      exact p.shows.members
    · exact (p'.grown.arity? low).trans (p.shows.arity arity kind)

theorem plantInputs_cons (v : Workspace) (owner : BlockId) (input : TreeInput)
    (rest : List TreeInput) :
    v.plantInputs owner (input :: rest) =
      v.plantMembers input.trees >>= fun planted =>
        if planted.2.isEmpty then planted.1.plantInputs owner rest
        else planted.1.bind owner input.slot (offer input planted.2) >>= fun w =>
          w.plantInputs owner rest := by
  cases input with
  | empty slot => rfl
  | single slot child =>
      rw [plantInputs, TreeInput.trees, plantMembers]
      cases v.plant child with
      | error e => rfl
      | ok planted =>
          obtain ⟨v', top⟩ := planted
          cases top <;> rfl
  | chain slot trees => rw [plantInputs]; rfl

theorem settles_plantInputs (h : Laid v m []) (t : Typed v) (same : v.palette = palette)
    {inputs : List TreeInput}
    (each : ∀ input ∈ inputs, ∀ tree ∈ input.trees, SettlesPlant palette tree)
    (filled : ∀ input ∈ inputs, input.trees = [] → input = .empty input.slot)
    (keyed : (inputs.map TreeInput.slot).Nodup) (root : owner ∈ v.roots)
    (typed : v.typeAt? owner = some type) (empty : ∀ input ∈ inputs, m ⟨owner, input.slot⟩ = []) :
    Settles (PlantableInputs v type inputs) (fun v' => ∃ m', PlantedInputs v v' m m' owner inputs)
      (v.plantInputs owner inputs) := by
  induction inputs generalizing v m with
  | nil =>
      exact ⟨⟨⟨List.nodup_nil, List.forall_mem_nil _⟩, List.forall_mem_nil _, List.forall_mem_nil _⟩,
        m, (Grown.refl h t).mono (by simp), rfl, List.forall_mem_nil _, List.forall_mem_nil _⟩
  | cons input rest ih =>
      obtain ⟨eachHere, eachLater⟩ := List.forall_mem_cons.1 each
      obtain ⟨filledHere, filledLater⟩ := List.forall_mem_cons.1 filled
      obtain ⟨emptyHere, emptyLater⟩ := List.forall_mem_cons.1 empty
      obtain ⟨once, keyed⟩ := List.nodup_cons.1 keyed
      have alive := ((h.mem_roots owner).1 root).1
      -- once a slot has been filled, the others can be dealt with as before
      have go {v₁ : Workspace} {m₁ : Seat → List BlockId} (slot : PlantedSlot v v₁ m m₁ owner input)
          (allowed : Plantable v input.trees ∧ ∀ arity, input.arity? = some arity →
            type.Takes v.palette input.slot arity input.trees) :
          Settles (PlantableInputs v type (input :: rest))
            (fun v' => ∃ m', PlantedInputs v v' m m' owner (input :: rest))
            (v₁.plantInputs owner rest) := by
        have low : owner ∉ idsOf input.trees := fun hid => by
          simp [allowed.1.1.2 owner hid] at alive
        have next := ih slot.grown.laid slot.grown.typed (slot.grown.palette.trans same) eachLater
          filledLater keyed (slot.roots ▸ root) ((slot.grown.typeAt? low).trans typed)
          fun other ho => (slot.grown.kept ⟨owner, other.slot⟩ low fun same => ?_).trans
            (emptyLater other ho)
        · refine next.imp ?_ fun fits v₂ ⟨m₂, planted⟩ =>
            ⟨m₂, slot.append planted once allowed.1.1 fits.1 alive⟩
          rw [PlantableInputs.cons slot.grown]
          exact and_iff_right allowed
        · have apart := ne_of_mem_of_not_mem (List.mem_map_of_mem ho) once
          exact apart (congrArg Seat.slot same)
      by_cases held : input.trees = []
      · obtain ⟨slot, rfl⟩ : ∃ slot, input = .empty slot := ⟨_, filledHere held⟩
        have still : PlantedSlot v v m m owner (.empty slot) :=
          ⟨(Grown.refl h t).mono (by simp), rfl, List.forall_mem_nil _, emptyHere,
            fun _ none => (by cases none), fun _ => rfl⟩
        exact go still ⟨⟨⟨List.nodup_nil, List.forall_mem_nil _⟩, List.forall_mem_nil _⟩,
          fun _ none => (by cases none)⟩
      · have planting : v.plantInputs owner (input :: rest) =
            (v.plantMembers input.trees >>= fun planted =>
              planted.1.bind owner input.slot (offer input planted.2)) >>= fun w =>
                w.plantInputs owner rest := by
          rw [plantInputs_cons]
          cases made : v.plantMembers input.trees with
          | error e => rfl
          | ok planted =>
              obtain ⟨ids, -⟩ := (settles_plantMembers h t same eachHere).good_of_ok made
              have some : planted.2.isEmpty = false := by simp [ids, held]
              change (if planted.2.isEmpty then _ else _) = _
              rw [some]
              rfl
        rw [planting]
        exact (settles_plantSlot h t same eachHere held root typed emptyHere).bind
          PlantableInputs.head fun v₁ allowed ⟨m₁, slot⟩ => go slot allowed

end Inputs

/-! ## Planting a tree -/

theorem idsOf_singleton (tree : BlockTree) :
    idsOf [tree] = [tree.id] ++ idsOfInputs tree.inputs := by
  rw [idsOf, subtreesOf, subtreesOf, List.append_nil, BlockTree.subtrees_eq]
  rfl

theorem subtreesOf_singleton (tree : BlockTree) :
    subtreesOf [tree] = tree :: TreeInput.subtrees tree.inputs := by
  rw [subtreesOf, subtreesOf, List.append_nil, BlockTree.subtrees_eq]

theorem Plantable.top {tree : BlockTree} (all : Plantable v [tree]) :
    Fresh v [tree.id] ∧ ∃ declaration, v.palette.get? tree.type = some declaration ∧
      ∀ name ∈ tree.fields, (declaration.field? name).isSome := by
  obtain ⟨fresh, formed⟩ := all
  rw [idsOf_singleton] at fresh
  rw [subtreesOf_singleton, List.forall_mem_cons] at formed
  obtain ⟨⟨declaration, known, declared, -⟩, -⟩ := formed
  exact ⟨fresh.of_append, declaration, known, declared⟩

/-- Once the top of a tree has been created, its inputs are what is left to plant. -/
theorem plantable_iff_inputs {tree : BlockTree} {declaration : BlockType}
    (known : v.palette.get? tree.type = some declaration)
    (declared : ∀ name ∈ tree.fields, (declaration.field? name).isSome)
    (fresh : Fresh v [tree.id]) (g : Grown v v' m m' [tree.id] fun _ => False) :
    Plantable v [tree] ↔ PlantableInputs v' declaration tree.inputs := by
  have formed : tree.WellFormed v.palette ↔ ∀ input ∈ tree.inputs, ∀ arity,
      input.arity? = some arity →
        declaration.Takes v.palette input.slot arity input.trees := by
    unfold BlockTree.WellFormed
    rw [known]
    constructor
    · rintro ⟨_, ⟨⟩, -, takes⟩
      exact takes
    · exact fun takes => ⟨declaration, rfl, declared, takes⟩
  unfold Plantable PlantableInputs
  rw [idsOf_singleton, g.fresh_append, subtreesOf_singleton, List.forall_mem_cons, formed, g.palette]
  tauto

/-- The top of a tree and its inputs make up the tree. -/
theorem Sprouted.planted {tree : BlockTree} {declaration : BlockType} (h : Laid v m [])
    (sprouted : Sprouted v v' m tree.id tree.type declaration tree.fields)
    (inputs : PlantedInputs v' v'' m m' tree.id tree.inputs)
    (known : v.palette.get? tree.type = some declaration) (whole : tree.Whole)
    (new : v.contains tree.id = false) (fresh : Fresh v' (idsOfInputs tree.inputs)) :
    Planted v v'' m m' [tree] := by
  have grown := sprouted.grown.trans inputs.grown
  have alive : v'.contains tree.id = true :=
    (sprouted.grown.contains _).2 (.inr (List.mem_singleton_self _))
  have low : tree.id ∉ idsOfInputs tree.inputs := fun hid => by simp [fresh.2 _ hid] at alive
  refine ⟨?_, ?_, ?_⟩
  · rw [idsOf_singleton]
    refine grown.mono fun seat filled => .inl ?_
    rw [(filled.resolve_left id).1]
    exact List.mem_cons_self
  · rw [inputs.roots, sprouted.roots]
    rfl
  · unfold Depicts
    rw [subtreesOf_singleton, List.forall_mem_cons]
    refine ⟨⟨whole.given, ?_, ⟨declaration, ?_, ?_⟩, whole.keyed, fun slot some => ?_,
      inputs.shows⟩, inputs.depicts⟩
    · rw [inputs.grown.typeName? _ low, sprouted.typed]
    · rw [grown.palette, known]
    · rw [inputs.grown.fields? _ low, sprouted.fields]
    · by_contra other
      apply some
      rw [inputs.grown.kept ⟨tree.id, slot⟩ low fun filled => other filled.2]
      exact h.members_eq_nil new

/-- A whole tree is planted wherever it may be planted, and nowhere else. -/
theorem settles_plant {tree : BlockTree} (whole : ∀ sub ∈ tree.subtrees, sub.Whole) :
    SettlesPlant palette tree := by
  induction tree using BlockTree.child_induction with
  | step tree ih =>
      intro v m h t same
      have top := whole tree tree.self_mem_subtrees
      have planting : v.plant tree =
          v.createAs tree.id tree.type tree.fields.toList >>= fun w =>
            w.plantInputs tree.id tree.inputs >>= fun w => pure (w, some tree.id) := by
        have given := top.given
        cases tree with
        | mk id type fields inputs next revisited =>
            cases given
            rw [plant]
            rfl
      rw [planting]
      refine (settles_createAs h t _ _ _).bind Plantable.top ?_
      rintro v₁ ⟨fresh, declaration, known, declared⟩ ⟨_, known', sprouted⟩
      obtain rfl := Option.some.inj (known.symm.trans known')
      have new : v.contains tree.id = false := fresh.2 _ List.mem_cons_self
      have typed : v₁.typeAt? tree.id = some declaration := by
        rw [Workspace.typeAt?, sprouted.typed, Option.bind_some, sprouted.grown.palette, known]
      have inputs := settles_plantInputs sprouted.grown.laid sprouted.grown.typed
        (sprouted.grown.palette.trans same)
        (fun input given child held => ih input given child held fun sub below =>
          whole sub (BlockTree.mem_subtrees_of_child given held below))
        top.filled top.keyed (by simp [sprouted.roots]) typed fun _ _ => h.members_eq_nil new
      have same := plantable_iff_inputs known declared fresh sprouted.grown
      refine inputs.bind same.1 ?_
      rintro v₂ fits ⟨m₂, filled⟩
      exact ⟨same.2 fits, rfl, m₂, sprouted.planted h filled known top new fits.1⟩

end Workspace

end SolanaBlocks
