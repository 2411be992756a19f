import SolanaBlocks.Proofs.Forest.Descent
import SolanaBlocks.Proofs.Forest.Kinds
import SolanaBlocks.Proofs.Trees.Normal

/-!
# Trees that show a workspace

A tree shows a block of a workspace if it gives its type, its fields up to defaults, and all that its
slots hold. Trees depict a workspace if everything in them is shown. Trees in normal form are
determined by what they depict, and blocks by the trees that depict them.
-/

namespace SolanaBlocks

namespace Workspace

variable {w v : Workspace} {members m : Seat → List BlockId}

/-- The input names what a slot of the block holds. -/
structure ShowsInput (w : Workspace) (members : Seat → List BlockId) (owner : BlockId)
    (input : TreeInput) : Prop where
  members : members ⟨owner, input.slot⟩ = input.trees.map BlockTree.id
  arity : ∀ arity, input.arity? = some arity → w.arity? ⟨owner, input.slot⟩ = some arity
  filled : input.trees = [] → input = .empty input.slot

/-- The tree shows the block of its id: its type, its fields up to defaults, and what its slots
hold. -/
structure Shows (w : Workspace) (members : Seat → List BlockId) (tree : BlockTree) : Prop where
  given : tree.revisited = false
  typed : w.typeName? tree.id = some tree.type
  fields : ∃ declaration, w.palette.get? tree.type = some declaration ∧
    w.fields? tree.id = some (declaration.complete tree.fields)
  keyed : (tree.inputs.map TreeInput.slot).Nodup
  all : ∀ slot, members ⟨tree.id, slot⟩ ≠ [] → slot ∈ tree.inputs.map TreeInput.slot
  inputs : ∀ input ∈ tree.inputs, ShowsInput w members tree.id input

/-- The trees show what they name, and everything below it. -/
def Depicts (w : Workspace) (members : Seat → List BlockId) (trees : List BlockTree) : Prop :=
  ∀ sub ∈ subtreesOf trees, Shows w members sub

theorem Depicts.append {trees trees' : List BlockTree} :
    Depicts w members (trees ++ trees') ↔ Depicts w members trees ∧ Depicts w members trees' := by
  unfold Depicts
  rw [subtreesOf_append, List.forall_mem_append]

theorem Depicts.singleton {tree : BlockTree} :
    Depicts w members [tree] ↔ ∀ sub ∈ tree.subtrees, Shows w members sub := by
  unfold Depicts
  rw [subtreesOf, subtreesOf, List.append_nil]

/-- What an input of a subtree holds is depicted. -/
theorem Depicts.input {trees : List BlockTree} (depicts : Depicts w members trees) {sub : BlockTree}
    (inside : sub ∈ subtreesOf trees) {input : TreeInput} (given : input ∈ sub.inputs) :
    Depicts w members input.trees := by
  intro other below
  obtain ⟨child, held, below⟩ := mem_subtreesOf.1 below
  obtain ⟨tree, top, inside⟩ := mem_subtreesOf.1 inside
  exact depicts other (mem_subtreesOf.2 ⟨tree, top,
    BlockTree.subtrees_trans (BlockTree.mem_subtrees_of_child given held below) inside⟩)

/-- Whether a slot takes trees is whether the blocks that they show fit there. -/
theorem Depicts.takes_iff {trees : List BlockTree} (depicts : Depicts w members trees)
    {owner : BlockId} {type : BlockType} (typed : w.typeAt? owner = some type) (slot : String)
    (arity : SlotArity) :
    type.Takes w.palette slot arity trees ↔
      w.arity? ⟨owner, slot⟩ = some arity ∧
        ∀ id ∈ trees.map BlockTree.id, w.Fits id ⟨owner, slot⟩ := by
  have kind : w.arity? ⟨owner, slot⟩ = (type.slot? slot).map SlotDecl.arity := by
    rw [Workspace.arity?, typed, Option.bind_some]
  have types {tree : BlockTree} (h : tree ∈ trees) :
      w.typeAt? tree.id = w.palette.get? tree.type := by
    have shown := depicts tree (mem_subtreesOf.2 ⟨tree, h, tree.self_mem_subtrees⟩)
    rw [Workspace.typeAt?, shown.typed, Option.bind_some]
  constructor
  · rintro ⟨declaration, declared, rfl, fits⟩
    have arity : w.arity? ⟨owner, slot⟩ = some declaration.arity := by
      rw [kind, declared, Option.map_some]
    refine ⟨arity, fun id hid => ?_⟩
    obtain ⟨tree, h, rfl⟩ := List.mem_map.1 hid
    obtain ⟨child, known, fit⟩ := fits tree h
    exact ⟨declaration.arity, child, arity, (types h).trans known, fit⟩
  · rintro ⟨declared, fits⟩
    have found := declared
    rw [kind] at found
    obtain ⟨declaration, there, rfl⟩ := Option.map_eq_some_iff.1 found
    refine ⟨declaration, there, rfl, fun tree h => ?_⟩
    obtain ⟨arity, child, declared', typed', fit⟩ := fits tree.id (List.mem_map_of_mem h)
    rw [declared] at declared'
    cases declared'
    exact ⟨child, (types h).symm.trans typed', fit⟩

/-- Trees that show blocks are well formed. -/
theorem Depicts.wellFormed (h : Laid w members []) (t : Typed w) {trees : List BlockTree}
    (depicts : Depicts w members trees) :
    ∀ sub ∈ subtreesOf trees, sub.WellFormed w.palette := by
  intro sub inside
  have shown := depicts sub inside
  obtain ⟨declaration, known, given⟩ := shown.fields
  have typed : w.typeAt? sub.id = some declaration := by
    rw [Workspace.typeAt?, shown.typed, Option.bind_some, known]
  refine ⟨declaration, known, fun name held => ?_, fun input named arity kind => ?_⟩
  · rw [← t.keyed sub.id declaration _ typed given name, ← Std.ExtTreeMap.isSome_getElem?_iff_mem,
      declaration.getElem?_complete, Option.isSome_or]
    rw [← Std.ExtTreeMap.isSome_getElem?_iff_mem] at held
    rw [held, Bool.true_or]
  · have inner := depicts.input inside named
    have slot := shown.inputs input named
    refine (inner.takes_iff typed _ _).2 ⟨slot.arity arity kind, fun id hid => ?_⟩
    rw [← slot.members] at hid
    exact t.fitting id _ ((h.mem_members _ id).1 hid)

/-! ## Two workspaces -/

/-- Two workspaces have the same block under an id, with the same members in its slots. -/
structure Alike (w v : Workspace) (members m : Seat → List BlockId) (id : BlockId) : Prop where
  typeName? : v.typeName? id = w.typeName? id
  fields? : v.fields? id = w.fields? id
  members : ∀ slot, m ⟨id, slot⟩ = members ⟨id, slot⟩

/-- A tree goes on showing a block that stays as it is. -/
theorem Shows.of_alike {tree : BlockTree} (shows : Shows w members tree)
    (palette : v.palette = w.palette) (same : Alike w v members m tree.id) : Shows v m tree := by
  refine ⟨shows.given, same.typeName?.trans shows.typed, ?_, shows.keyed, fun slot some => ?_,
    fun input given => ?_⟩
  · rw [palette, same.fields?]
    exact shows.fields
  · rw [same.members] at some
    exact shows.all slot some
  · obtain ⟨list, arity, filled⟩ := shows.inputs input given
    refine ⟨(same.members _).trans list, fun kind here => ?_, filled⟩
    rw [← arity kind here, Workspace.arity?, Workspace.arity?, Workspace.typeAt?,
      Workspace.typeAt?, same.typeName?, palette]

/-- Blocks that one tree shows are alike. -/
theorem Shows.alike {tree : BlockTree} (shows : Shows w members tree) (shows' : Shows v m tree)
    (palette : v.palette = w.palette) : Alike w v members m tree.id := by
  refine ⟨shows'.typed.trans shows.typed.symm, ?_, fun slot => ?_⟩
  · obtain ⟨declaration, known, given⟩ := shows.fields
    obtain ⟨declaration', known', given'⟩ := shows'.fields
    rw [palette, known] at known'
    cases known'
    rw [given, given']
  · by_cases named : slot ∈ tree.inputs.map TreeInput.slot
    · obtain ⟨input, given, rfl⟩ := List.mem_map.1 named
      rw [(shows.inputs input given).members, (shows'.inputs input given).members]
    · rw [not_not.1 fun some => named (shows.all slot some),
        not_not.1 fun some => named (shows'.all slot some)]

/-! ## Normal forms -/

/-- An input that holds something is for a slot that the type of the block declares. -/
theorem ShowsInput.declared {owner : BlockId} {type : BlockType} {input : TreeInput}
    (shows : ShowsInput w members owner input) (typed : w.typeAt? owner = some type)
    (some : members ⟨owner, input.slot⟩ ≠ []) : input.slot ∈ type.slots.map SlotDecl.name := by
  have kind : ∃ arity, input.arity? = Option.some arity := by
    cases input with
    | empty slot => exact absurd shows.members some
    | single slot child => exact ⟨_, rfl⟩
    | chain slot trees => exact ⟨_, rfl⟩
  obtain ⟨arity, kind⟩ := kind
  have declared := shows.arity arity kind
  rw [Workspace.arity?, typed] at declared
  obtain ⟨declaration, found, -⟩ := Option.map_eq_some_iff.1 declared
  have named : declaration.name = input.slot := by simpa using List.find?_some found
  exact List.mem_map.2 ⟨declaration, List.mem_of_find?_eq_some found, named⟩

/-- The normal form shows the same block. -/
theorem Shows.normal {tree : BlockTree} (shows : Shows w members tree)
    (follower : Option BlockId) : Shows w members (tree.normal w.palette follower) := by
  obtain ⟨declaration, known, given⟩ := shows.fields
  have typed : w.typeAt? tree.id = some declaration := by
    rw [Workspace.typeAt?, shows.typed, Option.bind_some, known]
  rw [BlockTree.normal_eq known]
  refine ⟨shows.given, shows.typed, ⟨declaration, known, ?_⟩, (TreeInput.sorted_arrange _ _).nodup,
    fun slot some => TreeInput.slot_mem_arrange.2 ?_, fun input arranged => ?_⟩
  · refine given.trans (congrArg some ?_)
    exact (declaration.complete_complete tree.fields).symm
  · obtain ⟨input, given, rfl⟩ := List.mem_map.1 (shows.all slot some)
    exact (shows.inputs input given).declared typed some
  · rcases TreeInput.mem_arrange_cases arranged with there | ⟨absent, none⟩
    · obtain ⟨input, given, rfl⟩ := List.mem_map.1 there
      obtain ⟨list, arity, filled⟩ := shows.inputs input given
      refine ⟨?_, ?_, fun none => ?_⟩
      · rwa [TreeInput.slot_normal, TreeInput.ids_trees_normal]
      · rwa [TreeInput.slot_normal, TreeInput.arity?_normal]
      · have none : input.trees = [] := by
          rw [← List.map_eq_nil_iff (f := BlockTree.id), ← TreeInput.ids_trees_normal w.palette,
            none]
          rfl
        rw [filled none]
        rfl
    · rw [none]
      refine ⟨?_, fun arity here => (by cases here), fun _ => rfl⟩
      by_contra some
      have named := shows.all input.slot some
      exact absent (by simpa [Function.comp_def] using named)

/-- The kind of an input is told by what it holds and by its slot. -/
theorem ShowsInput.arity?_eq {owner : BlockId} {input : TreeInput}
    (shows : ShowsInput w members owner input) :
    input.arity? = if input.trees = [] then none else w.arity? ⟨owner, input.slot⟩ := by
  by_cases none : input.trees = []
  · rw [if_pos none, shows.filled none]
    rfl
  · rw [if_neg none]
    cases input with
    | empty slot => exact absurd rfl none
    | single slot child => exact (shows.arity _ rfl).symm
    | chain slot trees => exact (shows.arity _ rfl).symm

theorem Shows.fields_eq {tree : BlockTree} (shows : Shows w members tree)
    {declaration : BlockType} (known : w.palette.get? tree.type = some declaration)
    (full : declaration.complete tree.fields = tree.fields) : w.fields? tree.id = some tree.fields := by
  obtain ⟨other, known', given⟩ := shows.fields
  rw [known] at known'
  cases known'
  rw [given, full]

theorem eq_of_map_eq {α β : Type} {f : α → β} {list list' : List α}
    (unique : ∀ a ∈ list, ∀ b ∈ list', f a = f b → a = b) (same : list.map f = list'.map f) :
    list = list' := by
  induction list generalizing list' with
  | nil => exact (List.map_eq_nil_iff.1 same.symm).symm
  | cons a list ih =>
      cases list' with
      | nil => cases same
      | cons b list' =>
          obtain ⟨first, rest⟩ := List.cons.inj same
          rw [unique a List.mem_cons_self b List.mem_cons_self first,
            ih (fun x hx y hy => unique x (List.mem_cons_of_mem a hx) y (List.mem_cons_of_mem b hy))
              rest]

/-- Trees are told by their ids and successors if that is so for each of them. -/
theorem eq_of_ids_of_nexts {trees trees' : List BlockTree}
    (unique : ∀ tree ∈ trees, ∀ tree' ∈ trees', tree.id = tree'.id → tree.next = tree'.next →
      tree = tree')
    (ids : trees.map BlockTree.id = trees'.map BlockTree.id)
    (nexts : trees.map BlockTree.next = trees'.map BlockTree.next) : trees = trees' := by
  refine eq_of_map_eq (f := fun tree => (tree.id, tree.next)) (fun tree h tree' h' same => ?_) ?_
  · obtain ⟨id, next⟩ := Prod.mk.inj same
    exact unique tree h tree' h' id next
  · rw [← List.zip_map', ← List.zip_map', ids, nexts]

/-- Normal forms that show the same block with the same successor are the same. -/
theorem Shows.eq_of_normal {tree tree' : BlockTree}
    (shows : ∀ sub ∈ tree.subtrees, Shows w members sub ∧ sub.Normal w.palette)
    (shows' : ∀ sub ∈ tree'.subtrees, Shows w members sub ∧ sub.Normal w.palette)
    (id : tree.id = tree'.id) (next : tree.next = tree'.next) : tree = tree' := by
  induction tree using BlockTree.child_induction generalizing tree' with
  | step tree ih =>
      obtain ⟨shown, normal⟩ := shows tree tree.self_mem_subtrees
      obtain ⟨shown', normal'⟩ := shows' tree' tree'.self_mem_subtrees
      have type : tree.type = tree'.type := by
        have typed := shown.typed
        rw [id, shown'.typed] at typed
        exact (Option.some.inj typed).symm
      obtain ⟨declaration, known, full, slots⟩ := normal.full
      obtain ⟨declaration', known', full', slots'⟩ := normal'.full
      obtain rfl : declaration' = declaration := by
        rw [type, known'] at known
        exact Option.some.inj known
      have fields : tree.fields = tree'.fields := by
        have given := shown.fields_eq known full
        rw [id, shown'.fields_eq (type ▸ known) full'] at given
        exact (Option.some.inj given).symm
      have inputs : tree.inputs = tree'.inputs := by
        refine eq_of_map_eq (f := TreeInput.slot) (fun input given input' given' slot => ?_)
          (normal.sorted.slots_eq normal'.sorted fun slot => (slots slot).trans (slots' slot).symm)
        have lists := (shown.inputs input given).members
        rw [id, slot, (shown'.inputs input' given').members] at lists
        have nexts : input.trees.map BlockTree.next = input'.trees.map BlockTree.next := by
          rw [normal.linked input given, normal'.linked input' given', lists]
        have trees := eq_of_ids_of_nexts (fun child held child' held' => ih input given child held
          (fun sub below => shows sub (BlockTree.mem_subtrees_of_child given held below))
          fun sub below => shows' sub (BlockTree.mem_subtrees_of_child given' held' below))
          lists.symm nexts
        apply TreeInput.ext slot _ trees
        rw [(shown.inputs input given).arity?_eq, (shown'.inputs input' given').arity?_eq, trees,
          id, slot]
      cases tree
      cases tree'
      cases id
      cases type
      cases fields
      cases inputs
      cases next
      cases shown.given.trans shown'.given.symm
      rfl

/-- Normal forms that depict the same blocks with the same successors are the same. -/
theorem Depicts.eq_of_normal {trees trees' : List BlockTree} (depicts : Depicts w members trees)
    (depicts' : Depicts w members trees') (normal : ∀ sub ∈ subtreesOf trees, sub.Normal w.palette)
    (normal' : ∀ sub ∈ subtreesOf trees', sub.Normal w.palette)
    (ids : trees.map BlockTree.id = trees'.map BlockTree.id)
    (nexts : trees.map BlockTree.next = trees'.map BlockTree.next) : trees = trees' := by
  have shows (sub : BlockTree) (inside : sub ∈ subtreesOf trees) :
      Shows w members sub ∧ sub.Normal w.palette := ⟨depicts sub inside, normal sub inside⟩
  have shows' (sub : BlockTree) (inside : sub ∈ subtreesOf trees') :
      Shows w members sub ∧ sub.Normal w.palette := ⟨depicts' sub inside, normal' sub inside⟩
  refine eq_of_ids_of_nexts (fun tree h tree' h' => ?_) ids nexts
  exact Shows.eq_of_normal (fun sub below => shows sub (mem_subtreesOf.2 ⟨tree, h, below⟩))
    fun sub below => shows' sub (mem_subtreesOf.2 ⟨tree', h', below⟩)

/-! ## What lies below -/

/-- The ids in a tree that shows a block are what lies below the block. -/
theorem mem_ids_iff_below (h : Laid w members []) {tree : BlockTree}
    (shows : ∀ sub ∈ tree.subtrees, Shows w members sub) (x : BlockId) :
    x ∈ tree.subtrees.map BlockTree.id ↔ w.Below x tree.id := by
  constructor
  · intro hx
    obtain ⟨sub, inside, rfl⟩ := List.mem_map.1 hx
    clear hx
    induction tree using BlockTree.child_induction with
    | step tree ih =>
        rcases BlockTree.mem_subtrees.1 inside with rfl | ⟨input, given, child, held, below⟩
        · exact Below.refl
        · have owned : w.OwnedBy child.id tree.id := by
            refine h.ownedBy_iff.2 ⟨input.slot, ?_⟩
            rw [((shows tree tree.self_mem_subtrees).inputs input given).members]
            exact List.mem_map_of_mem held
          have under := ih input given child held
            (fun other below => shows other (BlockTree.mem_subtrees_of_child given held below)) below
          exact under.trans (Relation.ReflTransGen.single owned)
  · intro below
    induction below using Relation.ReflTransGen.head_induction_on with
    | refl => exact List.mem_map_of_mem tree.self_mem_subtrees
    | head owned _ ih =>
        obtain ⟨sub, inside, rfl⟩ := List.mem_map.1 ih
        obtain ⟨slot, member⟩ := h.ownedBy_iff.1 owned
        have shown := shows sub inside
        obtain ⟨input, given, rfl⟩ := List.mem_map.1 (shown.all slot (List.ne_nil_of_mem member))
        rw [(shown.inputs input given).members] at member
        obtain ⟨child, held, rfl⟩ := List.mem_map.1 member
        exact List.mem_map_of_mem (BlockTree.subtrees_trans
          (BlockTree.mem_subtrees_of_child given held child.self_mem_subtrees) inside)

theorem nodup_idsOf (h : Laid w members []) {trees : List BlockTree}
    (depicts : Depicts w members trees) (alive : ∀ tree ∈ trees, w.contains tree.id = true)
    (distinct : (trees.map BlockTree.id).Nodup)
    (siblings : ∀ tree ∈ trees, ∀ tree' ∈ trees, w.owner? tree.id = w.owner? tree'.id)
    (each : ∀ tree ∈ trees, (tree.subtrees.map BlockTree.id).Nodup) : (idsOf trees).Nodup := by
  have below {tree : BlockTree} (here : tree ∈ trees) (x : BlockId) :=
    mem_ids_iff_below h (fun sub inside => depicts sub (mem_subtreesOf.2 ⟨tree, here, inside⟩)) x
  rw [idsOf, subtreesOf_eq_flatMap, List.map_flatMap, List.nodup_flatMap]
  refine ⟨each, (List.pairwise_map.1 distinct).imp_of_mem fun {tree tree'} here here' apart => ?_⟩
  intro x hx hx'
  rw [below here] at hx
  rw [below here'] at hx'
  have rooted := h.rooted x (hx.contains (alive tree here))
  exact apart (hx.unique hx' rooted (siblings tree here tree' here'))

/-- No id comes twice in a tree that shows a block. -/
theorem nodup_ids (h : Laid w members []) {tree : BlockTree}
    (shows : ∀ sub ∈ tree.subtrees, Shows w members sub) :
    (tree.subtrees.map BlockTree.id).Nodup := by
  induction tree using BlockTree.child_induction with
  | step tree ih =>
      have shown := shows tree tree.self_mem_subtrees
      have inner {input : TreeInput} (given : input ∈ tree.inputs) :
          Depicts w members input.trees :=
        (Depicts.singleton.2 shows).input
          (mem_subtreesOf.2 ⟨tree, List.mem_singleton_self tree, tree.self_mem_subtrees⟩) given
      have member {input : TreeInput} (given : input ∈ tree.inputs) {child : BlockTree}
          (held : child ∈ input.trees) : child.id ∈ members ⟨tree.id, input.slot⟩ := by
        rw [(shown.inputs input given).members]
        exact List.mem_map_of_mem held
      have below {input : TreeInput} (given : input ∈ tree.inputs) {x : BlockId}
          (hx : x ∈ idsOf input.trees) :
          ∃ id ∈ members ⟨tree.id, input.slot⟩, w.Below x id := by
        obtain ⟨sub, inside, rfl⟩ := List.mem_map.1 hx
        obtain ⟨child, held, inside⟩ := mem_subtreesOf.1 inside
        refine ⟨child.id, member given held, ?_⟩
        exact (mem_ids_iff_below h (fun sub inside =>
          inner given sub (mem_subtreesOf.2 ⟨child, held, inside⟩)) _).1 (List.mem_map_of_mem inside)
      rw [BlockTree.subtrees_eq, TreeInput.subtrees_eq_flatMap, List.map_cons, List.nodup_cons,
        List.map_flatMap]
      refine ⟨fun again => ?_, List.nodup_flatMap.2 ⟨fun input given => ?_, ?_⟩⟩
      · obtain ⟨input, given, again⟩ := List.mem_flatMap.1 again
        obtain ⟨id, hid, above⟩ := below given again
        have owned := h.ownedBy_iff.2 ⟨input.slot, hid⟩
        exact h.not_below_owner owned above
      · refine nodup_idsOf h (inner given) (fun child held => h.contains_of_mem (member given held))
          ?_ (fun child held child' held' => ?_) fun child held => ih input given child held ?_
        · rw [← (shown.inputs input given).members]
          exact h.nodup _
        · rw [owner?, owner?, (h.mem_members _ _).1 (member given held),
            (h.mem_members _ _).1 (member given held')]
        · exact fun sub inside => inner given sub (mem_subtreesOf.2 ⟨child, held, inside⟩)
      · refine (List.pairwise_map.1 shown.keyed).imp_of_mem
          fun {input input'} given given' apart => ?_
        intro x hx hx'
        obtain ⟨id, hid, under⟩ := below given hx
        obtain ⟨id', hid', under'⟩ := below given' hx'
        exact apart (h.below_unique hid hid' under under'
          (under.contains (h.contains_of_mem hid))).1

end Workspace

end SolanaBlocks
