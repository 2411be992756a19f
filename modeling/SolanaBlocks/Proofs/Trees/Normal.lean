import Mathlib.Data.List.Nodup
import SolanaBlocks.BlockTree.Basic
import SolanaBlocks.Palette.Basic

/-!
# Well-formed trees and their normal form

Trees that are not an export may leave out fields and slots, name successors as they like and hold
stubs with whatever content. `prune` drops the stubs. What is left is well formed if every tree in it
follows the declaration of its type. Its normal form has every declared field and every declared
slot, and names a successor exactly where a chain goes on.

What is asked of a tree is asked of each tree in it alone, so that an induction over trees is needed
only to say what their subtrees are.
-/

namespace SolanaBlocks

/-! ## Subtrees -/

namespace TreeInput

/-- The kind of slot that an input is for. An empty one is for either. -/
def arity? : TreeInput → Option SlotArity
  | empty _ => none
  | single _ _ => some .expression
  | chain _ _ => some .chain

/-- The blocks that an input holds. -/
def trees : TreeInput → List BlockTree
  | empty _ => []
  | single _ child => [child]
  | chain _ members => members

/-- An input is told by its slot, its kind and what it holds. -/
theorem ext {input input' : TreeInput} (slot : input.slot = input'.slot)
    (arity : input.arity? = input'.arity?) (trees : input.trees = input'.trees) :
    input = input' := by
  cases input <;> cases input' <;> cases slot <;> cases arity <;> cases trees <;> rfl

theorem sizeOf_lt_of_mem_trees {input : TreeInput} {child : BlockTree} (h : child ∈ input.trees) :
    sizeOf child < sizeOf input := by
  cases input with
  | empty slot => cases h
  | single slot only =>
      cases List.mem_singleton.1 h
      simp only [single.sizeOf_spec]
      omega
  | chain slot members =>
      have := List.sizeOf_lt_of_mem (show child ∈ members from h)
      simp only [chain.sizeOf_spec]
      omega

end TreeInput

/-- What holds of a tree as soon as it holds of what its slots hold is true of all trees. -/
@[elab_as_elim]
theorem BlockTree.child_induction {motive : BlockTree → Prop}
    (step : ∀ tree, (∀ input ∈ tree.inputs, ∀ child ∈ input.trees, motive child) → motive tree)
    (tree : BlockTree) : motive tree :=
  step tree fun _ _ child _ => child_induction step child
termination_by sizeOf tree
decreasing_by
  have outer := List.sizeOf_lt_of_mem ‹_ ∈ tree.inputs›
  have inner := TreeInput.sizeOf_lt_of_mem_trees ‹child ∈ _›
  cases tree
  simp only [BlockTree.inputs, BlockTree.mk.sizeOf_spec] at outer ⊢
  omega

mutual

/-- The tree and everything below it. -/
def BlockTree.subtrees : BlockTree → List BlockTree
  | .mk id type fields inputs next revisited =>
    .mk id type fields inputs next revisited :: TreeInput.subtrees inputs

/-- Everything in some inputs. -/
def TreeInput.subtrees : List TreeInput → List BlockTree
  | [] => []
  | .empty _ :: rest => TreeInput.subtrees rest
  | .single _ child :: rest => child.subtrees ++ TreeInput.subtrees rest
  | .chain _ members :: rest => subtreesOf members ++ TreeInput.subtrees rest

/-- Everything in some trees. -/
def subtreesOf : List BlockTree → List BlockTree
  | [] => []
  | tree :: rest => tree.subtrees ++ subtreesOf rest

end

/-- The ids of some trees and of everything below them. -/
def idsOf (trees : List BlockTree) : List BlockId :=
  (subtreesOf trees).map BlockTree.id

theorem subtreesOf_eq_flatMap (trees : List BlockTree) :
    subtreesOf trees = trees.flatMap BlockTree.subtrees := by
  induction trees with
  | nil => rfl
  | cons tree rest ih => rw [subtreesOf, List.flatMap_cons, ih]

theorem TreeInput.subtrees_eq_flatMap (inputs : List TreeInput) :
    TreeInput.subtrees inputs = inputs.flatMap fun input => subtreesOf input.trees := by
  induction inputs with
  | nil => rfl
  | cons input rest ih =>
      rw [List.flatMap_cons, ← ih]
      cases input <;> simp [TreeInput.subtrees, TreeInput.trees, subtreesOf]

theorem TreeInput.subtrees_cons (input : TreeInput) (rest : List TreeInput) :
    TreeInput.subtrees (input :: rest) = subtreesOf input.trees ++ TreeInput.subtrees rest := by
  rw [TreeInput.subtrees_eq_flatMap, TreeInput.subtrees_eq_flatMap, List.flatMap_cons]

theorem subtreesOf_append (trees trees' : List BlockTree) :
    subtreesOf (trees ++ trees') = subtreesOf trees ++ subtreesOf trees' := by
  simp only [subtreesOf_eq_flatMap, List.flatMap_append]

theorem mem_subtreesOf {sub : BlockTree} {trees : List BlockTree} :
    sub ∈ subtreesOf trees ↔ ∃ tree ∈ trees, sub ∈ tree.subtrees := by
  rw [subtreesOf_eq_flatMap, List.mem_flatMap]

namespace BlockTree

theorem subtrees_eq (tree : BlockTree) :
    tree.subtrees = tree :: TreeInput.subtrees tree.inputs := by
  cases tree
  rw [subtrees]
  rfl

theorem mem_subtrees {sub tree : BlockTree} :
    sub ∈ tree.subtrees ↔
      sub = tree ∨ ∃ input ∈ tree.inputs, ∃ child ∈ input.trees, sub ∈ child.subtrees := by
  rw [subtrees_eq, List.mem_cons, TreeInput.subtrees_eq_flatMap, List.mem_flatMap]
  simp only [mem_subtreesOf]

theorem self_mem_subtrees (tree : BlockTree) : tree ∈ tree.subtrees :=
  mem_subtrees.2 (.inl rfl)

theorem mem_subtrees_of_child {sub child tree : BlockTree} {input : TreeInput}
    (given : input ∈ tree.inputs) (held : child ∈ input.trees) (h : sub ∈ child.subtrees) :
    sub ∈ tree.subtrees :=
  mem_subtrees.2 (.inr ⟨input, given, child, held, h⟩)

/-- What is inside a subtree is a subtree again. -/
theorem subtrees_trans {other sub tree : BlockTree} (inner : other ∈ sub.subtrees)
    (h : sub ∈ tree.subtrees) : other ∈ tree.subtrees := by
  induction tree using child_induction with
  | step tree ih =>
      rcases mem_subtrees.1 h with rfl | ⟨input, given, child, held, h⟩
      · exact inner
      · exact mem_subtrees_of_child given held (ih input given child held h)

end BlockTree

theorem idsOf_append (trees trees' : List BlockTree) :
    idsOf (trees ++ trees') = idsOf trees ++ idsOf trees' := by
  rw [idsOf, subtreesOf_append, List.map_append, idsOf, idsOf]

/-! ## Stubs -/

mutual

/-- The tree without the stubs below it. -/
def BlockTree.prune : BlockTree → BlockTree
  | .mk id type fields inputs next revisited =>
    .mk id type fields (pruneInputs inputs) next revisited

/-- The inputs without stubs. -/
def pruneInputs : List TreeInput → List TreeInput
  | [] => []
  | input :: rest => input.prune :: pruneInputs rest

/-- The input without stubs. When nothing is left in it, it is empty. -/
def TreeInput.prune : TreeInput → TreeInput
  | .empty slot => .empty slot
  | .single slot child => if child.revisited then .empty slot else .single slot child.prune
  | .chain slot members =>
    if (pruneAll members).isEmpty then .empty slot else .chain slot (pruneAll members)

/-- The trees that are no stubs, and without the stubs below them. -/
def pruneAll : List BlockTree → List BlockTree
  | [] => []
  | tree :: rest => if tree.revisited then pruneAll rest else tree.prune :: pruneAll rest

end

/-- A tree of which everything is given: no stub, every slot named once, no chain without members. -/
structure BlockTree.Whole (tree : BlockTree) : Prop where
  given : tree.revisited = false
  keyed : (tree.inputs.map TreeInput.slot).Nodup
  filled : ∀ input ∈ tree.inputs, input.trees = [] → input = .empty input.slot

theorem pruneInputs_eq_map (inputs : List TreeInput) :
    pruneInputs inputs = inputs.map TreeInput.prune := by
  induction inputs with
  | nil => rfl
  | cons input rest ih => rw [pruneInputs, List.map_cons, ih]

/-- What is left of some trees. -/
theorem pruneAll_eq_map (trees : List BlockTree) :
    pruneAll trees = (trees.filter (!·.revisited)).map BlockTree.prune := by
  induction trees with
  | nil => rfl
  | cons tree rest ih =>
      rw [pruneAll, List.filter_cons]
      cases tree.revisited <;> simp [ih]

namespace TreeInput

theorem slot_prune (input : TreeInput) : input.prune.slot = input.slot := by
  cases input <;> rw [prune] <;> split <;> rfl

theorem trees_prune (input : TreeInput) : input.prune.trees = pruneAll input.trees := by
  cases input with
  | empty slot => rfl
  | single slot child =>
      rw [prune, trees, pruneAll]
      split <;> rfl
  | chain slot members =>
      rw [prune]
      split
      · next none => exact (List.isEmpty_iff.1 none).symm
      · rfl

theorem filled_prune {input : TreeInput} (none : input.prune.trees = []) :
    input.prune = .empty input.slot := by
  cases input with
  | empty slot => rfl
  | single slot child =>
      rw [prune] at none ⊢
      split
      · rfl
      · next given => rw [if_neg given] at none; cases none
  | chain slot members =>
      have none : pruneAll members = [] := (trees_prune _).symm.trans none
      rw [prune, if_pos (List.isEmpty_iff.2 none)]
      rfl

end TreeInput

theorem BlockTree.mem_subtrees_prune {sub tree : BlockTree} (given : tree.revisited = false)
    (h : sub ∈ tree.prune.subtrees) :
    ∃ other ∈ tree.subtrees, other.revisited = false ∧ sub = other.prune := by
  induction tree using child_induction with
  | step tree ih =>
      rcases mem_subtrees.1 h with rfl | ⟨input, mem, child, held, h⟩
      · exact ⟨tree, tree.self_mem_subtrees, given, rfl⟩
      · have pruned : tree.prune.inputs = tree.inputs.map TreeInput.prune := by
          cases tree
          rw [prune]
          exact pruneInputs_eq_map _
        rw [pruned] at mem
        obtain ⟨input, given, rfl⟩ := List.mem_map.1 mem
        rw [TreeInput.trees_prune, pruneAll_eq_map] at held
        obtain ⟨child, kept, rfl⟩ := List.mem_map.1 held
        obtain ⟨inside, kept⟩ := List.mem_filter.1 kept
        obtain ⟨other, below, rest⟩ := ih input given child inside (by simpa using kept) h
        exact ⟨other, mem_subtrees_of_child given inside below, rest⟩

/-- Pruned trees are whole, as long as they name every slot once. -/
theorem whole_pruneAll {trees : List BlockTree}
    (keyed : ∀ sub ∈ subtreesOf trees, (sub.inputs.map TreeInput.slot).Nodup) :
    ∀ sub ∈ subtreesOf (pruneAll trees), sub.Whole := by
  intro sub h
  obtain ⟨pruned, left, h⟩ := mem_subtreesOf.1 h
  rw [pruneAll_eq_map] at left
  obtain ⟨tree, kept, rfl⟩ := List.mem_map.1 left
  obtain ⟨held, given⟩ := List.mem_filter.1 kept
  obtain ⟨other, below, given, rfl⟩ := BlockTree.mem_subtrees_prune (by simpa using given) h
  have once := keyed other (mem_subtreesOf.2 ⟨tree, held, below⟩)
  cases other
  rw [BlockTree.prune, pruneInputs_eq_map]
  refine ⟨given, ?_, fun input hinput => ?_⟩
  · simpa [BlockTree.inputs, Function.comp_def, TreeInput.slot_prune] using once
  · obtain ⟨input, -, rfl⟩ := List.mem_map.1 hinput
    rw [TreeInput.slot_prune]
    exact TreeInput.filled_prune

/-! ## Well-formed trees -/

/-- Blocks of such trees may go into the slot of a block: it is declared for what they are. -/
def BlockType.Takes (owner : BlockType) (palette : Palette) (slot : String) (arity : SlotArity)
    (trees : List BlockTree) : Prop :=
  ∃ declaration, owner.slot? slot = some declaration ∧ declaration.arity = arity ∧
    ∀ tree ∈ trees, ∃ type, palette.get? tree.type = some type ∧
      type.producesValue = (arity == .expression)

/-- The type is known and declares the given fields and, for what they hold, the slots in use. -/
def BlockTree.WellFormed (palette : Palette) (tree : BlockTree) : Prop :=
  ∃ declaration, palette.get? tree.type = some declaration ∧
    (∀ name ∈ tree.fields, (declaration.field? name).isSome) ∧
    ∀ input ∈ tree.inputs, ∀ arity, input.arity? = some arity →
      declaration.Takes palette input.slot arity input.trees

/-! ## The normal form -/

/-- The given fields, and the default of every declared field that is missing among them. Of two
declarations of one field the later counts. -/
def BlockType.complete (type : BlockType) (given : NameTable FieldValue) : NameTable FieldValue :=
  type.fields.foldr (fun field table => table.insertIfNew field.name field.default) given

namespace TreeInput

/-- What is given for a slot. -/
def forSlot (inputs : List TreeInput) (slot : String) : TreeInput :=
  (inputs.find? fun input => input.slot == slot).getD (.empty slot)

/-- What is given for some slots, in the order of the slots. -/
def arrange (inputs : List TreeInput) : List String → List TreeInput
  | [] => []
  | slot :: slots => (forSlot inputs slot).place (arrange inputs slots)

/-- Inputs stand in the order of their slots, each slot once. -/
def Sorted (inputs : List TreeInput) : Prop :=
  (inputs.map TreeInput.slot).Pairwise fun a b => compare a b = .lt

end TreeInput

mutual

/-- The tree with exactly the fields and slots that its type declares, where `follower` is the
successor of the block. An unknown type tells nothing about fields and slots. -/
def BlockTree.normal (palette : Palette) (follower : Option BlockId) : BlockTree → BlockTree
  | .mk id type fields inputs _ revisited =>
    match palette.get? type with
    | none => .mk id type fields (normalInputs palette inputs) follower revisited
    | some declaration =>
      .mk id type (declaration.complete fields)
        (TreeInput.arrange (normalInputs palette inputs) (declaration.slots.map SlotDecl.name))
        follower revisited

/-- The inputs with trees in normal form. -/
def normalInputs (palette : Palette) : List TreeInput → List TreeInput
  | [] => []
  | input :: rest => input.normal palette :: normalInputs palette rest

/-- The input with trees in normal form. -/
def TreeInput.normal (palette : Palette) : TreeInput → TreeInput
  | .empty slot => .empty slot
  | .single slot child => .single slot (child.normal palette none)
  | .chain slot members => .chain slot (normalMembers palette members)

/-- The members of a chain in normal form, each of them followed by the next one. -/
def normalMembers (palette : Palette) : List BlockTree → List BlockTree
  | [] => []
  | tree :: rest =>
    tree.normal palette (rest.head?.map BlockTree.id) :: normalMembers palette rest

end

/-- For each id in a list the one behind it. -/
def followers : List BlockId → List (Option BlockId)
  | [] => []
  | _ :: rest => rest.head? :: followers rest

/-- Each of the blocks names the one behind it as its successor, and the last one none. -/
def TreeInput.Linked (input : TreeInput) : Prop :=
  input.trees.map BlockTree.next = followers (input.trees.map BlockTree.id)

/-- Every declared field and every declared slot is there and no other slot, inputs stand in the
order of their slots, and successors are named where there are any. -/
structure BlockTree.Normal (palette : Palette) (tree : BlockTree) : Prop where
  full : ∃ declaration, palette.get? tree.type = some declaration ∧
    declaration.complete tree.fields = tree.fields ∧
    ∀ slot, slot ∈ tree.inputs.map TreeInput.slot ↔ slot ∈ declaration.slots.map SlotDecl.name
  sorted : TreeInput.Sorted tree.inputs
  linked : ∀ input ∈ tree.inputs, input.Linked

/-! ## Complete fields -/

namespace BlockType

theorem getElem?_insertIfNew_eq_or (table : NameTable FieldValue) (key name : String)
    (value : FieldValue) :
    (table.insertIfNew key value)[name]? =
      table[name]?.or (if key = name then some value else none) := by
  rw [Std.ExtTreeMap.getElem?_insertIfNew]
  by_cases same : key = name
  · subst same
    by_cases held : key ∈ table
    · simp [held]
    · simp [held]
  · simp [same]

theorem getElem?_complete (type : BlockType) (given : NameTable FieldValue) (name : String) :
    (type.complete given)[name]? = given[name]?.or (type.complete ∅)[name]? := by
  unfold complete
  induction type.fields with
  | nil => simp
  | cons field fields ih =>
      rw [List.foldr_cons, List.foldr_cons, getElem?_insertIfNew_eq_or, getElem?_insertIfNew_eq_or,
        ih, Option.or_assoc]

theorem mem_complete_empty {type : BlockType} {name : String} :
    name ∈ type.complete ∅ ↔ (type.field? name).isSome := by
  unfold complete field?
  induction type.fields with
  | nil => simp
  | cons field fields ih =>
      rw [List.foldr_cons, Std.ExtTreeMap.mem_insertIfNew, ih, List.find?_cons]
      by_cases same : field.name = name
      · simp [same]
      · simp [same, beq_false_of_ne same]

/-- What is complete has nothing missing. -/
@[simp] theorem complete_complete (type : BlockType) (given : NameTable FieldValue) :
    type.complete (type.complete given) = type.complete given := by
  apply Std.ExtTreeMap.ext_getElem?
  intro name
  rw [getElem?_complete, getElem?_complete type given, Option.or_assoc, Option.or_self]

/-- A table of all declared fields is complete. -/
theorem complete_eq_self {type : BlockType} {fields : NameTable FieldValue}
    (keyed : ∀ name, (type.field? name).isSome → name ∈ fields) : type.complete fields = fields := by
  apply Std.ExtTreeMap.ext_getElem?
  intro name
  rw [getElem?_complete]
  by_cases held : name ∈ fields
  · obtain ⟨value, same⟩ :=
      Option.isSome_iff_exists.1 (Std.ExtTreeMap.isSome_getElem?_iff_mem.2 held)
    rw [same, Option.some_or]
  · have undeclared : name ∉ type.complete ∅ := fun known => held (keyed name (mem_complete_empty.1 known))
    rw [Std.ExtTreeMap.getElem?_eq_none undeclared, Option.or_none]

end BlockType

/-! ## Arranged inputs -/

namespace TreeInput

theorem slot_mem_place {input : TreeInput} {inputs : List TreeInput} {slot : String} :
    slot ∈ (input.place inputs).map TreeInput.slot ↔
      slot = input.slot ∨ slot ∈ inputs.map TreeInput.slot := by
  induction inputs with
  | nil => simp [TreeInput.place]
  | cons other rest ih =>
      rw [TreeInput.place]
      split
      · simp
      · next same =>
          have same : input.slot = other.slot := Std.LawfulEqCmp.eq_of_compare same
          simp [same]
      · rw [List.map_cons, List.mem_cons, ih, List.map_cons, List.mem_cons]
        tauto

theorem mem_of_mem_place {input placed : TreeInput} {inputs : List TreeInput}
    (h : placed ∈ input.place inputs) : placed = input ∨ placed ∈ inputs := by
  induction inputs with
  | nil => exact .inl (List.mem_singleton.1 h)
  | cons other rest ih =>
      rw [TreeInput.place] at h
      split at h
      · exact List.mem_cons.1 h
      · rw [List.mem_cons] at h
        exact h.imp_right (List.mem_cons_of_mem other)
      · rcases List.mem_cons.1 h with rfl | h
        · exact .inr List.mem_cons_self
        · exact (ih h).imp_right (List.mem_cons_of_mem other)

theorem Sorted.place {inputs : List TreeInput} (sorted : Sorted inputs) (input : TreeInput) :
    Sorted (input.place inputs) := by
  induction inputs with
  | nil => exact List.pairwise_singleton _ _
  | cons other rest ih =>
      obtain ⟨least, later⟩ := List.pairwise_cons.1 sorted
      rw [TreeInput.place]
      split
      · next less =>
          refine List.pairwise_cons.2 ⟨fun slot hslot => ?_, sorted⟩
          rcases List.mem_cons.1 hslot with rfl | hslot
          · exact less
          · exact Std.TransCmp.lt_trans less (least slot hslot)
      · next same =>
          have same : input.slot = other.slot := Std.LawfulEqCmp.eq_of_compare same
          exact List.pairwise_cons.2 ⟨same ▸ least, later⟩
      · next greater =>
          refine List.pairwise_cons.2 ⟨fun slot hslot => ?_, ih later⟩
          rcases slot_mem_place.1 hslot with rfl | hslot
          · exact Std.OrientedCmp.gt_iff_lt.1 greater
          · exact least slot hslot

theorem Sorted.nodup {inputs : List TreeInput} (sorted : Sorted inputs) :
    (inputs.map TreeInput.slot).Nodup := by
  refine List.Pairwise.imp ?_ sorted
  rintro slot _ less rfl
  cases less.symm.trans Std.ReflCmp.compare_self

/-- Two lists of the same slots in order are the same. -/
theorem Sorted.slots_eq {inputs inputs' : List TreeInput} (sorted : Sorted inputs)
    (sorted' : Sorted inputs')
    (same : ∀ slot, slot ∈ inputs.map TreeInput.slot ↔ slot ∈ inputs'.map TreeInput.slot) :
    inputs.map TreeInput.slot = inputs'.map TreeInput.slot := by
  have perm := (List.perm_ext_iff_of_nodup sorted.nodup sorted'.nodup).2 same
  refine perm.eq_of_pairwise (fun a b _ _ less greater => ?_) sorted sorted'
  rw [Std.OrientedCmp.gt_iff_lt.2 greater] at less
  cases less

@[simp] theorem slot_forSlot (inputs : List TreeInput) (slot : String) :
    (forSlot inputs slot).slot = slot := by
  unfold forSlot
  cases found : inputs.find? fun input => input.slot == slot with
  | none => rfl
  | some input => simpa using List.find?_some found

/-- What is given for a slot is one of the inputs, unless no input is for this slot. -/
theorem forSlot_cases (inputs : List TreeInput) (slot : String) :
    forSlot inputs slot ∈ inputs ∨
      slot ∉ inputs.map TreeInput.slot ∧ forSlot inputs slot = .empty slot := by
  unfold forSlot
  cases found : inputs.find? fun input => input.slot == slot with
  | none =>
      refine .inr ⟨fun named => ?_, rfl⟩
      obtain ⟨input, given, rfl⟩ := List.mem_map.1 named
      simpa using List.find?_eq_none.1 found input given
  | some input => exact .inl (List.mem_of_find?_eq_some found)

theorem sorted_arrange (inputs : List TreeInput) (slots : List String) :
    Sorted (arrange inputs slots) := by
  induction slots with
  | nil => exact List.Pairwise.nil
  | cons slot slots ih => exact ih.place _

theorem slot_mem_arrange {inputs : List TreeInput} {slots : List String} {slot : String} :
    slot ∈ (arrange inputs slots).map TreeInput.slot ↔ slot ∈ slots := by
  induction slots with
  | nil => simp [arrange]
  | cons other slots ih => rw [arrange, slot_mem_place, slot_forSlot, ih, List.mem_cons]

theorem mem_arrange {input : TreeInput} {inputs : List TreeInput} {slots : List String}
    (h : input ∈ arrange inputs slots) : input = forSlot inputs input.slot := by
  induction slots with
  | nil => cases h
  | cons slot slots ih =>
      rcases mem_of_mem_place h with rfl | h
      · rw [slot_forSlot]
      · exact ih h

/-- An arranged input was given, or it is empty and none was given for its slot. -/
theorem mem_arrange_cases {input : TreeInput} {inputs : List TreeInput} {slots : List String}
    (h : input ∈ arrange inputs slots) :
    input ∈ inputs ∨ input.slot ∉ inputs.map TreeInput.slot ∧ input = .empty input.slot := by
  rw [mem_arrange h, slot_forSlot]
  exact forSlot_cases inputs input.slot

end TreeInput

/-! ## The normal form is normal -/

theorem normalInputs_eq_map (palette : Palette) (inputs : List TreeInput) :
    normalInputs palette inputs = inputs.map (TreeInput.normal palette) := by
  induction inputs with
  | nil => rfl
  | cons input rest ih => rw [normalInputs, List.map_cons, ih]

namespace BlockTree

/-- The normal form of a tree whose type is known. -/
theorem normal_eq {palette : Palette} {tree : BlockTree} {declaration : BlockType}
    (known : palette.get? tree.type = some declaration) (follower : Option BlockId) :
    tree.normal palette follower =
      .mk tree.id tree.type (declaration.complete tree.fields)
        (TreeInput.arrange (tree.inputs.map (TreeInput.normal palette))
          (declaration.slots.map SlotDecl.name)) follower tree.revisited := by
  obtain ⟨id, type, fields, inputs, next, revisited⟩ := tree
  have known : palette.get? type = some declaration := known
  rw [normal, known]
  dsimp only
  rw [normalInputs_eq_map]
  rfl

variable (palette : Palette) (follower : Option BlockId) (tree : BlockTree)

@[simp] theorem id_normal : (tree.normal palette follower).id = tree.id := by
  cases tree
  rw [normal]
  split <;> rfl

@[simp] theorem next_normal : (tree.normal palette follower).next = follower := by
  cases tree
  rw [normal]
  split <;> rfl

end BlockTree

@[simp] theorem ids_normalMembers (palette : Palette) (trees : List BlockTree) :
    (normalMembers palette trees).map BlockTree.id = trees.map BlockTree.id := by
  induction trees with
  | nil => rfl
  | cons tree rest ih => rw [normalMembers, List.map_cons, List.map_cons, ih, BlockTree.id_normal]

theorem nexts_normalMembers (palette : Palette) (trees : List BlockTree) :
    (normalMembers palette trees).map BlockTree.next = followers (trees.map BlockTree.id) := by
  induction trees with
  | nil => rfl
  | cons tree rest ih =>
      rw [normalMembers, List.map_cons, List.map_cons, followers, ih, BlockTree.next_normal,
        List.head?_map]

theorem mem_normalMembers {palette : Palette} {child : BlockTree} {trees : List BlockTree}
    (h : child ∈ normalMembers palette trees) :
    ∃ tree ∈ trees, ∃ follower, child = tree.normal palette follower := by
  induction trees with
  | nil => cases h
  | cons tree rest ih =>
      rw [List.exists_mem_cons_iff]
      rcases List.mem_cons.1 h with rfl | h
      · exact .inl ⟨_, rfl⟩
      · exact .inr (ih h)

namespace TreeInput

variable (palette : Palette) (input : TreeInput)

@[simp] theorem slot_normal : (input.normal palette).slot = input.slot := by
  cases input <;> rfl

@[simp] theorem arity?_normal : (input.normal palette).arity? = input.arity? := by
  cases input <;> rfl

@[simp] theorem ids_trees_normal :
    (input.normal palette).trees.map BlockTree.id = input.trees.map BlockTree.id := by
  cases input with
  | empty slot => rfl
  | single slot child => simp [normal, trees]
  | chain slot members => exact ids_normalMembers palette members

theorem linked_normal : (input.normal palette).Linked := by
  cases input with
  | empty slot => rfl
  | single slot child => simp [Linked, normal, trees, followers]
  | chain slot members =>
      rw [Linked, ids_trees_normal]
      exact nexts_normalMembers palette members

variable {palette input}

theorem mem_trees_normal {child : BlockTree} (h : child ∈ (input.normal palette).trees) :
    ∃ tree ∈ input.trees, ∃ follower, child = tree.normal palette follower := by
  cases input with
  | empty slot => cases h
  | single slot only => exact ⟨only, List.mem_singleton_self only, none, List.mem_singleton.1 h⟩
  | chain slot members => exact mem_normalMembers h

end TreeInput

/-- Everything in a normal form is the normal form of something. -/
theorem BlockTree.mem_subtrees_normal {palette : Palette} {follower : Option BlockId}
    {sub tree : BlockTree} (known : ∀ sub ∈ tree.subtrees, (palette.get? sub.type).isSome)
    (h : sub ∈ (tree.normal palette follower).subtrees) :
    ∃ other ∈ tree.subtrees, ∃ follower, sub = other.normal palette follower := by
  induction tree using child_induction generalizing follower with
  | step tree ih =>
      obtain ⟨declaration, found⟩ := Option.isSome_iff_exists.1 (known tree tree.self_mem_subtrees)
      rcases mem_subtrees.1 h with rfl | ⟨input, given, child, held, below⟩
      · exact ⟨tree, tree.self_mem_subtrees, follower, rfl⟩
      · rw [normal_eq found follower] at given
        rcases TreeInput.mem_arrange_cases given with there | ⟨-, none⟩
        · obtain ⟨input, source, rfl⟩ := List.mem_map.1 there
          obtain ⟨child, inside, follower, rfl⟩ := TreeInput.mem_trees_normal held
          have inner (sub : BlockTree) (h : sub ∈ child.subtrees) : sub ∈ tree.subtrees :=
            mem_subtrees_of_child source inside h
          obtain ⟨other, ho, same⟩ :=
            ih input source child inside (fun sub h => known sub (inner sub h)) below
          exact ⟨other, inner other ho, same⟩
        · rw [none] at held
          cases held

/-- The normal form is normal. -/
theorem BlockTree.normal_normal {palette : Palette} {tree : BlockTree}
    (known : (palette.get? tree.type).isSome) (follower : Option BlockId) :
    (tree.normal palette follower).Normal palette := by
  obtain ⟨declaration, found⟩ := Option.isSome_iff_exists.1 known
  rw [normal_eq found]
  refine ⟨⟨declaration, found, declaration.complete_complete _, fun slot =>
    TreeInput.slot_mem_arrange⟩, TreeInput.sorted_arrange _ _, fun input h => ?_⟩
  rcases TreeInput.mem_arrange_cases h with given | ⟨-, none⟩
  · obtain ⟨input, -, rfl⟩ := List.mem_map.1 given
    exact input.linked_normal palette
  · rw [none]
    rfl

end SolanaBlocks
