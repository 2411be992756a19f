import Mathlib.Logic.Function.Basic
import SolanaBlocks.Workspace.Edit

/-!
# A workspace as tables

The place of a block is told by three tables: what each seat holds, which block follows which, and
in which seat a block sits. An edit is a sequence of small steps, and each step changes these tables
at single entries. This module says at which; after it no proof has to look into a block any more.

`SameBlocks` is the frame of all moves: types and fields stay with their blocks.
-/

namespace SolanaBlocks

/-- A block, if there is one, is told by its type, its fields, its links and the content of its
slots. -/
theorem Block.option_ext {found found' : Option Block} (types : found'.map type = found.map type)
    (fields : found'.map Block.fields = found.map Block.fields)
    (next : found'.bind Block.next = found.bind Block.next)
    (seats : found'.bind seat = found.bind seat)
    (slots : ∀ slot : String, (found'.bind fun block => block.slots[slot]?) =
      found.bind fun block => block.slots[slot]?) : found' = found := by
  cases found with
  | none => simpa using types
  | some block =>
      cases found' with
      | none => simp at types
      | some block' =>
          simp only [Option.map_some, Option.bind_some, Option.some.injEq]
            at types fields next seats slots ⊢
          have same : block'.slots = block.slots := Std.ExtTreeMap.ext_getElem? slots
          cases block
          cases block'
          simp_all

namespace Workspace

/-- What the slot of a seat holds. -/
def content? (w : Workspace) (seat : Seat) : Option SlotContent :=
  w.slot? seat.owner seat.slot

/-- The name of the type of a block. -/
def typeName? (w : Workspace) (id : BlockId) : Option String :=
  (w.get? id).map Block.type

/-- The fields of a block. -/
def fields? (w : Workspace) (id : BlockId) : Option (NameTable FieldValue) :=
  (w.get? id).map Block.fields

variable {w w' w'' : Workspace} {id other : BlockId}

theorem contains_iff : w.contains id = true ↔ ∃ block, w.get? id = some block := by
  rw [contains, get?, Std.ExtTreeMap.contains_eq_isSome_getElem?, Option.isSome_iff_exists]

theorem contains_eq_isSome_typeName? : w.contains id = (w.typeName? id).isSome := by
  rw [contains, typeName?, get?, Option.isSome_map, Std.ExtTreeMap.contains_eq_isSome_getElem?]

theorem contains_of_seat? {seat : Seat} (h : w.seat? id = some seat) : w.contains id = true := by
  obtain ⟨block, found, -⟩ := Option.bind_eq_some_iff.1 h
  exact contains_iff.2 ⟨block, found⟩

theorem contains_of_next? (h : w.next? id = some other) : w.contains id = true := by
  obtain ⟨block, found, -⟩ := Option.bind_eq_some_iff.1 h
  exact contains_iff.2 ⟨block, found⟩

theorem contains_of_content? {seat : Seat} {content : SlotContent}
    (h : w.content? seat = some content) : w.contains seat.owner = true := by
  obtain ⟨block, found, -⟩ := Option.bind_eq_some_iff.1 h
  exact contains_iff.2 ⟨block, found⟩

theorem seat?_of_get? {block : Block} (found : w.get? id = some block) : w.seat? id = block.seat := by
  rw [seat?, found, Option.bind_some]

theorem next?_of_get? {block : Block} (found : w.get? id = some block) : w.next? id = block.next := by
  rw [next?, found, Option.bind_some]

theorem content?_of_get? {block : Block} (found : w.get? id = some block) (slot : String) :
    w.content? ⟨id, slot⟩ = block.slots[slot]? := by
  rw [content?, slot?, found, Option.bind_some]

/-- Slots that hold something are slots of blocks. -/
theorem mem_keys_of_content? {seat : Seat} {content : SlotContent}
    (held : w.content? seat = some content) :
    seat.owner ∈ w.ids ∧
      seat.slot ∈ ((w.get? seat.owner).map fun block => block.slots.keys).getD [] := by
  obtain ⟨owner, found, used⟩ := Option.bind_eq_some_iff.1 held
  refine ⟨mem_ids_of_get? found, ?_⟩
  rw [found, Option.map_some, Option.getD_some, Std.ExtTreeMap.mem_keys,
    ← Std.ExtTreeMap.isSome_getElem?_iff_mem, used]
  rfl

/-- The tables of a workspace tell everything about its blocks. -/
theorem get?_eq_of_tables (types : w'.typeName? id = w.typeName? id)
    (fields : w'.fields? id = w.fields? id) (next : w'.next? id = w.next? id)
    (seats : w'.seat? id = w.seat? id)
    (slots : ∀ slot, w'.content? ⟨id, slot⟩ = w.content? ⟨id, slot⟩) : w'.get? id = w.get? id :=
  Block.option_ext types fields next seats slots

/-! ## Steps that keep every block -/

/-- The same blocks with the same types and fields, wherever they have their places. -/
structure SameBlocks (w w' : Workspace) : Prop where
  palette : w'.palette = w.palette
  typeName? : ∀ id, w'.typeName? id = w.typeName? id
  fields? : ∀ id, w'.fields? id = w.fields? id

namespace SameBlocks

theorem refl (w : Workspace) : SameBlocks w w := ⟨rfl, fun _ => rfl, fun _ => rfl⟩

theorem trans (h : SameBlocks w w') (h' : SameBlocks w' w'') : SameBlocks w w'' where
  palette := h'.palette.trans h.palette
  typeName? id := (h'.typeName? id).trans (h.typeName? id)
  fields? id := (h'.fields? id).trans (h.fields? id)

theorem contains (h : SameBlocks w w') (id : BlockId) : w'.contains id = w.contains id := by
  rw [contains_eq_isSome_typeName?, contains_eq_isSome_typeName?, h.typeName?]

/-- Counting a change is no change. -/
theorem bump (h : SameBlocks w w') : SameBlocks w w'.bump :=
  h.trans ⟨rfl, fun _ => rfl, fun _ => rfl⟩

/-- A fold of such steps is such a step. -/
theorem foldl {α : Type} {step : Workspace → α → Workspace}
    (h : ∀ w a, SameBlocks w (step w a)) (w : Workspace) (list : List α) :
    SameBlocks w (list.foldl step w) := by
  induction list generalizing w with
  | nil => exact refl w
  | cons a list ih => exact (h w a).trans (ih (step w a))

end SameBlocks

/-! ## Changing one block -/

section Modify

variable (w : Workspace) (id : BlockId) (change : Block → Block)

@[simp] theorem roots_modify : (w.modify id change).roots = w.roots := rfl

theorem get?_modify (other : BlockId) :
    (w.modify id change).get? other =
      if id = other then (w.get? other).map change else w.get? other := by
  simp only [modify, get?, Std.ExtTreeMap.getElem?_modify, Std.LawfulEqOrd.compare_eq_iff_eq]
  split
  · next same => rw [same]
  · rfl

@[simp] theorem contains_modify (other : BlockId) :
    (w.modify id change).contains other = w.contains other := by
  simp only [contains, modify, Std.ExtTreeMap.contains_modify]

theorem next?_modify (other : BlockId) :
    (w.modify id change).next? other =
      if id = other then (w.get? other).bind fun block => (change block).next
      else w.next? other := by
  rw [next?, get?_modify]
  split
  · rw [Option.bind_map]
    rfl
  · rfl

theorem seat?_modify (other : BlockId) :
    (w.modify id change).seat? other =
      if id = other then (w.get? other).bind fun block => (change block).seat
      else w.seat? other := by
  rw [seat?, get?_modify]
  split
  · rw [Option.bind_map]
    rfl
  · rfl

theorem content?_modify (seat : Seat) :
    (w.modify id change).content? seat =
      if id = seat.owner then (w.get? seat.owner).bind fun block => (change block).slots[seat.slot]?
      else w.content? seat := by
  rw [content?, slot?, get?_modify]
  split
  · rw [Option.bind_map]
    rfl
  · rfl

/-- A change that leaves type and fields alone. -/
theorem sameBlocks_modify (types : ∀ block, (change block).type = block.type)
    (fields : ∀ block, (change block).fields = block.fields) :
    SameBlocks w (w.modify id change) where
  palette := rfl
  typeName? other := by
    rw [typeName?, get?_modify]
    split
    · rw [Option.map_map, show Block.type ∘ change = Block.type from funext types, typeName?]
    · rfl
  fields? other := by
    rw [fields?, get?_modify]
    split
    · rw [Option.map_map, show Block.fields ∘ change = Block.fields from funext fields, fields?]
    · rfl

theorem next?_modify_of_eq (next : ∀ block, (change block).next = block.next) :
    (w.modify id change).next? = w.next? := by
  funext other
  rw [next?_modify]
  simp [next, next?]

theorem seat?_modify_of_eq (seat : ∀ block, (change block).seat = block.seat) :
    (w.modify id change).seat? = w.seat? := by
  funext other
  rw [seat?_modify]
  simp [seat, seat?]

theorem content?_modify_of_eq (slots : ∀ block, (change block).slots = block.slots) :
    (w.modify id change).content? = w.content? := by
  funext seat
  rw [content?_modify]
  simp [slots, content?, slot?]

end Modify

/-! ## Single entries -/

section Entries

variable (w : Workspace) (id : BlockId)

theorem next?_modify_next (alive : w.contains id = true) (change : Block → Block)
    (next : Option BlockId) (set : ∀ block, (change block).next = next) :
    (w.modify id change).next? = Function.update w.next? id next := by
  funext other
  obtain ⟨block, found⟩ := contains_iff.1 alive
  rw [next?_modify, Function.update_apply]
  by_cases same : id = other
  · subst same
    simp [found, set]
  · rw [if_neg same, if_neg (Ne.symm same)]

theorem seat?_modify_seat (alive : w.contains id = true) (change : Block → Block)
    (seat : Option Seat) (set : ∀ block, (change block).seat = seat) :
    (w.modify id change).seat? = Function.update w.seat? id seat := by
  funext other
  obtain ⟨block, found⟩ := contains_iff.1 alive
  rw [seat?_modify, Function.update_apply]
  by_cases same : id = other
  · subst same
    simp [found, set]
  · rw [if_neg same, if_neg (Ne.symm same)]

theorem content?_modify_insert (owner : BlockId) (alive : w.contains owner = true) (slot : String)
    (content : SlotContent) :
    (w.modify owner fun block => { block with slots := block.slots.insert slot content }).content? =
      Function.update w.content? ⟨owner, slot⟩ (some content) := by
  funext seat
  obtain ⟨block, found⟩ := contains_iff.1 alive
  rw [content?_modify, Function.update_apply]
  by_cases same : owner = seat.owner
  · rcases seat with ⟨owner', slot'⟩
    subst same
    simp only [if_true, found, Option.bind_some, Std.ExtTreeMap.getElem?_insert,
      Std.LawfulEqOrd.compare_eq_iff_eq, content?, slot?, Seat.mk.injEq, true_and]
    by_cases hit : slot = slot'
    · simp [hit]
    · simp [hit, Ne.symm hit]
  · rw [if_neg same, if_neg]
    rintro rfl
    exact same rfl

theorem content?_modify_erase (owner : BlockId) (slot : String) :
    (w.modify owner fun block => { block with slots := block.slots.erase slot }).content? =
      Function.update w.content? ⟨owner, slot⟩ none := by
  funext seat
  rw [content?_modify, Function.update_apply]
  by_cases same : owner = seat.owner
  · rcases seat with ⟨owner', slot'⟩
    subst same
    simp only [if_true, Std.ExtTreeMap.getElem?_erase, Std.LawfulEqOrd.compare_eq_iff_eq, content?,
      slot?, Seat.mk.injEq, true_and]
    by_cases hit : slot = slot'
    · simp [hit]
    · simp [hit, Ne.symm hit]
  · rw [if_neg same, if_neg]
    rintro rfl
    exact same rfl

end Entries

/-- What is found in a table after an entry has been taken out was there before. -/
theorem eq_some_of_update_none {α β : Type} [DecidableEq α] {table : α → Option β} {a b : α}
    {value : β} (h : Function.update table a none b = some value) : table b = some value := by
  rw [Function.update_apply] at h
  split at h
  · cases h
  · exact h

/-- A block gets another successor, or none, and nothing else changes. -/
structure Relinked (w w' : Workspace) (id : BlockId) (next : Option BlockId) : Prop where
  blocks : SameBlocks w w'
  roots : w'.roots = w.roots
  contents : w'.content? = w.content?
  seats : w'.seat? = w.seat?
  nexts : w'.next? = Function.update w.next? id next

theorem relinked_modify (alive : w.contains id = true) (next : Option BlockId) :
    Relinked w (w.modify id fun block => { block with next := next }) id next where
  blocks := sameBlocks_modify w id _ (fun _ => by rfl) (fun _ => by rfl)
  roots := rfl
  contents := content?_modify_of_eq w id _ fun _ => by rfl
  seats := seat?_modify_of_eq w id _ fun _ => by rfl
  nexts := next?_modify_next w id alive _ next fun _ => by rfl

theorem Relinked.bump {next : Option BlockId} (r : Relinked w w' id next) :
    Relinked w w'.bump id next :=
  ⟨r.blocks.bump, r.roots, r.contents, r.seats, r.nexts⟩

/-- A slot gets another content, or none, and nothing else changes. -/
structure Refilled (w w' : Workspace) (seat : Seat) (content : Option SlotContent) : Prop where
  blocks : SameBlocks w w'
  roots : w'.roots = w.roots
  contents : w'.content? = Function.update w.content? seat content
  seats : w'.seat? = w.seat?
  nexts : w'.next? = w.next?

theorem refilled_insert {seat : Seat} (alive : w.contains seat.owner = true)
    (content : SlotContent) :
    Refilled w
      (w.modify seat.owner fun block =>
        { block with slots := block.slots.insert seat.slot content })
      seat (some content) where
  blocks := sameBlocks_modify w _ _ (fun _ => by rfl) (fun _ => by rfl)
  roots := rfl
  contents := content?_modify_insert w seat.owner alive seat.slot content
  seats := seat?_modify_of_eq w _ _ fun _ => by rfl
  nexts := next?_modify_of_eq w _ _ fun _ => by rfl

theorem refilled_erase (w : Workspace) (seat : Seat) :
    Refilled w
      (w.modify seat.owner fun block => { block with slots := block.slots.erase seat.slot })
      seat none where
  blocks := sameBlocks_modify w _ _ (fun _ => by rfl) (fun _ => by rfl)
  roots := rfl
  contents := content?_modify_erase w seat.owner seat.slot
  seats := seat?_modify_of_eq w _ _ fun _ => by rfl
  nexts := next?_modify_of_eq w _ _ fun _ => by rfl

/-! ## Children -/

theorem mem_slotNames {w : Workspace} {block : Block} {slot : String} {content : SlotContent}
    (held : block.slots[slot]? = some content) : slot ∈ w.slotNames block := by
  have used : slot ∈ block.slots.keys := by
    rw [Std.ExtTreeMap.mem_keys, ← Std.ExtTreeMap.isSome_getElem?_iff_mem, held]
    rfl
  by_cases declared : slot ∈ ((w.typeOf? block).map
    fun type => type.slots.map SlotDecl.name).getD []
  · exact List.mem_append_left _ declared
  · exact List.mem_append_right _ (List.mem_filter.2 ⟨used, by simpa using declared⟩)

/-- The children of a block are what its slots hold, whether the slots are declared or not. -/
theorem mem_children_iff {w : Workspace} {owner id : BlockId} :
    id ∈ w.children owner ↔
      ∃ slot content, w.content? ⟨owner, slot⟩ = some content ∧ id ∈ w.contentMembers content := by
  unfold children content? slot?
  cases found : w.get? owner with
  | none => simp [found]
  | some block =>
      simp only [found, List.mem_flatMap, Option.bind_some]
      constructor
      · rintro ⟨slot, -, hid⟩
        cases held : block.slots[slot]? with
        | none => simp [held] at hid
        | some content =>
            simp only [held] at hid
            exact ⟨slot, content, held, hid⟩
      · rintro ⟨slot, content, held, hid⟩
        exact ⟨slot, mem_slotNames held, by simpa only [held] using hid⟩

end Workspace

end SolanaBlocks
