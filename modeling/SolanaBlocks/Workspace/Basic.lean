import Std.Data.ExtTreeMap
import SolanaBlocks.Palette.Basic

/-!
# Workspaces

A workspace holds the blocks a user has placed. Blocks are found by id; ownership runs downwards
through slots, and every block that sits in a slot knows the seat it has there. The statements of a
chain are linked from one to the next, the slot naming only the first.

Two workspaces are equal as soon as the same look-ups give the same results, since the tables
behind them are extensional.
-/

namespace SolanaBlocks

/-- The name of a block, by which everything else refers to it. -/
structure BlockId where
  text : String
deriving DecidableEq, Repr, Inhabited

namespace BlockId

instance : Ord BlockId := ⟨fun a b => compare a.text b.text⟩

theorem compare_eq (a b : BlockId) : compare a b = compare a.text b.text := rfl

instance : Std.TransOrd BlockId where
  eq_swap {a b} :=
    show compare a.text b.text = (compare b.text a.text).swap from Std.OrientedCmp.eq_swap
  isLE_trans {a b c} :=
    show (compare a.text b.text).isLE → (compare b.text c.text).isLE →
      (compare a.text c.text).isLE from Std.TransCmp.isLE_trans

instance : Std.LawfulEqOrd BlockId where
  compare_self {a} := show compare a.text a.text = .eq from Std.ReflCmp.compare_self
  eq_of_compare {a b} h := by
    cases a
    cases b
    rw [compare_eq] at h
    exact congrArg BlockId.mk (Std.LawfulEqCmp.eq_of_compare h)

end BlockId

/-- An id of a list that comes to those already seen leaves fewer of the list unseen. -/
theorem countP_notMem_cons_lt {ids seen : List BlockId} {id : BlockId} (listed : id ∈ ids)
    (new : id ∉ seen) :
    ids.countP (fun x => !(id :: seen).contains x) < ids.countP fun x => !seen.contains x := by
  have mono (l : List BlockId) :
      l.countP (fun x => !(id :: seen).contains x) ≤ l.countP fun x => !seen.contains x := by
    apply List.countP_mono_left
    intro x _
    simp
  induction ids with
  | nil => cases listed
  | cons x l ih =>
    rw [List.countP_cons, List.countP_cons]
    by_cases hx : x = id
    · have here : (!(id :: seen).contains x) = false := by simp [hx]
      have before : (!seen.contains x) = true := by simpa [hx] using new
      have := mono l
      rw [here, before]
      simp only [Bool.false_eq_true, if_false, if_true]
      omega
    · have same : (!(id :: seen).contains x) = !seen.contains x := by simp [hx]
      have := ih (by simpa [Ne.symm hx] using listed)
      rw [same]
      omega

/-- A table from names to values, in the order of the names. -/
abbrev NameTable (α : Type) := Std.ExtTreeMap String α

/-- What a slot holds: one block, or a chain given by its first block. -/
inductive SlotContent where
  | single (child : BlockId)
  | chain (head : BlockId)
deriving DecidableEq, Repr

/-- The place of a block below another one. -/
structure Seat where
  owner : BlockId
  slot : String
deriving DecidableEq, Repr

/-- A block in a workspace. `next` is its successor in a chain of statements. -/
structure Block where
  type : String
  fields : NameTable FieldValue
  slots : NameTable SlotContent := ∅
  next : Option BlockId := none
  seat : Option Seat := none

/-- The blocks under edit. `roots` is the top level in order; `counter` numbers the ids that the
workspace makes up; `revision` counts the changes. -/
structure Workspace where
  palette : Palette
  blocks : Std.ExtTreeMap BlockId Block := ∅
  roots : List BlockId := []
  counter : Nat := 0
  revision : Nat := 0

namespace Workspace

/-- The block with a given id. -/
def get? (w : Workspace) (id : BlockId) : Option Block := w.blocks[id]?

/-- Whether a block with this id exists. -/
def contains (w : Workspace) (id : BlockId) : Bool := w.blocks.contains id

/-- The number of blocks. -/
def size (w : Workspace) : Nat := w.blocks.size

/-- The ids of all blocks, in the order of their texts. -/
def ids (w : Workspace) : List BlockId := w.blocks.keys

/-- The declaration that a block follows. -/
def typeOf? (w : Workspace) (block : Block) : Option BlockType := w.palette.get? block.type

/-- The successor of a block in its chain. -/
def next? (w : Workspace) (id : BlockId) : Option BlockId := (w.get? id).bind Block.next

/-- The seat of a block that is not at the top level. -/
def seat? (w : Workspace) (id : BlockId) : Option Seat := (w.get? id).bind Block.seat

/-- The block whose slot holds this one. -/
def owner? (w : Workspace) (id : BlockId) : Option BlockId := (w.seat? id).map Seat.owner

/-- What a slot of a block holds. -/
def slot? (w : Workspace) (id : BlockId) (slot : String) : Option SlotContent :=
  (w.get? id).bind fun block => block.slots[slot]?

/-- Whether a block is one of the roots. -/
def isRoot (w : Workspace) (id : BlockId) : Bool := w.roots.contains id

theorem mem_ids {w : Workspace} {id : BlockId} : id ∈ w.ids ↔ ∃ block, w.get? id = some block := by
  rw [ids, Std.ExtTreeMap.mem_keys, get?, ← Option.isSome_iff_exists,
    Std.ExtTreeMap.isSome_getElem?_iff_mem]

theorem mem_ids_of_get? {w : Workspace} {id : BlockId} {block : Block}
    (h : w.get? id = some block) : id ∈ w.ids :=
  mem_ids.2 ⟨block, h⟩

/-- The number of blocks that are not in `seen`. It bounds every walk that stops at a block it has
met before. -/
def unseen (w : Workspace) (seen : List BlockId) : Nat :=
  w.ids.countP fun id => !seen.contains id

/-- Adding a block that was not in a list leaves fewer blocks outside the list. -/
theorem unseen_cons_lt {w : Workspace} {id : BlockId} {block : Block} {seen : List BlockId}
    (alive : w.get? id = some block) (new : id ∉ seen) :
    w.unseen (id :: seen) < w.unseen seen :=
  countP_notMem_cons_lt (mem_ids_of_get? alive) new

/-- Induction along a walk that has met some blocks and goes on with one more. -/
theorem unseen_induction (w : Workspace) {motive : List BlockId → Prop}
    (step : ∀ seen, (∀ {id block}, w.get? id = some block → id ∉ seen → motive (id :: seen)) →
      motive seen) (seen : List BlockId) : motive seen := by
  induction size : w.unseen seen using Nat.strongRecOn generalizing seen with
  | _ size ih =>
    subst size
    exact step seen fun alive new => ih _ (unseen_cons_lt alive new) _ rfl

/-- A longer list leaves no more blocks outside it. -/
theorem unseen_le_of_subset {w : Workspace} {seen seen' : List BlockId} (h : seen ⊆ seen') :
    w.unseen seen' ≤ w.unseen seen := by
  apply List.countP_mono_left
  intro x _ hx
  simp only [List.contains_eq_mem, Bool.not_eq_eq_eq_not, Bool.not_true, decide_eq_false_iff_not]
    at hx ⊢
  exact fun hs => hx (h hs)

end Workspace

end SolanaBlocks
