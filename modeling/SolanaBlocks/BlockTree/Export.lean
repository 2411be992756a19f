import SolanaBlocks.BlockTree.Basic
import SolanaBlocks.Workspace.Walk

/-!
# From a workspace to block trees

The roots of a workspace as block trees, each block in full where it is met first and as a stub
wherever it is met again. Whatever links there are, a block met for the first time leaves fewer
blocks unmet, so the export ends.
-/

namespace SolanaBlocks

/-- Something exported after the blocks in `before` have been met: the result, the blocks met by
now, and those that were met again, in the order of meeting. -/
structure Export (before : List BlockId) (α : Type) where
  value : α
  met : List BlockId
  again : List BlockId
  grows : before ⊆ met

namespace Export

variable {α β : Type} {before : List BlockId}

/-- The same export with another result. -/
def map (f : α → β) (e : Export before α) : Export before β :=
  ⟨f e.value, e.met, e.again, e.grows⟩

/-- One export after another. -/
def andThen (e : Export before α) (f : (value : α) → Export e.met β) : Export before β :=
  let later := f e.value
  ⟨later.value, later.met, e.again ++ later.again, List.Subset.trans e.grows later.grows⟩

end Export

namespace Workspace

/-- The inputs for some slots of a block, where `visit` exports a block that a slot names: alone, or
with its successors. Of two slots with one name the later one counts. -/
def exportSlots (block : Block) (before : List BlockId)
    (visit : (met : List BlockId) → before ⊆ met → (withNext : Bool) → BlockId →
      Export met (List BlockTree)) :
    List String → (inputs : List TreeInput) → (met : List BlockId) → before ⊆ met →
      Export met (List TreeInput)
  | [], inputs, met, _ => ⟨inputs, met, [], List.Subset.refl met⟩
  | slot :: rest, inputs, met, grown =>
    let this : Export met TreeInput :=
      match block.slots[slot]? with
      | none => ⟨.empty slot, met, [], List.Subset.refl met⟩
      | some (.single child) =>
        (visit met grown false child).map fun
          | [] => .empty slot
          | tree :: _ => .single slot tree
      | some (.chain head) => (visit met grown true head).map (.chain slot)
    this.andThen fun input =>
      exportSlots block before visit rest (input.place inputs) this.met
        (List.Subset.trans grown this.grows)

/-- The tree of a block and, when `withNext` holds, those of its successors. A block that does not
exist gives nothing; a stub ends a chain. -/
def exportFrom (w : Workspace) (before : List BlockId) (withNext : Bool) (id : BlockId) :
    Export before (List BlockTree) :=
  match _ : w.get? id with
  | none => ⟨[], before, [], List.Subset.refl before⟩
  | some block =>
    if _ : id ∈ before then ⟨[.stub id block.type], before, [id], List.Subset.refl before⟩
    else
      let opened : Export before Unit :=
        ⟨(), id :: before, [], List.subset_cons_self id before⟩
      let slots := opened.andThen fun _ =>
        exportSlots block (id :: before)
          (fun met _ withNext child => w.exportFrom met withNext child)
          (w.slotNames block) [] (id :: before) (List.Subset.refl (id :: before))
      match withNext, block.next with
      | true, some next =>
        slots.andThen fun inputs =>
          (w.exportFrom slots.met true next).map fun rest =>
            .mk id block.type block.fields inputs (some next) false :: rest
      | _, _ => slots.map fun inputs => [.mk id block.type block.fields inputs none false]
termination_by w.unseen before
decreasing_by
  · exact Nat.lt_of_le_of_lt (unseen_le_of_subset ‹id :: before ⊆ met›)
      (unseen_cons_lt ‹w.get? id = some block› ‹id ∉ before›)
  · refine Nat.lt_of_le_of_lt (unseen_le_of_subset ?_)
      (unseen_cons_lt ‹w.get? id = some block› ‹id ∉ before›)
    exact (exportSlots block _ _ _ _ _ _).grows

/-- The trees of some blocks in order. -/
def exportAll (w : Workspace) :
    (before : List BlockId) → List BlockId → Export before (List BlockTree)
  | before, [] => ⟨[], before, [], List.Subset.refl before⟩
  | before, id :: rest =>
    let first := w.exportFrom before false id
    first.andThen fun trees => (w.exportAll first.met rest).map fun more => trees ++ more

/-- The trees of all roots, and the blocks that were met again. -/
def exportRoots (w : Workspace) : List BlockTree × List BlockId :=
  let all := w.exportAll [] w.roots
  (all.value, all.again)

/-- The trees of all roots. -/
def toTrees (w : Workspace) : List BlockTree :=
  w.exportRoots.1

end Workspace

end SolanaBlocks
