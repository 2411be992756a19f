import SolanaBlocks.BlockTree.Basic
import SolanaBlocks.Workspace.Edit

/-!
# From block trees to a workspace

Trees are planted by ordinary edits: each block is created, and its slots are filled in the order of
their names. Stubs are passed over. The first edit that is refused ends the import.
-/

namespace SolanaBlocks

namespace Workspace

mutual

/-- Plants a tree at the top level. A stub plants nothing. -/
def plant (w : Workspace) : BlockTree → Except EditError (Workspace × Option BlockId)
  | .mk id type fields inputs _ revisited =>
    if revisited then .ok (w, none)
    else do
      let w ← w.createAs id type fields.toList
      let w ← w.plantInputs id inputs
      return (w, some id)

/-- Plants what belongs into the slots of a block. -/
def plantInputs (w : Workspace) (owner : BlockId) : List TreeInput → Except EditError Workspace
  | [] => .ok w
  | .empty _ :: rest => w.plantInputs owner rest
  | .single slot child :: rest => do
    let (w, id?) ← w.plant child
    match id? with
    | none => w.plantInputs owner rest
    | some id =>
      let w ← w.bind owner slot (.single id)
      w.plantInputs owner rest
  | .chain slot members :: rest => do
    let (w, ids) ← w.plantMembers members
    if ids.isEmpty then w.plantInputs owner rest
    else
      let w ← w.bind owner slot (.chain ids)
      w.plantInputs owner rest

/-- Plants the members of a chain one after the other. -/
def plantMembers (w : Workspace) : List BlockTree → Except EditError (Workspace × List BlockId)
  | [] => .ok (w, [])
  | member :: rest => do
    let (w, id?) ← w.plant member
    let (w, ids) ← w.plantMembers rest
    return (w, id?.toList ++ ids)

end

/-- The workspace that some trees describe. -/
def ofTrees (palette : Palette) (trees : List BlockTree) : Except EditError Workspace :=
  (plantMembers { palette := palette } trees).map Prod.fst

end Workspace

end SolanaBlocks
