import SolanaBlocks.Arena.Basic

/-!
# Edits in place

An edit is carried out here step by step on the arena at hand: it looks things up, checks them and
makes changes in the order in which they come, and whatever has been changed stays changed when a
later step fails. So a chain member that gets a new successor is looked up in the table of blocks
only after the successor has left its place. Nothing here says that such a step succeeds, or that an
edit that fails leaves the arena as it was.
-/

namespace SolanaBlocks

/-- Steps on the arena at hand. What has been changed before a step that fails stays changed. -/
abbrev Procedure := EStateM EditError Arena

namespace Procedure

/-- Looks up a block that has to exist. -/
def require (id : BlockId) : Procedure Node := do
  match (← get).get? id with
  | none => throw (.noSuchBlock id)
  | some node => return node

/-- Looks up the type of a block that has to exist. -/
def requireType (id : BlockId) : Procedure BlockType := do
  let node ← require id
  match (← get).typeOf? node with
  | none => throw (.unknownType node.type)
  | some type => return type

/-- Counts the edit and ends with a result. -/
def count (result : EditResult) : Procedure EditResult := do
  modify fun g => { g with revision := g.revision + 1 }
  return result

/-! ## Creation and fields -/

/-- Checks and sets the given fields of a new block one after the other. -/
def setFields (type : BlockType) :
    NameTable FieldValue → List (String × FieldValue) → Procedure (NameTable FieldValue)
  | table, [] => return table
  | table, (name, value) :: rest => do
    if (type.field? name).isNone then
      throw (.unknownField type.id name)
    setFields type (table.insert name value) rest

/-- Creates a root with a given id. The table of seats is not touched. -/
def createAs (id : BlockId) (type : String) (given : List (String × FieldValue)) :
    Procedure EditResult := do
  if (← get).contains id then
    throw (.duplicateId id)
  match (← get).palette.get? type with
  | none => throw (.unknownType type)
  | some declaration =>
    let fields ← setFields declaration (Workspace.defaultFields declaration) given
    modify fun g => { g with nodes := g.nodes.insert id { type := type, fields := fields } }
    modify fun g => { g with roots := g.roots ++ [id] }
    count (.created id)

/-- Creates a root with an id that is made up for it. The number in the id is used up first. -/
def createNew (type : String) (given : List (String × FieldValue)) : Procedure EditResult := do
  let n := (← get).firstFree (← get).nodes.size ((← get).counter + 1)
  modify fun g => { g with counter := n }
  createAs (Workspace.numberedId n) type given

/-- Sets a declared field of a block. -/
def setField (id : BlockId) (name : String) (value : FieldValue) : Procedure EditResult := do
  let type ← requireType id
  if (type.field? name).isNone then
    throw (.unknownField type.id name)
  let _ ← require id
  modify (·.modify id fun node => { node with fields := node.fields.insert name value })
  count .done

/-! ## Slots -/

/-- Checks the blocks offered to a slot one after the other. -/
def checkMembers (owner : BlockId) (above : List BlockId) (slot : String) (arity : SlotArity) :
    List BlockId → List BlockId → Procedure Unit
  | _, [] => return ()
  | before, child :: rest => do
    let type ← requireType child
    if child ∈ before then
      throw (.duplicateId child)
    if child = owner ∨ child ∈ above then
      throw (.ownAncestor owner child)
    match Workspace.mismatch? arity type with
    | some mismatch => throw (.wrongKind owner slot child type.id mismatch)
    | none => checkMembers owner above slot arity (child :: before) rest

/-- Seats blocks that have been taken out of their places in an empty slot. An empty chain leaves
nothing to be done. -/
def seatMembers (owner : BlockId) (slot : String) : SlotInput → Procedure Unit
  | .single child => modify (·.fill owner slot [child] (.single child))
  | .chain [] => return ()
  | .chain (head :: rest) => do
    modify (·.linkChain (head :: rest))
    modify (·.fill owner slot (head :: rest) (.chain head))

/-- Puts blocks into a slot. They leave the places where they were; what the slot held before and
is not among them goes to the top level. -/
def bind (owner : BlockId) (slot : String) (input : SlotInput) : Procedure EditResult := do
  let type ← requireType owner
  match type.slot? slot with
  | none => throw (.unknownSlot type.id slot)
  | some declaration =>
    if declaration.arity ≠ input.arity then
      throw (.wrongArity owner slot declaration.arity)
    checkMembers owner ((← get).ancestors owner) slot declaration.arity [] input.members
    input.members.forM fun child => modify (·.detach child)
    modify fun g => (g.release owner slot).1
    seatMembers owner slot input
    count .done

/-- Empties a slot. -/
def unbind (owner : BlockId) (slot : String) : Procedure EditResult := do
  let _ ← require owner
  let (emptied, released) := (← get).release owner slot
  set emptied
  count (.released released)

/-! ## Chains -/

/-- Gives a chain member a new successor, or makes it the last of its chain. -/
def setNext (id : BlockId) (next : Option BlockId) : Procedure EditResult := do
  match (← get).seat? id with
  | none => throw (.notInChain id)
  | some seat =>
    let ownerType ← requireType seat.owner
    if (ownerType.slot? seat.slot).all fun slot => slot.arity != .chain then
      throw (.notInChain id)
    match next with
    | none =>
      let kept := (← get).chainPrefix seat id
      let cut := (← require id).next
      modify (·.modify id fun node => { node with next := none })
      match cut with
      | none => count .done
      | some head =>
        modify (·.cutBehind kept head)
        count .done
    | some target =>
      let targetType ← requireType target
      if targetType.producesValue then
        throw (.wrongKind seat.owner seat.slot target targetType.id .valueAsStatement)
      if (← get).linksBack seat id target then
        let _ ← require id
        modify (·.modify id fun node => { node with next := some target })
        count .done
      else
        modify (·.detach target)
        let successor := (← require id).next
        modify (·.modify id fun node => { node with next := some target })
        modify (·.modify target fun node => { node with next := successor })
        modify (·.seatAt target seat)
        count .done

/-! ## Removal and order -/

/-- Removes a block with everything below it. -/
def remove (id : BlockId) : Procedure EditResult := do
  let _ ← require id
  modify (·.detach id)
  let (rest, removed) := (← get).removeFrom [] [id]
  set rest
  count (.removed removed)

/-- Moves a root to another position. -/
def moveRoot (id : BlockId) (index : Nat) : Procedure EditResult := do
  if (← get).isRoot id then
    modify fun g => { g with roots := g.roots.erase id }
    modify fun g => { g with roots := g.roots.take index ++ id :: g.roots.drop index }
    count .done
  else throw (.noSuchBlock id)

end Procedure

/-- An edit step by step. -/
def Edit.inPlace : Edit → Procedure EditResult
  | create none type given => .createNew type given
  | create (some id) type given => .createAs id type given
  | setField id name value => .setField id name value
  | bind owner slot input => .bind owner slot input
  | unbind owner slot => .unbind owner slot
  | setNext id next => .setNext id next
  | remove id => .remove id
  | moveRoot id index => .moveRoot id index

namespace Arena

/-- What an edit leaves, whether it has succeeded or failed on the way. -/
def step (g : Arena) (edit : Edit) : Arena :=
  match edit.inPlace.run g with
  | .ok _ g' => g'
  | .error _ g' => g'

/-- The arena that edits lead to from the empty one. A failed edit does not stop the run. -/
def ofEdits (palette : Palette) (edits : List Edit) : Arena :=
  edits.foldl step { palette := palette }

end Arena

end SolanaBlocks
