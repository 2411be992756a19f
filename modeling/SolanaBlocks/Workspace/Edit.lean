import SolanaBlocks.Workspace.EditError
import SolanaBlocks.Workspace.Walk

/-!
# Editing a workspace

Creating and removing blocks, setting fields, and moving blocks between slots, chains and the top
level. Each operation first checks everything that could be refused and then changes the workspace,
so that a refused edit leaves no trace but the number it may have drawn for a new id. Whatever is
displaced from a slot comes back to the end of the top level.
-/

namespace SolanaBlocks

/-- What is offered to a slot. -/
inductive SlotInput where
  | single (child : BlockId)
  | chain (children : List BlockId)
deriving DecidableEq, Repr

namespace SlotInput

/-- The blocks on offer, in order. -/
def members : SlotInput → List BlockId
  | single child => [child]
  | chain children => children

/-- The kind of slot that takes this. -/
def arity : SlotInput → SlotArity
  | single _ => .expression
  | chain _ => .chain

end SlotInput

namespace Workspace

/-! ## Small steps -/

/-- The same workspace with one block changed. -/
def modify (w : Workspace) (id : BlockId) (change : Block → Block) : Workspace :=
  { w with blocks := w.blocks.modify id change }

/-- The same workspace, counted as one change further. -/
def bump (w : Workspace) : Workspace :=
  { w with revision := w.revision + 1 }

/-- The declaration of a block's type; the block has to exist. -/
def requireType (w : Workspace) (id : BlockId) : Except EditError BlockType :=
  match w.get? id with
  | none => .error (.noSuchBlock id)
  | some block =>
    match w.typeOf? block with
    | none => .error (.unknownType block.type)
    | some type => .ok type

/-- Sends a block to the top level, unlinked from its chain and its seat. -/
def toTop (w : Workspace) (id : BlockId) : Workspace :=
  let w := w.modify id fun block => { block with next := none, seat := none }
  if w.isRoot id then w else { w with roots := w.roots ++ [id] }

/-- Takes a block out of its place, leaving everything below it as it is. A chain closes over the
gap. -/
def detach (w : Workspace) (id : BlockId) : Workspace :=
  if w.isRoot id then { w with roots := w.roots.erase id }
  else
    match w.seat? id with
    | none => w
    | some seat =>
      let successor := w.next? id
      let w := w.modify id fun block => { block with next := none, seat := none }
      match w.slot? seat.owner seat.slot with
      | none => w
      | some (.single child) =>
        if child = id then
          w.modify seat.owner fun block => { block with slots := block.slots.erase seat.slot }
        else w
      | some (.chain head) =>
        if head = id then
          w.modify seat.owner fun block =>
            { block with
              slots :=
                match successor with
                | none => block.slots.erase seat.slot
                | some next => block.slots.insert seat.slot (.chain next) }
        else
          match (w.walkChain head).members.find? fun member => w.next? member == some id with
          | none => w
          | some predecessor => w.modify predecessor fun block => { block with next := successor }

/-- Empties a slot and sends what it held to the top level, in order. -/
def release (w : Workspace) (owner : BlockId) (slot : String) : Workspace × List BlockId :=
  match w.slot? owner slot with
  | none => (w, [])
  | some content =>
    let w := w.modify owner fun block => { block with slots := block.slots.erase slot }
    let released := w.contentMembers content
    (released.foldl toTop w, released)

/-! ## Creation and fields -/

/-- The fields of a new block: the default of every declared field. -/
def defaultFields (type : BlockType) : NameTable FieldValue :=
  type.fields.foldl (fun table field => table.insert field.name field.default) ∅

/-- Sets given fields one after the other. Only declared fields may be set. -/
def setFields (type : BlockType) :
    NameTable FieldValue → List (String × FieldValue) → Except EditError (NameTable FieldValue)
  | table, [] => .ok table
  | table, (name, value) :: rest =>
    if (type.field? name).isNone then .error (.unknownField type.id name)
    else setFields type (table.insert name value) rest

/-- Creates a root with a given id. -/
def createAs (w : Workspace) (id : BlockId) (type : String) (given : List (String × FieldValue)) :
    Except EditError Workspace :=
  if w.contains id then .error (.duplicateId id)
  else
    match w.palette.get? type with
    | none => .error (.unknownType type)
    | some declaration =>
      match setFields declaration (defaultFields declaration) given with
      | .error e => .error e
      | .ok fields =>
        .ok <| bump
          { w with
            blocks := w.blocks.insert id { type := type, fields := fields }
            roots := w.roots ++ [id] }

/-- The id that the workspace makes up for a number. -/
def numberedId (n : Nat) : BlockId := ⟨"blk-" ++ toString n⟩

/-- The first of the numbers `n`, `n + 1`, … whose id is free, looking at `tries` of them. Among one
more than there are blocks, one is free. -/
def firstFree (w : Workspace) : Nat → Nat → Nat
  | 0, n => n
  | tries + 1, n => if w.contains (numberedId n) then w.firstFree tries (n + 1) else n

/-- Draws the number of the next made-up id. The number is used up even if it is not needed after
all. -/
def drawNumber (w : Workspace) : Nat × Workspace :=
  let n := w.firstFree w.size (w.counter + 1)
  (n, { w with counter := n })

/-- Sets a declared field of a block. -/
def setField (w : Workspace) (id : BlockId) (name : String) (value : FieldValue) :
    Except EditError Workspace := do
  let type ← w.requireType id
  if (type.field? name).isNone then
    throw (.unknownField type.id name)
  return bump (w.modify id fun block => { block with fields := block.fields.insert name value })

/-! ## Slots -/

/-- How a block of the given type fails to fit a slot, if it does. -/
def mismatch? (arity : SlotArity) (type : BlockType) : Option KindMismatch :=
  match arity, type.producesValue with
  | .expression, false => some .statementAsValue
  | .chain, true => some .valueAsStatement
  | _, _ => none

/-- Checks the blocks offered to a slot, each of them new, fitting, and neither the owner nor above
it. -/
def checkMembers (w : Workspace) (owner : BlockId) (above : List BlockId) (slot : String)
    (arity : SlotArity) : List BlockId → List BlockId → Except EditError Unit
  | _, [] => .ok ()
  | before, child :: rest =>
    match w.requireType child with
    | .error e => .error e
    | .ok type =>
      if child ∈ before then .error (.duplicateId child)
      else if child = owner ∨ child ∈ above then .error (.ownAncestor owner child)
      else
        match mismatch? arity type with
        | some mismatch => .error (.wrongKind owner slot child type.id mismatch)
        | none => w.checkMembers owner above slot arity (child :: before) rest

/-- Links each block to the one after it. -/
def linkChain (w : Workspace) : List BlockId → Workspace
  | a :: b :: rest =>
    (w.modify a fun block => { block with next := some b }).linkChain (b :: rest)
  | _ => w

/-- Seats blocks that have been taken out of their places in an empty slot. -/
def seatMembers (w : Workspace) (owner : BlockId) (slot : String) (input : SlotInput) :
    Workspace :=
  let fill (w : Workspace) (content : SlotContent) : Workspace :=
    let w := input.members.foldl
      (fun w child => w.modify child fun block => { block with seat := some ⟨owner, slot⟩ }) w
    w.modify owner fun block => { block with slots := block.slots.insert slot content }
  match input with
  | .single child => fill w (.single child)
  | .chain [] => w
  | .chain (head :: rest) => fill (w.linkChain (head :: rest)) (.chain head)

/-- Puts blocks into a slot. They leave the places where they were; what the slot held before and
is not among them goes to the top level. -/
def bind (w : Workspace) (owner : BlockId) (slot : String) (input : SlotInput) :
    Except EditError Workspace := do
  let type ← w.requireType owner
  match type.slot? slot with
  | none => throw (.unknownSlot type.id slot)
  | some declaration =>
    if declaration.arity ≠ input.arity then
      throw (.wrongArity owner slot declaration.arity)
    w.checkMembers owner (w.ancestors owner) slot declaration.arity [] input.members
    let w := input.members.foldl detach w
    let (w, _) := w.release owner slot
    return bump (w.seatMembers owner slot input)

/-- Empties a slot and returns what it held. -/
def unbind (w : Workspace) (owner : BlockId) (slot : String) :
    Except EditError (Workspace × List BlockId) :=
  match w.get? owner with
  | none => .error (.noSuchBlock owner)
  | some _ =>
    let (w, released) := w.release owner slot
    .ok (w.bump, released)

/-! ## Chains -/

/-- The members of a block's chain from the first one to the block itself. -/
def chainPrefix (w : Workspace) (seat : Seat) (id : BlockId) : List BlockId :=
  match w.slot? seat.owner seat.slot with
  | some (.chain head) =>
    let members := (w.walkChain head).members
    members.takeWhile (· != id) ++ (members.find? (· == id)).toList
  | _ => [id]

/-- Whether a link from `id` to `target` would lead back into the chain up to `id`, or to a block
that contains it. -/
def linksBack (w : Workspace) (seat : Seat) (id target : BlockId) : Bool :=
  target == id || (w.ancestors id).contains target || (w.chainPrefix seat id).contains target

/-- Ends a chain after `id`. The members cut off go to the top level. -/
def cutAfter (w : Workspace) (seat : Seat) (id : BlockId) : Workspace :=
  let kept := w.chainPrefix seat id
  match w.next? id with
  | none => w
  | some head =>
    let w := w.modify id fun block => { block with next := none }
    ((w.walkChain head).members.takeWhile fun member => !kept.contains member).foldl toTop w

/-- Moves `target` behind `id` in the chain of `id`, in front of the present successor. -/
def spliceAfter (w : Workspace) (seat : Seat) (id target : BlockId) : Workspace :=
  let w := w.detach target
  let successor := w.next? id
  let w := w.modify id fun block => { block with next := some target }
  w.modify target fun block => { block with next := successor, seat := some seat }

/-- Gives a chain member a new successor, or makes it the last of its chain. A link that leads back
is made as it stands and leaves a cycle behind. -/
def setNext (w : Workspace) (id : BlockId) (next : Option BlockId) :
    Except EditError Workspace := do
  match w.seat? id with
  | none => throw (.notInChain id)
  | some seat =>
    let ownerType ← w.requireType seat.owner
    if (ownerType.slot? seat.slot).all fun slot => slot.arity != .chain then
      throw (.notInChain id)
    match next with
    | none => return bump (w.cutAfter seat id)
    | some target =>
      let targetType ← w.requireType target
      if targetType.producesValue then
        throw (.wrongKind seat.owner seat.slot target targetType.id .valueAsStatement)
      if w.linksBack seat id target then
        return bump (w.modify id fun block => { block with next := some target })
      else
        return bump (w.spliceAfter seat id target)

/-! ## Removal and order -/

/-- The same workspace without the given ids in its top level. -/
def dropRoots (w : Workspace) (ids : List BlockId) : Workspace :=
  { w with roots := w.roots.filter fun root => !ids.contains root }

/-- Removes the blocks on a stack with everything below them, the topmost first; ids on the stack
that belong to no block only leave the top level. Of the children of a block the last one is removed
first. -/
def removeAll (w : Workspace) (stack : List BlockId) : Workspace × List BlockId :=
  match _ : stack.find? w.contains with
  | none => (w.dropRoots stack, [])
  | some id =>
    let (dead, rest) := stack.span fun other => !w.contains other
    let below := (w.children id).reverse
    let w' := w.dropRoots (id :: dead)
    let (w', removed) := { w' with blocks := w.blocks.erase id }.removeAll (below ++ rest.tail)
    (w', id :: removed)
termination_by w.blocks.size
decreasing_by
  have alive : w.blocks.contains id = true := List.find?_some ‹stack.find? w.contains = some id›
  have positive : w.blocks.size ≠ 0 := by
    intro h
    simp [Std.ExtTreeMap.eq_empty_iff_size_eq_zero.2 h] at alive
  rw [Std.ExtTreeMap.size_erase, if_pos alive]
  omega

/-- Removes a block with everything below it, and lists what was removed. Its successors stay in
their chain. -/
def remove (w : Workspace) (id : BlockId) : Except EditError (Workspace × List BlockId) :=
  match w.get? id with
  | none => .error (.noSuchBlock id)
  | some _ =>
    let (w, removed) := (w.detach id).removeAll [id]
    .ok (w.bump, removed)

/-- Moves a root to a position among the other roots, the last one if there are not that many. -/
def moveRoot (w : Workspace) (id : BlockId) (index : Nat) : Except EditError Workspace :=
  if w.isRoot id then
    let others := w.roots.erase id
    .ok (bump { w with roots := others.take index ++ id :: others.drop index })
  else .error (.noSuchBlock id)

end Workspace

/-- A change to a workspace as a user asks for it. -/
inductive Edit where
  | create (id : Option BlockId) (type : String) (fields : List (String × FieldValue))
  | setField (id : BlockId) (name : String) (value : FieldValue)
  | bind (owner : BlockId) (slot : String) (input : SlotInput)
  | unbind (owner : BlockId) (slot : String)
  | setNext (id : BlockId) (next : Option BlockId)
  | remove (id : BlockId)
  | moveRoot (id : BlockId) (index : Nat)

/-- What a successful edit reports. -/
inductive EditResult where
  | done
  | created (id : BlockId)
  | released (ids : List BlockId)
  | removed (ids : List BlockId)
deriving DecidableEq, Repr

namespace Workspace

/-- Carries out an edit. A refused edit leaves the workspace as it was, apart from a number drawn
for an id. -/
def apply (w : Workspace) (edit : Edit) : Workspace × Except EditError EditResult :=
  let keep (w' : Workspace) : Except EditError (Workspace × EditResult) →
      Workspace × Except EditError EditResult
    | .ok (changed, result) => (changed, .ok result)
    | .error e => (w', .error e)
  match edit with
  | .create none type fields =>
    let (n, drawn) := w.drawNumber
    let id := numberedId n
    keep drawn ((drawn.createAs id type fields).map fun changed => (changed, .created id))
  | .create (some id) type fields =>
    keep w ((w.createAs id type fields).map fun changed => (changed, .created id))
  | .setField id name value =>
    keep w ((w.setField id name value).map fun changed => (changed, .done))
  | .bind owner slot input => keep w ((w.bind owner slot input).map fun changed => (changed, .done))
  | .unbind owner slot =>
    keep w ((w.unbind owner slot).map fun (changed, ids) => (changed, .released ids))
  | .setNext id next => keep w ((w.setNext id next).map fun changed => (changed, .done))
  | .remove id => keep w ((w.remove id).map fun (changed, ids) => (changed, .removed ids))
  | .moveRoot id index => keep w ((w.moveRoot id index).map fun changed => (changed, .done))

/-- Carries out edits in order up to the first that is refused. -/
def applyAll (w : Workspace) : List Edit → Workspace × List EditResult × Option EditError
  | [] => (w, [], none)
  | edit :: rest =>
    match w.apply edit with
    | (w', .error e) => (w', [], some e)
    | (w', .ok result) =>
      let (w'', results, refusal) := w'.applyAll rest
      (w'', result :: results, refusal)

end Workspace

end SolanaBlocks
