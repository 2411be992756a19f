import SolanaBlocks.Workspace.Edit

/-!
# Blocks and seats in tables of their own

How a workspace is kept: one table has the blocks, each with its fields, its slots and its link, and
another one has the seats. An edit writes to the two one after the other. Nothing in the form of the
data keeps a seat from staying behind when its block goes, or from being written for a block that is
not there.

What is looked up here and the small steps of an edit are those of a workspace, read off these two
tables and written to them.
-/

namespace SolanaBlocks

/-- A block as the table of blocks has it, without its seat. -/
structure Node where
  type : String
  fields : NameTable FieldValue
  slots : NameTable SlotContent := ∅
  next : Option BlockId := none

/-- The blocks under edit, and beside them the seats that some of them have. -/
structure Arena where
  palette : Palette
  nodes : Std.ExtTreeMap BlockId Node := ∅
  seats : Std.ExtTreeMap BlockId Seat := ∅
  roots : List BlockId := []
  counter : Nat := 0
  revision : Nat := 0

namespace Arena

/-! ## Looking things up -/

/-- The block with a given id. -/
def get? (g : Arena) (id : BlockId) : Option Node := g.nodes[id]?

/-- Whether a block with this id exists. -/
def contains (g : Arena) (id : BlockId) : Bool := g.nodes.contains id

/-- The declaration that a block follows. -/
def typeOf? (g : Arena) (node : Node) : Option BlockType := g.palette.get? node.type

/-- The successor of a block in its chain. -/
def next? (g : Arena) (id : BlockId) : Option BlockId := (g.get? id).bind Node.next

/-- The seat that is on record for an id. -/
def seat? (g : Arena) (id : BlockId) : Option Seat := g.seats[id]?

/-- What a slot of a block holds. -/
def slot? (g : Arena) (id : BlockId) (slot : String) : Option SlotContent :=
  (g.get? id).bind fun node => node.slots[slot]?

/-- Whether a block is one of the roots. -/
def isRoot (g : Arena) (id : BlockId) : Bool := g.roots.contains id

theorem contains_iff {g : Arena} {id : BlockId} :
    g.contains id = true ↔ ∃ node, g.get? id = some node := by
  rw [contains, get?, Std.ExtTreeMap.contains_eq_isSome_getElem?, Option.isSome_iff_exists]

theorem contains_eq_false_iff {g : Arena} {id : BlockId} :
    g.contains id = false ↔ g.get? id = none := by
  rw [contains, get?, Std.ExtTreeMap.contains_eq_isSome_getElem?, Option.isSome_eq_false_iff,
    Option.isNone_iff_eq_none]

theorem mem_keys_of_get? {g : Arena} {id : BlockId} {node : Node} (found : g.get? id = some node) :
    id ∈ g.nodes.keys := by
  rw [Std.ExtTreeMap.mem_keys, ← Std.ExtTreeMap.isSome_getElem?_iff_mem]
  exact Option.isSome_of_eq_some found

/-- The walk along links from `id`, where `seen` holds the ids already passed. -/
def walkFrom (g : Arena) (seen : List BlockId) (id : BlockId) : ChainWalk :=
  if _ : id ∈ seen then { members := [], revisited := some id }
  else
    match _ : g.get? id with
    | none => { members := [id] }
    | some node =>
      match node.next with
      | none => { members := [id] }
      | some next =>
        let rest := g.walkFrom (id :: seen) next
        { rest with members := id :: rest.members }
termination_by g.nodes.keys.countP fun x => !seen.contains x
decreasing_by exact countP_notMem_cons_lt (mem_keys_of_get? ‹g.get? id = some node›) ‹id ∉ seen›

/-- The chain that starts at `head`. -/
def walkChain (g : Arena) (head : BlockId) : ChainWalk :=
  g.walkFrom [] head

/-- The blocks that own one of the seats on record. -/
def owners (g : Arena) : List BlockId :=
  g.seats.toList.map fun entry => entry.2.owner

theorem owner_mem_owners {g : Arena} {id : BlockId} {seat : Seat} (sits : g.seat? id = some seat) :
    seat.owner ∈ g.owners :=
  List.mem_map.2 ⟨(id, seat), Std.ExtTreeMap.mem_toList_iff_getElem?_eq_some.2 sits, rfl⟩

/-- The owners above `id`, nearest first, where `seen` holds the owners already passed. Only the
seats are looked at. -/
def ancestorsFrom (g : Arena) (seen : List BlockId) (id : BlockId) : List BlockId :=
  match _ : g.seat? id with
  | none => []
  | some seat =>
    if _ : seat.owner ∈ seen then []
    else seat.owner :: g.ancestorsFrom (seat.owner :: seen) seat.owner
termination_by g.owners.countP fun x => !seen.contains x
decreasing_by
  exact countP_notMem_cons_lt (owner_mem_owners ‹g.seat? id = some seat›) ‹seat.owner ∉ seen›

/-- The owners above a block, nearest first. -/
def ancestors (g : Arena) (id : BlockId) : List BlockId :=
  g.ancestorsFrom [] id

/-- The slots of a block in the order its type declares them, and then those that are in use without
a declaration. -/
def slotNames (g : Arena) (node : Node) : List String :=
  let declared := ((g.typeOf? node).map fun type => type.slots.map SlotDecl.name).getD []
  declared ++ node.slots.keys.filter fun name => !declared.contains name

/-- The blocks in one slot. -/
def contentMembers (g : Arena) : SlotContent → List BlockId
  | .single child => [child]
  | .chain head => (g.walkChain head).members

/-- The blocks in the slots of a block: slots in order, chains in chain order. -/
def children (g : Arena) (id : BlockId) : List BlockId :=
  match g.get? id with
  | none => []
  | some node =>
    (g.slotNames node).flatMap fun name =>
      match node.slots[name]? with
      | none => []
      | some content => g.contentMembers content

/-- The members of a block's chain from the first one to the block itself. -/
def chainPrefix (g : Arena) (seat : Seat) (id : BlockId) : List BlockId :=
  match g.slot? seat.owner seat.slot with
  | some (.chain head) =>
    let members := (g.walkChain head).members
    members.takeWhile (· != id) ++ (members.find? (· == id)).toList
  | _ => [id]

/-- Whether a link from `id` to `target` would lead back into the chain up to `id`, or to a block
that contains it. -/
def linksBack (g : Arena) (seat : Seat) (id target : BlockId) : Bool :=
  target == id || (g.ancestors id).contains target || (g.chainPrefix seat id).contains target

/-! ## Small steps -/

/-- The same arena with one block changed, if there is this block. -/
def modify (g : Arena) (id : BlockId) (change : Node → Node) : Arena :=
  { g with nodes := g.nodes.modify id change }

/-- Puts a seat on record, whether there is such a block or not. -/
def seatAt (g : Arena) (id : BlockId) (seat : Seat) : Arena :=
  { g with seats := g.seats.insert id seat }

/-- Strikes a seat off the record. -/
def unseat (g : Arena) (id : BlockId) : Arena :=
  { g with seats := g.seats.erase id }

/-- Sends a block to the top level, unlinked from its chain and its seat. -/
def toTop (g : Arena) (id : BlockId) : Arena :=
  let g := g.modify id fun node => { node with next := none }
  let g := g.unseat id
  if g.isRoot id then g else { g with roots := g.roots ++ [id] }

/-- Takes a block out of its place, leaving everything below it as it is. A chain closes over the
gap. -/
def detach (g : Arena) (id : BlockId) : Arena :=
  if g.isRoot id then { g with roots := g.roots.erase id }
  else
    match g.seat? id with
    | none => g
    | some seat =>
      let g := g.unseat id
      let successor := g.next? id
      let g := g.modify id fun node => { node with next := none }
      match g.slot? seat.owner seat.slot with
      | none => g
      | some (.single child) =>
        if child = id then
          g.modify seat.owner fun node => { node with slots := node.slots.erase seat.slot }
        else g
      | some (.chain head) =>
        if head = id then
          g.modify seat.owner fun node =>
            { node with
              slots :=
                match successor with
                | none => node.slots.erase seat.slot
                | some next => node.slots.insert seat.slot (.chain next) }
        else
          match (g.walkChain head).members.find? fun member => g.next? member == some id with
          | none => g
          | some predecessor => g.modify predecessor fun node => { node with next := successor }

/-- Empties a slot and sends what it held to the top level, in order. -/
def release (g : Arena) (owner : BlockId) (slot : String) : Arena × List BlockId :=
  match g.slot? owner slot with
  | none => (g, [])
  | some content =>
    let g := g.modify owner fun node => { node with slots := node.slots.erase slot }
    let released := g.contentMembers content
    (released.foldl toTop g, released)

/-- Links each block to the one after it. -/
def linkChain (g : Arena) : List BlockId → Arena
  | a :: b :: rest => (g.modify a fun node => { node with next := some b }).linkChain (b :: rest)
  | _ => g

/-- Gives blocks their seats and names the first of them in the slot. -/
def fill (g : Arena) (owner : BlockId) (slot : String) (members : List BlockId)
    (content : SlotContent) : Arena :=
  let g := members.foldl (fun g child => g.seatAt child ⟨owner, slot⟩) g
  g.modify owner fun node => { node with slots := node.slots.insert slot content }

/-- Sends the members of the chain behind `id` to the top level, as far as none of them is among
`kept`. -/
def cutBehind (g : Arena) (kept : List BlockId) (head : BlockId) : Arena :=
  ((g.walkChain head).members.takeWhile fun member => !kept.contains member).foldl toTop g

/-- Takes a block out of both tables and off the top level. -/
def drop (g : Arena) (id : BlockId) : Arena :=
  { g with
    nodes := g.nodes.erase id
    seats := g.seats.erase id
    roots := g.roots.filter fun root => root != id }

theorem size_drop (g : Arena) (id : BlockId) :
    (g.drop id).nodes.size = if g.contains id then g.nodes.size - 1 else g.nodes.size :=
  Std.ExtTreeMap.size_erase

theorem size_drop_lt {g : Arena} {id : BlockId} (alive : g.contains id = true) :
    (g.drop id).nodes.size < g.nodes.size := by
  have here : id ∈ g.nodes := Std.ExtTreeMap.mem_iff_contains.2 alive
  have positive : g.nodes.size ≠ 0 := fun none =>
    Std.ExtTreeMap.not_mem_empty (Std.ExtTreeMap.eq_empty_iff_size_eq_zero.2 none ▸ here)
  rw [size_drop, if_pos alive]
  exact Nat.pred_lt positive

theorem children_of_contains_eq_false {g : Arena} {id : BlockId} (dead : g.contains id = false) :
    g.children id = [] := by
  rw [children, contains_eq_false_iff.1 dead]

/-- Drops the ids on a stack and everything below them, the topmost first, where `seen` holds the
ids already dropped. The result lists those that belonged to a block. -/
def removeFrom (g : Arena) (seen : List BlockId) : List BlockId → Arena × List BlockId
  | [] => (g, [])
  | id :: stack =>
    if id ∈ seen then g.removeFrom seen stack
    else
      let below := (g.children id).reverse
      let (g', removed) := (g.drop id).removeFrom (id :: seen) (below ++ stack)
      (g', if g.contains id then id :: removed else removed)
termination_by stack => (g.nodes.size, stack.length)
decreasing_by
  · exact .right _ (Nat.lt_succ_self _)
  · cases alive : g.contains id with
    | true => exact .left _ _ (size_drop_lt alive)
    | false =>
      rw [size_drop, if_neg (by simp [alive]), children_of_contains_eq_false alive]
      exact .right _ (Nat.lt_succ_self _)

/-- The first of the numbers `n`, `n + 1`, … whose id is free, looking at `tries` of them. -/
def firstFree (g : Arena) : Nat → Nat → Nat
  | 0, n => n
  | tries + 1, n =>
    if g.contains (Workspace.numberedId n) then g.firstFree tries (n + 1) else n

end Arena

end SolanaBlocks
