import SolanaBlocks.Workspace.Basic

/-!
# Walks through a workspace

Along a chain, up to the ancestors, down to the children, and breadth first over everything below
the roots. Every walk stops where it would meet a block a second time, so all of them end even when
links have been bent into a cycle.
-/

namespace SolanaBlocks

/-- A chain as it was walked: its members in order, and the first id that came up a second time. -/
structure ChainWalk where
  members : List BlockId
  revisited : Option BlockId := none
deriving DecidableEq, Repr

namespace Workspace

/-- The walk along `next` links from `id`, where `seen` holds the ids already passed. -/
def walkFrom (w : Workspace) (seen : List BlockId) (id : BlockId) : ChainWalk :=
  if _ : id ∈ seen then { members := [], revisited := some id }
  else
    match _ : w.get? id with
    | none => { members := [id] }
    | some block =>
      match block.next with
      | none => { members := [id] }
      | some next =>
        let rest := w.walkFrom (id :: seen) next
        { rest with members := id :: rest.members }
termination_by w.unseen seen
decreasing_by exact unseen_cons_lt ‹w.get? id = some block› ‹id ∉ seen›

/-- The chain that starts at `head`. -/
def walkChain (w : Workspace) (head : BlockId) : ChainWalk :=
  w.walkFrom [] head

/-- The owners above `id`, nearest first, where `seen` holds the owners already passed. -/
def ancestorsFrom (w : Workspace) (seen : List BlockId) (id : BlockId) : List BlockId :=
  match _ : w.get? id with
  | none => []
  | some block =>
    match block.seat with
    | none => []
    | some seat =>
      if _ : seat.owner ∈ seen then []
      else seat.owner :: w.ancestorsFrom (seat.owner :: seen) seat.owner
termination_by 2 * w.unseen seen + (w.get? id).isSome.toNat
decreasing_by
  rw [‹w.get? id = some block›]
  cases owner : w.get? seat.owner with
  | none =>
    have := unseen_le_of_subset (w := w) (List.subset_cons_self seat.owner seen)
    simp
    omega
  | some _ =>
    have := unseen_cons_lt owner ‹seat.owner ∉ seen›
    simp
    omega

/-- The owners above a block, nearest first. -/
def ancestors (w : Workspace) (id : BlockId) : List BlockId :=
  w.ancestorsFrom [] id

/-- Whether a block of the given type owns `id`, directly or further up. -/
def hasAncestorOfType (w : Workspace) (id : BlockId) (type : String) : Bool :=
  (w.ancestors id).any fun ancestor => (w.get? ancestor).any fun block => block.type == type

/-- The slots of a block in the order its type declares them, and then those that are in use without
a declaration. -/
def slotNames (w : Workspace) (block : Block) : List String :=
  let declared := ((w.typeOf? block).map fun type => type.slots.map SlotDecl.name).getD []
  declared ++ block.slots.keys.filter fun name => !declared.contains name

/-- The blocks in one slot. -/
def contentMembers (w : Workspace) : SlotContent → List BlockId
  | .single child => [child]
  | .chain head => (w.walkChain head).members

/-- The blocks in the slots of a block: slots in order, chains in chain order. -/
def children (w : Workspace) (id : BlockId) : List BlockId :=
  match w.get? id with
  | none => []
  | some block =>
    (w.slotNames block).flatMap fun name =>
      match block.slots[name]? with
      | none => []
      | some content => w.contentMembers content

/-- The blocks not in `seen`, each followed by its children: what a breadth-first walk may still
have to look at. -/
def pendingWork (w : Workspace) (seen : List BlockId) : Nat :=
  ((w.ids.filter fun id => !seen.contains id).flatMap fun id => id :: w.children id).length

theorem length_pending_cons_le (children : BlockId → List BlockId) (id : BlockId)
    (seen l : List BlockId) :
    ((l.filter fun x => !(id :: seen).contains x).flatMap fun x => x :: children x).length ≤
      ((l.filter fun x => !seen.contains x).flatMap fun x => x :: children x).length := by
  induction l with
  | nil => exact Nat.le_refl _
  | cons x l ih =>
    by_cases hs : x ∈ seen
    · simpa [hs] using ih
    · by_cases hx : x = id
      · simp_all [List.flatMap_cons]
        omega
      · simpa [hs, hx] using ih

theorem pendingWork_cons_le (w : Workspace) (id : BlockId) (seen : List BlockId) :
    w.pendingWork (id :: seen) ≤ w.pendingWork seen :=
  length_pending_cons_le w.children id seen w.ids

theorem pendingWork_cons_add_le {w : Workspace} {id : BlockId} {seen : List BlockId}
    (alive : id ∈ w.ids) (new : id ∉ seen) :
    w.pendingWork (id :: seen) + ((w.children id).length + 1) ≤ w.pendingWork seen := by
  unfold pendingWork
  generalize w.ids = l at alive
  induction l with
  | nil => cases alive
  | cons x l ih =>
    have le := length_pending_cons_le w.children id seen l
    by_cases hx : x = id
    · simp_all [List.flatMap_cons]
      omega
    · have more := ih (List.mem_of_ne_of_mem (Ne.symm hx) alive)
      by_cases hs : x ∈ seen
      · simpa [hs, hx] using more
      · simp_all [List.flatMap_cons]
        omega

/-- The breadth-first walk over a queue, where `seen` holds the ids already taken from it, latest
first. The result lists the ids that are taken from now on. -/
def breadthFirst (w : Workspace) (seen : List BlockId) : List BlockId → List BlockId
  | [] => []
  | id :: queue =>
    if _ : id ∈ seen then w.breadthFirst seen queue
    else id :: w.breadthFirst (id :: seen) (queue ++ w.children id)
termination_by queue => w.pendingWork seen + queue.length
decreasing_by
  · simp
  · by_cases alive : id ∈ w.ids
    · have := pendingWork_cons_add_le alive ‹id ∉ seen›
      simp
      omega
    · have none : w.get? id = none := by
        rw [mem_ids] at alive
        simpa [Option.eq_none_iff_forall_ne_some] using alive
      have := w.pendingWork_cons_le id seen
      simp [children, none]
      omega

/-- Every id that can be reached from the roots through children, breadth first, roots first. -/
def workQueue (w : Workspace) : List BlockId :=
  w.breadthFirst [] w.roots

end Workspace

end SolanaBlocks
