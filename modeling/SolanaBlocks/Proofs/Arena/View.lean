import SolanaBlocks.Arena.Procedures
import SolanaBlocks.Proofs.Forest.Layout

/-!
# The workspace that an arena shows

Put together, the two tables of an arena show a workspace. `Shows` says so, and that every seat on
record is the seat of a block; without this the workspace would hide seats that an edit can still
come upon. As long as it holds, whatever is looked up in the arena is found in the workspace too.
-/

namespace SolanaBlocks

/-- The block that a node and its seat make up. -/
def Node.block (node : Node) (seat : Option Seat) : Block where
  type := node.type
  fields := node.fields
  slots := node.slots
  next := node.next
  seat := seat

namespace Arena

/-- A walk in terms of links alone. -/
theorem walkFrom_eq {g : Arena} (seen : List BlockId) (id : BlockId) :
    g.walkFrom seen id =
      if id ∈ seen then { members := [], revisited := some id }
      else
        match g.next? id with
        | none => { members := [id] }
        | some next =>
          let rest := g.walkFrom (id :: seen) next
          { rest with members := id :: rest.members } := by
  rw [walkFrom]
  split
  · rfl
  · unfold next?
    split
    · next none => simp [none]
    · next node found => cases link : node.next <;> simp [found, link]

theorem ancestorsFrom_eq {g : Arena} (seen : List BlockId) (id : BlockId) :
    g.ancestorsFrom seen id =
      match g.seat? id with
      | none => []
      | some seat =>
        if seat.owner ∈ seen then []
        else seat.owner :: g.ancestorsFrom (seat.owner :: seen) seat.owner := by
  rw [ancestorsFrom]
  split
  · next free => rw [free]
  · next seat sits =>
      rw [sits]
      exact dite_eq_ite

/-- The workspace whose blocks have the seats on record. -/
def workspace (g : Arena) : Workspace where
  palette := g.palette
  blocks := g.nodes.map fun id node => node.block (g.seat? id)
  roots := g.roots
  counter := g.counter
  revision := g.revision

/-- The blocks of the workspace are those of the arena, each with its seat on record, and nothing
else has a seat. -/
structure Shows (g : Arena) (w : Workspace) : Prop where
  palette : w.palette = g.palette
  get? : ∀ id, w.get? id = (g.get? id).map fun node => node.block (g.seat? id)
  seated : ∀ id, g.get? id = none → g.seat? id = none
  roots : w.roots = g.roots
  counter : w.counter = g.counter
  revision : w.revision = g.revision

variable {g : Arena} {w : Workspace} {id : BlockId}

theorem shows_workspace (seated : ∀ id, g.get? id = none → g.seat? id = none) :
    Shows g g.workspace where
  palette := rfl
  get? _ := Std.ExtTreeMap.getElem?_map
  seated := seated
  roots := rfl
  counter := rfl
  revision := rfl

namespace Shows

/-- An arena shows no more than one workspace. -/
theorem workspace_eq (h : Shows g w) : g.workspace = w := by
  have blocks : g.workspace.blocks = w.blocks :=
    Std.ExtTreeMap.ext_getElem? fun id =>
      ((shows_workspace h.seated).get? id).trans (h.get? id).symm
  cases w
  cases h.palette
  cases h.roots
  cases h.counter
  cases h.revision
  cases blocks
  rfl

/-! ## Looking things up -/

theorem get?_eq_none_iff (h : Shows g w) : w.get? id = none ↔ g.get? id = none := by
  rw [h.get?, Option.map_eq_none_iff]

theorem get?_of_some (h : Shows g w) {node : Node} (found : g.get? id = some node) :
    w.get? id = some (node.block (g.seat? id)) := by
  rw [h.get?, found, Option.map_some]

theorem contains (h : Shows g w) (id : BlockId) : w.contains id = g.contains id := by
  have found := h.get? id
  rw [Workspace.get?, Arena.get?] at found
  rw [Workspace.contains, Arena.contains, Std.ExtTreeMap.contains_eq_isSome_getElem?,
    Std.ExtTreeMap.contains_eq_isSome_getElem?, found, Option.isSome_map]

theorem next? (h : Shows g w) (id : BlockId) : w.next? id = g.next? id := by
  rw [Workspace.next?, h.get?, Option.bind_map]
  rfl

theorem slot? (h : Shows g w) (id : BlockId) (slot : String) :
    w.slot? id slot = g.slot? id slot := by
  rw [Workspace.slot?, h.get?, Option.bind_map]
  rfl

theorem isRoot (h : Shows g w) (id : BlockId) : w.isRoot id = g.isRoot id := by
  rw [Workspace.isRoot, h.roots, Arena.isRoot]

/-- A block with a seat on record is there. -/
theorem exists_get?_of_seat? (h : Shows g w) {seat : Seat} (sits : g.seat? id = some seat) :
    ∃ node, g.get? id = some node := by
  cases found : g.get? id with
  | none =>
      rw [h.seated id found] at sits
      cases sits
  | some node => exact ⟨node, rfl⟩

theorem seat? (h : Shows g w) (id : BlockId) : w.seat? id = g.seat? id := by
  rw [Workspace.seat?, h.get?]
  cases found : g.get? id with
  | none => exact (h.seated id found).symm
  | some node => rfl

theorem typeOf? (h : Shows g w) (node : Node) (seat : Option Seat) :
    w.typeOf? (node.block seat) = g.typeOf? node := by
  rw [Workspace.typeOf?, h.palette]
  rfl

/-- A block whose type is known is there. -/
theorem exists_get?_of_requireType (h : Shows g w) {type : BlockType}
    (known : w.requireType id = .ok type) : ∃ node, g.get? id = some node := by
  cases found : g.get? id with
  | none =>
      rw [Workspace.requireType, h.get?_eq_none_iff.2 found] at known
      cases known
  | some node => exact ⟨node, rfl⟩

theorem slotNames (h : Shows g w) (node : Node) (seat : Option Seat) :
    w.slotNames (node.block seat) = g.slotNames node := by
  unfold Workspace.slotNames Arena.slotNames
  rw [h.typeOf?]
  rfl

/-! ## Walks -/

theorem walkFrom (h : Shows g w) (seen : List BlockId) (id : BlockId) :
    w.walkFrom seen id = g.walkFrom seen id := by
  induction seen, id using Workspace.walk_induction w with
  | again seen id passed =>
      rw [Workspace.walkFrom_eq, if_pos passed, walkFrom_eq, if_pos passed]
  | last seen id new none =>
      rw [Workspace.walkFrom_eq, if_neg new, walkFrom_eq, if_neg new, ← h.next?, none]
  | step seen id next new link ih =>
      rw [Workspace.walkFrom_eq, if_neg new, walkFrom_eq, if_neg new, ← h.next?, link]
      dsimp only
      rw [ih]

theorem walkChain (h : Shows g w) (head : BlockId) : w.walkChain head = g.walkChain head :=
  h.walkFrom [] head

theorem ancestorsFrom (h : Shows g w) (seen : List BlockId) (id : BlockId) :
    w.ancestorsFrom seen id = g.ancestorsFrom seen id := by
  induction seen, id using Arena.ancestorsFrom.induct g with
  | case1 seen id free => rw [Workspace.ancestorsFrom_eq, ancestorsFrom_eq, h.seat?, free]
  | case2 seen id seat sits passed =>
      rw [Workspace.ancestorsFrom_eq, ancestorsFrom_eq, h.seat?, sits]
      dsimp only
      rw [if_pos passed, if_pos passed]
  | case3 seen id seat sits new ih =>
      rw [Workspace.ancestorsFrom_eq, ancestorsFrom_eq, h.seat?, sits]
      dsimp only
      rw [if_neg new, if_neg new, ih]

theorem ancestors (h : Shows g w) (id : BlockId) : w.ancestors id = g.ancestors id :=
  h.ancestorsFrom [] id

theorem contentMembers (h : Shows g w) (content : SlotContent) :
    w.contentMembers content = g.contentMembers content := by
  cases content with
  | single child => rfl
  | chain head => exact congrArg ChainWalk.members (h.walkChain head)

theorem children (h : Shows g w) (id : BlockId) : w.children id = g.children id := by
  unfold Workspace.children Arena.children
  rw [h.get?]
  cases g.get? id with
  | none => rfl
  | some node =>
      simp only [Option.map_some, h.slotNames, h.contentMembers]
      rfl

theorem chainPrefix (h : Shows g w) (seat : Seat) (id : BlockId) :
    w.chainPrefix seat id = g.chainPrefix seat id := by
  unfold Workspace.chainPrefix Arena.chainPrefix
  rw [h.slot?]
  cases g.slot? seat.owner seat.slot with
  | none => rfl
  | some content =>
      cases content with
      | single child => rfl
      | chain head =>
          dsimp only
          rw [h.walkChain]

theorem linksBack (h : Shows g w) (seat : Seat) (id target : BlockId) :
    w.linksBack seat id target = g.linksBack seat id target := by
  rw [Workspace.linksBack, h.ancestors, h.chainPrefix, Arena.linksBack]

end Shows

end Arena

end SolanaBlocks
