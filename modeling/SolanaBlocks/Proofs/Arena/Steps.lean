import SolanaBlocks.Proofs.Arena.View
import SolanaBlocks.Proofs.Forest.Removal
import SolanaBlocks.Proofs.Forest.Walks

/-!
# Small steps in an arena

Each small step of an edit does to an arena what it does to the workspace that the arena shows, and
leaves no seat without its block. A step that gives a block a seat needs the block to be there; all
others can be taken in any arena that shows a workspace.
-/

namespace SolanaBlocks

namespace Workspace

variable {w : Workspace} {id : BlockId} {stack : List BlockId}

theorem modify_modify (w : Workspace) (id : BlockId) (first next : Block → Block) :
    (w.modify id first).modify id next = w.modify id fun block => next (first block) := by
  have blocks : ((w.modify id first).modify id next).blocks =
      (w.modify id fun block => next (first block)).blocks := by
    refine Std.ExtTreeMap.ext_getElem? fun other => ?_
    change ((w.modify id first).modify id next).get? other = (w.modify id _).get? other
    simp only [get?_modify]
    split
    · rw [Option.map_map]
      rfl
    · rfl
  exact congrArg (fun blocks => { w with blocks := blocks }) blocks

/-- A change that leaves the block as it is. -/
theorem modify_eq_self {change : Block → Block}
    (same : ∀ block, w.get? id = some block → change block = block) : w.modify id change = w := by
  have blocks : (w.modify id change).blocks = w.blocks := by
    refine Std.ExtTreeMap.ext_getElem? fun other => ?_
    change (w.modify id change).get? other = w.get? other
    rw [get?_modify]
    split
    · next here =>
        subst here
        cases found : w.get? id with
        | none => rfl
        | some block => rw [Option.map_some, same block found]
    · rfl
  exact congrArg (fun blocks => { w with blocks := blocks }) blocks

/-! ## A removal one id at a time -/

theorem children_dropRoots (w : Workspace) (ids : List BlockId) (id : BlockId) :
    (w.dropRoots ids).children id = w.children id := by
  have nexts : (w.dropRoots ids).next? = w.next? := rfl
  have same : (w.dropRoots ids).contentMembers = w.contentMembers :=
    funext (contentMembers_congr nexts)
  unfold children
  rw [same]
  rfl

theorem dropRoots_of_notMem {ids : List BlockId} (free : ∀ id ∈ ids, id ∉ w.roots) :
    w.dropRoots ids = w := by
  have roots : w.roots.filter (fun root => !ids.contains root) = w.roots :=
    List.filter_eq_self.2 fun root hr => by simpa using fun hid => free root hid hr
  exact congrArg (fun roots => { w with roots := roots }) roots

theorem dropRoots_dropRoots {ids all : List BlockId}
    (both : ∀ root, root ∈ all ↔ root = id ∨ root ∈ ids) :
    (w.dropRoots [id]).dropRoots ids = w.dropRoots all := by
  have roots : (w.roots.filter fun root => !List.contains [id] root).filter
      (fun root => !ids.contains root) = w.roots.filter fun root => !all.contains root := by
    rw [List.filter_filter]
    refine List.filter_congr fun root _ => ?_
    simp [both root, Bool.and_comm]
  exact congrArg (fun roots => { w with roots := roots }) roots

theorem takeOut_of_dead (dead : w.contains id = false) : w.takeOut id [] = w.dropRoots [id] := by
  have blocks : w.blocks.erase id = w.blocks := by
    refine Std.ExtTreeMap.ext_getElem? fun other => ?_
    rw [Std.ExtTreeMap.getElem?_erase]
    split
    · next same =>
        rw [contains, Std.ExtTreeMap.contains_eq_isSome_getElem?, Option.isSome_eq_false_iff,
          Option.isNone_iff_eq_none] at dead
        rw [← Std.LawfulEqCmp.eq_of_compare same, dead]
    · rfl
  exact congrArg (fun blocks => { w.dropRoots [id] with blocks := blocks }) blocks

/-- An id that belongs to no block only leaves the top level. -/
theorem removeAll_cons_of_dead (dead : w.contains id = false) :
    w.removeAll (id :: stack) = (w.takeOut id []).removeAll stack := by
  rw [takeOut_of_dead dead]
  cases found : stack.find? w.contains with
  | none =>
      rw [removeAll_of_none (by simpa [dead] using found),
        removeAll_of_none (w := w.dropRoots [id]) found, dropRoots_dropRoots fun _ => List.mem_cons]
  | some other =>
      obtain ⟨before, after, rfl, passed, split⟩ := span_split found
      have split' : (id :: before ++ other :: after).span (fun other => !w.contains other) =
          (id :: before, other :: after) := by
        rw [List.span_eq_takeWhile_dropWhile, Prod.mk.injEq] at split ⊢
        rw [List.cons_append, List.takeWhile_cons_of_pos (by simp [dead]),
          List.dropWhile_cons_of_pos (by simp [dead]), split.1]
        exact ⟨rfl, split.2⟩
      have here := removeAll_of_some (by simpa [dead] using found) split'
      have there := removeAll_of_some (w := w.dropRoots [id]) found split
      have same : (w.dropRoots [id]).takeOut other before = w.takeOut other (id :: before) := by
        have roots : (w.dropRoots [id]).dropRoots (other :: before) =
            w.dropRoots (other :: id :: before) :=
          dropRoots_dropRoots fun root => by simp only [List.mem_cons, or_left_comm]
        exact congrArg (fun left : Workspace => { left with blocks := w.blocks.erase other }) roots
      rw [children_dropRoots, same] at there
      exact here.trans there.symm

/-- A block goes, and its children come onto the stack. -/
theorem removeAll_cons_of_alive (alive : w.contains id = true) :
    w.removeAll (id :: stack) =
      (((w.takeOut id []).removeAll ((w.children id).reverse ++ stack)).1,
        id :: ((w.takeOut id []).removeAll ((w.children id).reverse ++ stack)).2) := by
  have found : ([] ++ id :: stack).find? w.contains = some id := List.find?_cons_of_pos alive
  have split : ([] ++ id :: stack).span (fun other => !w.contains other) = ([], id :: stack) := by
    simp [List.span_eq_takeWhile_dropWhile, alive]
  exact removeAll_of_some found split

end Workspace

namespace Arena

variable {g : Arena} {w : Workspace} {id : BlockId}

theorem get?_modify (g : Arena) (id : BlockId) (change : Node → Node) (other : BlockId) :
    (g.modify id change).get? other =
      if id = other then (g.get? other).map change else g.get? other := by
  simp only [modify, get?, Std.ExtTreeMap.getElem?_modify, Std.LawfulEqOrd.compare_eq_iff_eq]
  split
  · next same => rw [same]
  · rfl

@[simp] theorem contains_modify (g : Arena) (id : BlockId) (change : Node → Node)
    (other : BlockId) : (g.modify id change).contains other = g.contains other := by
  simp only [contains, modify, Std.ExtTreeMap.contains_modify]

theorem seat?_unseat (g : Arena) (id other : BlockId) :
    (g.unseat id).seat? other = if id = other then none else g.seat? other := by
  simp only [unseat, seat?, Std.ExtTreeMap.getElem?_erase, Std.LawfulEqOrd.compare_eq_iff_eq]

theorem seat?_seatAt (g : Arena) (id : BlockId) (seat : Seat) (other : BlockId) :
    (g.seatAt id seat).seat? other = if id = other then some seat else g.seat? other := by
  simp only [seatAt, seat?, Std.ExtTreeMap.getElem?_insert, Std.LawfulEqOrd.compare_eq_iff_eq]

theorem get?_drop (g : Arena) (id other : BlockId) :
    (g.drop id).get? other = if id = other then none else g.get? other := by
  simp only [drop, get?, Std.ExtTreeMap.getElem?_erase, Std.LawfulEqOrd.compare_eq_iff_eq]

theorem seat?_drop (g : Arena) (id other : BlockId) :
    (g.drop id).seat? other = if id = other then none else g.seat? other := by
  simp only [drop, seat?, Std.ExtTreeMap.getElem?_erase, Std.LawfulEqOrd.compare_eq_iff_eq]

namespace Shows

/-! ## Single entries -/

theorem withRoots (h : Shows g w) (roots : List BlockId) :
    Shows { g with roots := roots } { w with roots := roots } where
  palette := h.palette
  get? := h.get?
  seated := h.seated
  roots := rfl
  counter := h.counter
  revision := h.revision

theorem withCounter (h : Shows g w) (counter : Nat) :
    Shows { g with counter := counter } { w with counter := counter } where
  palette := h.palette
  get? := h.get?
  seated := h.seated
  roots := h.roots
  counter := rfl
  revision := h.revision

theorem bump (h : Shows g w) : Shows { g with revision := g.revision + 1 } w.bump where
  palette := h.palette
  get? := h.get?
  seated := h.seated
  roots := h.roots
  counter := h.counter
  revision := congrArg (· + 1) h.revision

/-- A change of a block that leaves its seat alone. -/
theorem modify (h : Shows g w) (id : BlockId) {change : Node → Node} {change' : Block → Block}
    (same : ∀ node seat, change' (node.block seat) = (change node).block seat) :
    Shows (g.modify id change) (w.modify id change') where
  palette := h.palette
  get? other := by
    have seat : (g.modify id change).seat? other = g.seat? other := rfl
    rw [Workspace.get?_modify, get?_modify, h.get?, seat]
    split
    · rw [Option.map_map, Option.map_map]
      exact congrArg (Option.map · (g.get? other)) (funext fun node => same node _)
    · rfl
  seated other missing := by
    rw [get?_modify] at missing
    refine h.seated other ?_
    split at missing
    · exact Option.map_eq_none_iff.1 missing
    · exact missing
  roots := h.roots
  counter := h.counter
  revision := h.revision

theorem link (h : Shows g w) (id : BlockId) (next : Option BlockId) :
    Shows (g.modify id fun node => { node with next := next })
      (w.modify id fun block => { block with next := next }) :=
  h.modify id fun _ _ => rfl

theorem insert (h : Shows g w) (owner : BlockId) (slot : String) (content : SlotContent) :
    Shows (g.modify owner fun node => { node with slots := node.slots.insert slot content })
      (w.modify owner fun block => { block with slots := block.slots.insert slot content }) :=
  h.modify owner fun _ _ => rfl

theorem erase (h : Shows g w) (owner : BlockId) (slot : String) :
    Shows (g.modify owner fun node => { node with slots := node.slots.erase slot })
      (w.modify owner fun block => { block with slots := block.slots.erase slot }) :=
  h.modify owner fun _ _ => rfl

/-- Another seat for a block, or none. Only a block that is there can be given one. -/
theorem reseat (h : Shows g w) {g' : Arena} (id : BlockId) (place : Option Seat)
    (frame : g' = { g with seats := g'.seats })
    (entry : ∀ other, g'.seat? other = if id = other then place else g.seat? other)
    (alive : g.get? id = none → place = none) :
    Shows g' (w.modify id fun block => { block with seat := place }) where
  palette := frame ▸ h.palette
  get? other := by
    have found : g'.get? other = g.get? other := by rw [frame]; rfl
    rw [Workspace.get?_modify, h.get?, found, entry]
    split
    · rw [Option.map_map]
      rfl
    · rfl
  seated other missing := by
    have before : g.get? other = none := by rw [← missing, frame]; rfl
    rw [entry]
    split
    · next same => exact alive (same ▸ before)
    · exact h.seated other before
  roots := frame ▸ h.roots
  counter := frame ▸ h.counter
  revision := frame ▸ h.revision

theorem unseat (h : Shows g w) (id : BlockId) :
    Shows (g.unseat id) (w.modify id fun block => { block with seat := none }) :=
  h.reseat id none rfl (g.seat?_unseat id) fun _ => rfl

theorem seatAt (h : Shows g w) {id : BlockId} (alive : g.contains id = true) (seat : Seat) :
    Shows (g.seatAt id seat) (w.modify id fun block => { block with seat := some seat }) := by
  refine h.reseat id (some seat) rfl (g.seat?_seatAt id seat) fun missing => ?_
  obtain ⟨node, found⟩ := contains_iff.1 alive
  rw [missing] at found
  cases found

/-- A new block has no seat. Were one on record for an id that is not in use, it would come up
again here. -/
theorem create (h : Shows g w) {id : BlockId} (dead : g.contains id = false) (node : Node) :
    Shows { g with nodes := g.nodes.insert id node }
      { w with blocks := w.blocks.insert id (node.block none) } where
  palette := h.palette
  get? other := by
    simp only [Workspace.get?, Arena.get?, Std.ExtTreeMap.getElem?_insert,
      Std.LawfulEqOrd.compare_eq_iff_eq]
    split
    · next same =>
        have free : g.seat? other = none := h.seated other (same ▸ contains_eq_false_iff.1 dead)
        exact congrArg (fun seat => some (node.block seat)) free.symm
    · exact h.get? other
  seated other missing := by
    simp only [Arena.get?, Std.ExtTreeMap.getElem?_insert, Std.LawfulEqOrd.compare_eq_iff_eq]
      at missing
    split at missing
    · cases missing
    · exact h.seated other missing
  roots := h.roots
  counter := h.counter
  revision := h.revision

/-! ## Leaving a place -/

theorem toTop (h : Shows g w) (id : BlockId) : Shows (g.toTop id) (w.toTop id) := by
  have freed : Shows ((g.modify id fun node => { node with next := none }).unseat id)
      (w.modify id fun block => { block with next := none, seat := none }) := by
    have steps := (h.link id none).unseat id
    rwa [Workspace.modify_modify] at steps
  unfold Arena.toTop Workspace.toTop
  dsimp only
  rw [freed.isRoot]
  split
  · exact freed
  · rw [freed.roots]
    exact freed.withRoots _

theorem foldl {α : Type} {step : Arena → α → Arena} {step' : Workspace → α → Workspace}
    (each : ∀ {g w} a, Shows g w → Shows (step g a) (step' w a)) (h : Shows g w) (list : List α) :
    Shows (list.foldl step g) (list.foldl step' w) := by
  induction list generalizing g w with
  | nil => exact h
  | cons a list ih => exact ih (each a h)

theorem detach (h : Shows g w) (id : BlockId) : Shows (g.detach id) (w.detach id) := by
  unfold Arena.detach Workspace.detach
  rw [h.isRoot]
  split
  · rw [h.roots]
    exact h.withRoots _
  · rw [h.seat?]
    cases g.seat? id with
    | none => exact h
    | some seat =>
        have freed : Shows ((g.unseat id).modify id fun node => { node with next := none })
            (w.modify id fun block => { block with next := none, seat := none }) := by
          have steps := (h.unseat id).link id none
          rwa [Workspace.modify_modify] at steps
        have successor : (g.unseat id).next? id = w.next? id := (h.next? id).symm
        dsimp only
        rw [freed.slot?, successor]
        generalize (g.unseat id).modify id _ = g₁ at freed ⊢
        generalize w.modify id _ = w₁ at freed ⊢
        cases g₁.slot? seat.owner seat.slot with
        | none => exact freed
        | some content =>
            cases content with
            | single child =>
                dsimp only
                split
                · exact freed.erase seat.owner seat.slot
                · exact freed
            | chain head =>
                dsimp only
                split
                · cases w.next? id with
                  | none => exact freed.erase seat.owner seat.slot
                  | some next => exact freed.insert seat.owner seat.slot (.chain next)
                · simp only [freed.walkChain, freed.next?]
                  generalize (g₁.walkChain head).members.find? _ = found
                  cases found with
                  | none => exact freed
                  | some predecessor => exact freed.link predecessor (w.next? id)

/-- Leaving a place takes no block away. -/
theorem contains_detach (h : Shows g w) (id other : BlockId) :
    (g.detach id).contains other = g.contains other := by
  rw [← (h.detach id).contains, (Workspace.sameBlocks_detach w id).contains, h.contains]

theorem release (h : Shows g w) (owner : BlockId) (slot : String) :
    Shows (g.release owner slot).1 (w.release owner slot).1 ∧
      (w.release owner slot).2 = (g.release owner slot).2 := by
  unfold Arena.release Workspace.release
  rw [h.slot?]
  cases g.slot? owner slot with
  | none => exact ⟨h, rfl⟩
  | some content =>
      have emptied := h.erase owner slot
      dsimp only
      rw [emptied.contentMembers]
      exact ⟨emptied.foldl (fun id shows => shows.toTop id) _, rfl⟩

theorem cutBehind (h : Shows g w) (kept : List BlockId) (head : BlockId) :
    Shows (g.cutBehind kept head)
      (((w.walkChain head).members.takeWhile fun member => !kept.contains member).foldl
        Workspace.toTop w) := by
  rw [h.walkChain]
  exact h.foldl (fun id shows => shows.toTop id) _

/-- At the end of a chain there is no link to take back. -/
theorem cutAfter_of_last (h : Shows g w) (seat : Seat) {node : Node}
    (found : g.get? id = some node) (last : node.next = none) :
    Shows (g.modify id fun node => { node with next := none }) (w.cutAfter seat id) := by
  have here : w.next? id = none := by rw [h.next?, Arena.next?, found, Option.bind_some, last]
  have same : (w.modify id fun block => { block with next := none }) = w := by
    refine Workspace.modify_eq_self fun block there => ?_
    rw [h.get?_of_some found, Option.some.injEq] at there
    subst there
    simp [Node.block, last]
  have cut : w.cutAfter seat id = w.modify id fun block => { block with next := none } := by
    rw [same, Workspace.cutAfter, here]
  exact cut ▸ h.link id none

theorem cutAfter_of_next (h : Shows g w) (seat : Seat) {node : Node} {head : BlockId}
    (found : g.get? id = some node) (link : node.next = some head) :
    Shows ((g.modify id fun node => { node with next := none }).cutBehind
        (g.chainPrefix seat id) head) (w.cutAfter seat id) := by
  have here : w.next? id = some head := by rw [h.next?, Arena.next?, found, Option.bind_some, link]
  unfold Workspace.cutAfter
  rw [here, h.chainPrefix]
  exact (h.link id none).cutBehind _ head

/-! ## Taking a place -/

theorem linkChain (h : Shows g w) (list : List BlockId) :
    Shows (g.linkChain list) (w.linkChain list) := by
  induction list generalizing g w with
  | nil => exact h
  | cons a rest ih =>
      cases rest with
      | nil => exact h
      | cons b rest => exact ih (h.link a (some b))

theorem fill (h : Shows g w) (owner : BlockId) (slot : String) {members : List BlockId}
    (alive : ∀ child ∈ members, g.contains child = true) (content : SlotContent) :
    Shows (g.fill owner slot members content)
      ((members.foldl (fun w child => w.modify child fun block =>
        { block with seat := some ⟨owner, slot⟩ }) w).modify owner fun block =>
        { block with slots := block.slots.insert slot content }) := by
  have seated : Shows (members.foldl (fun g child => g.seatAt child ⟨owner, slot⟩) g)
      (members.foldl (fun w child => w.modify child fun block =>
        { block with seat := some ⟨owner, slot⟩ }) w) := by
    induction members generalizing g w with
    | nil => exact h
    | cons child rest ih =>
        obtain ⟨here, later⟩ := List.forall_mem_cons.1 alive
        exact ih (h.seatAt here _) later
  exact seated.insert owner slot content

/-- The successor is read after the target has left its place. -/
theorem spliceAfter (h : Shows g w) (seat : Seat) (id : BlockId) {target : BlockId}
    (alive : g.contains target = true) :
    Shows ((((g.detach target).modify id fun node => { node with next := some target }).modify
        target fun node => { node with next := (g.detach target).next? id }).seatAt target seat)
      (w.spliceAfter seat id target) := by
  have detached := h.detach target
  have alive' : (g.detach target).contains target = true :=
    (h.contains_detach target target).trans alive
  have linked := (detached.link id (some target)).link target ((g.detach target).next? id)
  have seated := linked.seatAt (by simpa using alive') seat
  rw [Workspace.modify_modify] at seated
  unfold Workspace.spliceAfter
  dsimp only
  rw [detached.next?]
  exact seated

/-! ## Going -/

theorem drop (h : Shows g w) (id : BlockId) : Shows (g.drop id) (w.takeOut id []) where
  palette := h.palette
  get? other := by
    rw [Workspace.get?_takeOut, get?_drop, h.get?]
    split
    · rfl
    · next other' => rw [seat?_drop, if_neg other']
  seated other missing := by
    rw [get?_drop] at missing
    rw [seat?_drop]
    split
    · rfl
    · next other' =>
        rw [if_neg other'] at missing
        exact h.seated other missing
  roots := by
    refine (congrArg _ h.roots).trans (List.filter_congr fun root _ => ?_)
    by_cases same : root = id <;> simp [same]
  counter := h.counter
  revision := h.revision

/-- Dropping everything on a stack is the removal of a workspace. What has been dropped before is
not there any more, so passing it over makes no difference. -/
theorem removeFrom (h : Shows g w) {seen : List BlockId}
    (gone : ∀ id ∈ seen, g.contains id = false ∧ id ∉ g.roots) (stack : List BlockId) :
    Shows (g.removeFrom seen stack).1 (w.removeAll stack).1 ∧
      (w.removeAll stack).2 = (g.removeFrom seen stack).2 := by
  induction g, seen, stack using Arena.removeFrom.induct generalizing w with
  | case1 g seen =>
      rw [Arena.removeFrom, Workspace.removeAll_of_none rfl,
        Workspace.dropRoots_of_notMem fun id hid => absurd hid List.not_mem_nil]
      exact ⟨h, rfl⟩
  | case2 g seen id stack passed ih =>
      obtain ⟨dead, free⟩ := gone id passed
      have dead' : w.contains id = false := (h.contains id).trans dead
      have same : w.takeOut id [] = w := by
        rw [Workspace.takeOut_of_dead dead', Workspace.dropRoots_of_notMem fun other ho => ?_]
        rwa [List.mem_singleton.1 ho, h.roots]
      rw [Arena.removeFrom, if_pos passed, Workspace.removeAll_cons_of_dead dead', same]
      exact ih h gone
  | @case3 g seen id stack new below g' removed rest ih =>
      have gone' : ∀ other ∈ id :: seen,
          (g.drop id).contains other = false ∧ other ∉ (g.drop id).roots := by
        intro other passed
        have left (root : BlockId) : root ∈ (g.drop id).roots ↔ root ∈ g.roots ∧ root ≠ id := by
          simp [Arena.drop]
        rw [contains_eq_false_iff, get?_drop, left]
        rcases List.mem_cons.1 passed with rfl | passed
        · exact ⟨if_pos rfl, fun both => both.2 rfl⟩
        · obtain ⟨dead, free⟩ := gone other passed
          exact ⟨by rw [contains_eq_false_iff.1 dead, ite_self], fun both => free both.1⟩
      obtain ⟨shows, listed⟩ := ih (h.drop id) gone'
      rw [Arena.removeFrom, if_neg new]
      cases alive : g.contains id with
      | true =>
          rw [Workspace.removeAll_cons_of_alive ((h.contains id).trans alive), h.children]
          exact ⟨shows, congrArg (id :: ·) listed⟩
      | false =>
          have nothing : below = [] := congrArg List.reverse (children_of_contains_eq_false alive)
          rw [Workspace.removeAll_cons_of_dead ((h.contains id).trans alive)]
          rw [nothing] at shows listed
          rw [children_of_contains_eq_false alive]
          exact ⟨shows, listed⟩

end Shows

end Arena

end SolanaBlocks
