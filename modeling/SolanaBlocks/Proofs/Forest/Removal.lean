import Mathlib.Data.List.TakeDrop
import Mathlib.Data.List.TakeWhile
import SolanaBlocks.Proofs.Forest.Detach

/-!
# Removing a block

The block to be removed floats; it goes with everything below it. The stack holds what is still to
go, and the invariant of the removal says that it always suffices: whatever sits in a slot of a
removed block has gone itself or waits on the stack. So nothing is left without its owner at the end.
-/

namespace SolanaBlocks

namespace Workspace

variable {w w' : Workspace} {members : Seat → List BlockId} {top : BlockId}
  {gone stack : List BlockId}

/-- A block goes, and the top level loses it together with ids that were passed over because they
belong to no block. -/
def takeOut (w : Workspace) (id : BlockId) (passed : List BlockId) : Workspace :=
  { w.dropRoots (id :: passed) with blocks := w.blocks.erase id }

theorem get?_takeOut (id : BlockId) (passed : List BlockId) (other : BlockId) :
    (w.takeOut id passed).get? other = if id = other then none else w.get? other := by
  refine Std.ExtTreeMap.getElem?_erase.trans ?_
  simp only [Std.LawfulEqOrd.compare_eq_iff_eq, get?]

theorem contains_takeOut (id : BlockId) (passed : List BlockId) (other : BlockId) :
    (w.takeOut id passed).contains other = true ↔ id ≠ other ∧ w.contains other = true := by
  rw [contains_iff, contains_iff, get?_takeOut]
  by_cases same : id = other <;> simp [same]

/-- The blocks in `gone` are missing, and all others are as they were. -/
structure Without (w w' : Workspace) (gone : List BlockId) : Prop where
  palette : w'.palette = w.palette
  get? : ∀ id, w'.get? id = if id ∈ gone then none else w.get? id

namespace Without

theorem contains (h : Without w w' gone) (id : BlockId) :
    w'.contains id = true ↔ id ∉ gone ∧ w.contains id = true := by
  rw [contains_iff, contains_iff, h.get?]
  by_cases hid : id ∈ gone <;> simp [hid]

theorem typeName? (h : Without w w' gone) (id : BlockId) :
    w'.typeName? id = if id ∈ gone then none else w.typeName? id := by
  rw [Workspace.typeName?, Workspace.typeName?, h.get?]
  split <;> rfl

theorem typeAt? (h : Without w w' gone) (id : BlockId) :
    w'.typeAt? id = if id ∈ gone then none else w.typeAt? id := by
  rw [Workspace.typeAt?, Workspace.typeAt?, h.typeName?, h.palette]
  split <;> rfl

theorem fields? (h : Without w w' gone) (id : BlockId) :
    w'.fields? id = if id ∈ gone then none else w.fields? id := by
  rw [Workspace.fields?, Workspace.fields?, h.get?]
  split <;> rfl

theorem seat? (h : Without w w' gone) (id : BlockId) :
    w'.seat? id = if id ∈ gone then none else w.seat? id := by
  rw [Workspace.seat?, Workspace.seat?, h.get?]
  split <;> rfl

theorem next? (h : Without w w' gone) (id : BlockId) :
    w'.next? id = if id ∈ gone then none else w.next? id := by
  rw [Workspace.next?, Workspace.next?, h.get?]
  split <;> rfl

theorem content? (h : Without w w' gone) (seat : Seat) :
    w'.content? seat = if seat.owner ∈ gone then none else w.content? seat := by
  rw [Workspace.content?, Workspace.content?, slot?, slot?, h.get?]
  split <;> rfl

/-- Blocks still fit their places, if every block that stays has an owner that stays. -/
theorem typed (h : Without w w' gone) (t : Typed w)
    (owners : ∀ id seat, id ∉ gone → w.seat? id = some seat → seat.owner ∉ gone) : Typed w' := by
  have types := h.typeAt?
  have arity {seat : Seat} (stays : seat.owner ∉ gone) : w'.arity? seat = w.arity? seat := by
    rw [arity?, arity?, types, if_neg stays]
  refine ⟨fun id alive => ?_, fun seat content held => ?_, fun id seat sits => ?_,
    fun id type fields typed given => ?_⟩
  · obtain ⟨stays, present⟩ := (h.contains id).1 alive
    rw [types, if_neg stays]
    exact t.known id present
  · rw [h.content?] at held
    split at held
    · cases held
    · next stays =>
        rw [arity stays]
        exact t.declared seat content held
  · rw [h.seat?] at sits
    split at sits
    · cases sits
    · next stays =>
        rw [Fits, arity (owners id seat stays sits), types, if_neg stays]
        exact t.fitting id seat sits
  · rw [types] at typed
    rw [h.fields?] at given
    split at typed
    · cases typed
    · next stays =>
        rw [if_neg stays] at given
        exact t.keyed id type fields typed given

end Without

/-- The state of a removal that started from a floating block: `gone` has been removed, and the
blocks on the stack are to follow. -/
structure Removing (w : Workspace) (members : Seat → List BlockId) (top : BlockId) (w' : Workspace)
    (gone stack : List BlockId) : Prop where
  without : Without w w' gone
  roots : w'.roots = w.roots
  below : ∀ id ∈ gone ++ stack, id = top ∨ ∃ seat, seat.owner ∈ gone ∧ id ∈ members seat
  above : top ∈ gone ++ stack
  complete : ∀ seat, seat.owner ∈ gone → ∀ id ∈ members seat, id ∈ gone ++ stack

namespace Removing

/-- Nothing that is removed is a root. -/
theorem notMem_roots (r : Removing w members top w' gone stack) (h : Laid w members [top])
    {id : BlockId} (hid : id ∈ gone ++ stack) : id ∉ w.roots := by
  rcases r.below id hid with rfl | ⟨seat, -, hs⟩
  · intro root
    exact ((h.mem_roots id).1 root).2.2 List.mem_cons_self
  · exact h.notMem_roots hs

/-- The members of a seat whose owner stays are all there. -/
theorem members_stay (r : Removing w members top w' gone stack) (h : Laid w members [top])
    {seat : Seat} (stays : seat.owner ∉ gone) {id : BlockId} (hid : id ∈ members seat) :
    id ∉ gone := by
  intro went
  rcases r.below id (List.mem_append_left stack went) with rfl | ⟨other, owner, ho⟩
  · exact h.notMem_of_floating List.mem_cons_self hid
  · exact stays (h.seat_unique hid ho ▸ owner)

/-- The children of a block that is still there are the members of its seats. -/
theorem mem_children (r : Removing w members top w' gone stack) (h : Laid w members [top])
    {owner id : BlockId} (alive : w'.contains owner = true) :
    id ∈ w'.children owner ↔ ∃ slot, id ∈ members ⟨owner, slot⟩ := by
  have stays := ((r.without.contains owner).1 alive).1
  have content (slot : String) : w'.content? ⟨owner, slot⟩ = w.content? ⟨owner, slot⟩ := by
    rw [r.without.content?, if_neg stays]
  have list {slot : String} {content : SlotContent}
      (held : w.content? ⟨owner, slot⟩ = some content) :
      w'.contentMembers content = members ⟨owner, slot⟩ := by
    have holds := h.holds ⟨owner, slot⟩
    rw [held] at holds
    refine holds.contentMembers ((Linked.congr fun other ho => ?_).2 (h.linked _)) (h.nodup _)
    rw [r.without.next?, if_neg (r.members_stay h stays ho)]
  rw [mem_children_iff]
  constructor
  · rintro ⟨slot, content', held, hid⟩
    rw [content] at held
    exact ⟨slot, list held ▸ hid⟩
  · rintro ⟨slot, hid⟩
    obtain ⟨content', held⟩ := h.content?_of_mem hid
    exact ⟨slot, content', (content slot).trans held, by rwa [list held]⟩

/-- What is on the stack and not there any more has been removed before. -/
theorem mem_gone (r : Removing w members top w' gone stack) (h : Laid w members [top])
    {id : BlockId} (hid : id ∈ stack) (dead : w'.contains id = false) : id ∈ gone := by
  have alive : w.contains id = true := by
    rcases r.below id (List.mem_append_right gone hid) with rfl | ⟨seat, -, hs⟩
    · exact (h.floats id List.mem_cons_self).1
    · exact h.contains_of_mem hs
  by_contra stays
  have present := (r.without.contains id).2 ⟨stays, alive⟩
  rw [dead] at present
  cases present

/-- Leaving out ids of the stack does not change the top level. -/
theorem roots_dropRoots (r : Removing w members top w' gone stack) (h : Laid w members [top])
    {ids : List BlockId} (hids : ∀ id ∈ ids, id ∈ stack) : (w'.dropRoots ids).roots = w.roots := by
  refine (List.filter_eq_self.2 fun root hr => ?_).trans r.roots
  rw [r.roots] at hr
  have kept : root ∉ ids := fun hid =>
    r.notMem_roots h (List.mem_append_right gone (hids root hid)) hr
  simpa using kept

/-- The topmost block of the stack goes, and its children come onto the stack. -/
theorem step (h : Laid w members [top]) {id : BlockId} {dead rest children : List BlockId}
    (r : Removing w members top w' gone (dead ++ id :: rest)) (alive : w'.contains id = true)
    (passed : ∀ other ∈ dead, w'.contains other = false)
    (list : ∀ other, other ∈ children ↔ other ∈ w'.children id) :
    Removing w members top (w'.takeOut id dead) (id :: gone) (children ++ rest) := by
  have moved (other : BlockId) (ho : other ∈ gone ++ (dead ++ id :: rest)) :
      other ∈ (id :: gone) ++ (children ++ rest) := by
    simp only [List.mem_append, List.mem_cons] at ho ⊢
    rcases ho with hg | hd | same | hr
    · exact .inl (.inr hg)
    · exact .inl (.inr (r.mem_gone h (by simp [hd]) (passed other hd)))
    · exact .inl (.inl same)
    · exact .inr (.inr hr)
  refine ⟨⟨r.without.palette, fun other => ?_⟩, ?_, fun other ho => ?_, moved _ r.above,
    fun seat owner other ho => ?_⟩
  · rw [get?_takeOut, r.without.get?]
    by_cases same : id = other <;> simp [same, eq_comm]
  · refine r.roots_dropRoots h fun other ho => ?_
    rcases List.mem_cons.1 ho with rfl | hd
    · simp
    · simp [hd]
  · have cases' : other ∈ gone ++ (dead ++ id :: rest) ∨ other ∈ children := by
      simp only [List.mem_append, List.mem_cons] at ho ⊢
      tauto
    rcases cases' with old | child
    · rcases r.below other old with same | ⟨seat, owner, hs⟩
      · exact .inl same
      · exact .inr ⟨seat, List.mem_cons_of_mem id owner, hs⟩
    · obtain ⟨slot, hs⟩ := (r.mem_children h alive).1 ((list other).1 child)
      exact .inr ⟨⟨id, slot⟩, List.mem_cons_self, hs⟩
  · rcases List.mem_cons.1 owner with same | owner
    · have child : other ∈ children := by
        rw [list, r.mem_children h alive]
        exact ⟨seat.slot, by rwa [← same]⟩
      simp [child]
    · exact moved other (r.complete seat owner other ho)

end Removing

/-- What a removal leaves: everything but the removed blocks, which no block above them and every
block below them is among. -/
structure Removed (w : Workspace) (members : Seat → List BlockId) (top : BlockId) (w' : Workspace)
    (gone : List BlockId) : Prop where
  without : Without w w' gone
  roots : w'.roots = w.roots
  below : ∀ id ∈ gone, id = top ∨ ∃ seat, seat.owner ∈ gone ∧ id ∈ members seat
  above : top ∈ gone
  complete : ∀ seat, seat.owner ∈ gone → ∀ id ∈ members seat, id ∈ gone

/-- Once all blocks on the stack have gone, the removal is done. -/
theorem Removing.done (r : Removing w members top w' gone stack) (h : Laid w members [top])
    (dead : ∀ id ∈ stack, w'.contains id = false) :
    Removed w members top (w'.dropRoots stack) gone := by
  have moved (id : BlockId) (hid : id ∈ gone ++ stack) : id ∈ gone := by
    rcases List.mem_append.1 hid with hg | hs
    · exact hg
    · exact r.mem_gone h hs (dead id hs)
  exact ⟨⟨r.without.palette, r.without.get?⟩, r.roots_dropRoots h fun _ hid => hid,
    fun id hid => r.below id (List.mem_append_left stack hid), moved _ r.above,
    fun seat owner id hid => moved id (r.complete seat owner id hid)⟩

/-- The topmost block of a stack, below the ids that belong to no block. -/
theorem span_split {p : BlockId → Bool} {id : BlockId} (found : stack.find? p = some id) :
    ∃ dead rest, stack = dead ++ id :: rest ∧ (∀ other ∈ dead, p other = false) ∧
      stack.span (fun other => !p other) = (dead, id :: rest) := by
  obtain ⟨here, dead, rest, rfl, passed⟩ := List.find?_eq_some_iff_append.1 found
  refine ⟨dead, rest, rfl, by simpa using passed, ?_⟩
  rw [List.span_eq_takeWhile_dropWhile, List.takeWhile_append_of_pos passed,
    List.dropWhile_append_of_pos passed]
  simp [here]

theorem removeAll_of_none (none : stack.find? w.contains = none) :
    w.removeAll stack = (w.dropRoots stack, []) := by
  rw [removeAll]
  split
  · rfl
  · next found =>
      rw [none] at found
      cases found

/-- A removal goes on without the topmost living block of its stack. -/
theorem removeAll_of_some {id : BlockId} {dead rest : List BlockId}
    (found : (dead ++ id :: rest).find? w.contains = some id)
    (split : (dead ++ id :: rest).span (fun other => !w.contains other) = (dead, id :: rest)) :
    w.removeAll (dead ++ id :: rest) =
      (((w.takeOut id dead).removeAll ((w.children id).reverse ++ rest)).1,
        id :: ((w.takeOut id dead).removeAll ((w.children id).reverse ++ rest)).2) := by
  rw [removeAll]
  split
  · next none =>
      rw [none] at found
      cases found
  · next id' found' =>
      rw [found] at found'
      cases found'
      rw [split]
      rfl

/-- Either no id on the stack belongs to a block, or a removal takes out the topmost block and goes on
with its children on top of the stack. -/
theorem removeAll_induction {motive : Workspace → List BlockId → Prop}
    (done : ∀ w stack, (∀ id ∈ stack, w.contains id = false) →
      w.removeAll stack = (w.dropRoots stack, []) → motive w stack)
    (step : ∀ w dead id rest, (∀ other ∈ dead, w.contains other = false) → w.contains id = true →
      w.removeAll (dead ++ id :: rest) =
        (((w.takeOut id dead).removeAll ((w.children id).reverse ++ rest)).1,
          id :: ((w.takeOut id dead).removeAll ((w.children id).reverse ++ rest)).2) →
      motive (w.takeOut id dead) ((w.children id).reverse ++ rest) → motive w (dead ++ id :: rest))
    (w : Workspace) (stack : List BlockId) : motive w stack := by
  induction w, stack using removeAll.induct with
  | case1 w stack none => exact done w stack (by simpa using none) (removeAll_of_none none)
  | @case2 w stack id found dead rest split below w₁ w₂ removed result ih =>
      obtain ⟨dead', rest', rfl, passed, split'⟩ := span_split found
      rw [split'] at split
      cases split
      exact step w dead id rest' passed (List.find?_some found) (removeAll_of_some found split') ih

/-- What a removal takes, on top of what has gone before, is what it lists. -/
theorem removed_removeAll (h : Laid w members [top]) (r : Removing w members top w' gone stack) :
    Removed w members top (w'.removeAll stack).1 ((w'.removeAll stack).2.reverse ++ gone) := by
  induction w', stack using removeAll_induction generalizing gone with
  | done w' stack dead removed =>
      rw [removed]
      exact r.done h dead
  | step w' dead id rest passed alive removed ih =>
      rw [removed, List.reverse_cons, List.append_assoc]
      exact ih (r.step h alive passed fun _ => List.mem_reverse)

/-- A removal lists blocks, and none of them twice. -/
theorem nodup_removeAll (w : Workspace) (stack : List BlockId) :
    (w.removeAll stack).2.Nodup ∧ ∀ id ∈ (w.removeAll stack).2, w.contains id = true := by
  induction w, stack using removeAll_induction with
  | done w stack dead removed =>
      rw [removed]
      exact ⟨List.nodup_nil, by simp⟩
  | step w dead id rest passed alive removed ih =>
      rw [removed]
      obtain ⟨distinct, listed⟩ := ih
      refine ⟨List.nodup_cons.2 ⟨fun again => ?_, distinct⟩,
        List.forall_mem_cons.2 ⟨alive, fun other ho => ?_⟩⟩
      · exact ((contains_takeOut id dead id).1 (listed id again)).1 rfl
      · exact ((contains_takeOut id dead other).1 (listed other ho)).2

theorem remove_eq_ok_iff {id : BlockId} {ids : List BlockId} :
    w.remove id = .ok (w', ids) ↔
      w.contains id = true ∧ w' = bump ((w.detach id).removeAll [id]).1 ∧
        ids = ((w.detach id).removeAll [id]).2 := by
  rw [contains_iff, remove]
  cases w.get? id with
  | none => simp
  | some block => simp [eq_comm]

/-- Removing a block takes it out of its place first, and then everything below it. -/
theorem removed_remove (h : Laid w members []) {id : BlockId} {ids : List BlockId}
    (ok : w.remove id = .ok (w', ids)) :
    ids.Nodup ∧ Removed (w.detach id) (fun seat => (members seat).filter (· ≠ id)) id w' ids := by
  obtain ⟨alive, rfl, rfl⟩ := remove_eq_ok_iff.1 ok
  have start : Removing (w.detach id) (fun seat => (members seat).filter (· ≠ id)) id
      (w.detach id) [] [id] := by
    refine ⟨⟨rfl, by simp⟩, rfl, ?_, ?_, ?_⟩ <;> simp
  have all := removed_removeAll (laid_detach h alive List.not_mem_nil) start
  refine ⟨(nodup_removeAll _ _).1, ?_⟩
  generalize (w.detach id).removeAll [id] = result at all ⊢
  have same (other : BlockId) : other ∈ result.2.reverse ++ [] ↔ other ∈ result.2 := by simp
  exact ⟨⟨all.without.palette, fun other => by simp only [← same]; exact all.without.get? other⟩,
    all.roots, by simpa only [same] using all.below, (same id).1 all.above,
    by simpa only [same] using all.complete⟩

namespace Removed

/-- A seat of a block that stays has members that stay. -/
theorem members_stay (r : Removed w members top w' gone) (h : Laid w members [top]) {seat : Seat}
    (stays : seat.owner ∉ gone) {id : BlockId} (hid : id ∈ members seat) : id ∉ gone := by
  intro went
  rcases r.below id went with rfl | ⟨other, owner, ho⟩
  · exact h.notMem_of_floating List.mem_cons_self hid
  · exact stays (h.seat_unique hid ho ▸ owner)

/-- A block that stays has an owner that stays. -/
theorem owner_stays (r : Removed w members top w' gone) (h : Laid w members [top]) {seat : Seat}
    {id : BlockId} (stays : id ∉ gone) (sits : w.seat? id = some seat) : seat.owner ∉ gone :=
  fun owner => stays (r.complete seat owner id ((h.mem_members seat id).2 sits))

/-- After a removal the seats of the blocks that stay are as they were, and there are no others. -/
theorem laid (r : Removed w members top w' gone) (h : Laid w members [top]) :
    Laid w' (fun seat => if seat.owner ∈ gone then [] else members seat) [] := by
  have seats := r.without.seat?
  refine ⟨by rw [r.roots]; exact h.roots_nodup, fun id => ?_, by simp, fun seat id => ?_,
    fun seat => ?_, fun seat => ?_, fun id free => ?_, fun seat => ?_, fun id alive => ?_⟩
  · rw [r.roots, r.without.contains, seats, h.mem_roots, List.mem_singleton]
    by_cases went : id ∈ gone
    · have low : w.seat? id = none → id = top := by
        intro free
        rcases r.below id went with same | ⟨seat, -, hs⟩
        · exact same
        · rw [(h.mem_members seat id).1 hs] at free
          cases free
      simp only [went, not_true_eq_false, false_and, iff_false, not_and, not_not]
      exact fun _ => low
    · have ne : id ≠ top := fun same => went (same ▸ r.above)
      simp [went, ne]
  · rw [seats]
    split
    · next owner =>
        have gone_of (sits : w.seat? id = some seat) : id ∈ gone :=
          r.complete seat owner id ((h.mem_members seat id).2 sits)
        by_cases went : id ∈ gone
        · simp [went]
        · simpa [went] using fun sits => went (gone_of sits)
    · next owner =>
        rw [h.mem_members]
        by_cases went : id ∈ gone
        · have : w.seat? id ≠ some seat := fun sits =>
            r.members_stay h owner ((h.mem_members seat id).2 sits) went
          simp [went, this]
        · simp [went]
  · split
    · exact List.nodup_nil
    · exact h.nodup seat
  · split
    · exact Linked.nil
    · next owner =>
        refine (Linked.congr fun id hid => ?_).2 (h.linked seat)
        rw [r.without.next?, if_neg (r.members_stay h owner hid)]
  · rw [r.without.next?]
    split
    · rfl
    · next stays =>
        rw [seats, if_neg stays] at free
        exact h.next?_eq_none id free
  · rw [r.without.content?]
    split
    · exact .empty
    · exact h.holds seat
  · obtain ⟨stays, present⟩ := (r.without.contains id).1 alive
    refine (h.rooted id present).of_living (fun other alive => ?_) (fun other seat alive sits => ?_)
      alive
    · rw [seats, if_neg ((r.without.contains other).1 alive).1]
    · obtain ⟨stays, -⟩ := (r.without.contains other).1 alive
      refine (r.without.contains _).2 ⟨r.owner_stays h stays sits, ?_⟩
      exact ((h.rooted other (contains_of_seat? sits)).owner sits).contains

theorem typed (r : Removed w members top w' gone) (h : Laid w members [top]) (t : Typed w) :
    Typed w' :=
  r.without.typed t fun _ _ stays sits => r.owner_stays h stays sits

end Removed

end Workspace

end SolanaBlocks
