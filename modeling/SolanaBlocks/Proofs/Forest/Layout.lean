import SolanaBlocks.Proofs.Forest.Chain

/-!
# Layouts

A layout says which blocks sit in each seat, in order. `Laid w members floating` relates a workspace
to its layout: every seat holds exactly the members that know it as their seat, linked in order, and
every other block is a root. While an edit is under way, blocks may float: they have left their
places and are not at the top level yet, or not any more.

A move changes the members of one seat. `Rearranged` says what that means for the tables, and
`Laid.rearrange` that the layout changes there and nowhere else.
That no block comes to lie below itself is kept in the form that everything is rooted: going from
owner to owner one comes to a block without a seat.
-/

namespace SolanaBlocks

namespace Workspace

variable {w w' : Workspace}

/-- Going up from owner to owner ends at a block without a seat. -/
inductive Rooted (w : Workspace) : BlockId → Prop
  | top {id : BlockId} : w.contains id = true → w.seat? id = none → Rooted w id
  | under {id : BlockId} {seat : Seat} : w.seat? id = some seat → Rooted w seat.owner → Rooted w id

namespace Rooted

theorem contains {id : BlockId} (h : w.Rooted id) : w.contains id = true := by
  cases h with
  | top alive _ => exact alive
  | under seat _ => exact contains_of_seat? seat

/-- The owner of a rooted block is rooted. -/
theorem owner {id : BlockId} {seat : Seat} (h : w.Rooted id) (sits : w.seat? id = some seat) :
    w.Rooted seat.owner := by
  cases h with
  | top _ free =>
      rw [free] at sits
      cases sits
  | under sits' above =>
      rw [sits] at sits'
      cases sits'
      exact above

/-- Taking seats away keeps blocks rooted. -/
theorem of_fewer_seats (alive : ∀ id, w'.contains id = w.contains id)
    (seats : ∀ id, w'.seat? id = none ∨ w'.seat? id = w.seat? id) {id : BlockId}
    (h : w.Rooted id) : w'.Rooted id := by
  induction h with
  | top present free =>
      refine .top (by rw [alive, present]) ?_
      rcases seats _ with h | h
      · exact h
      · rw [h, free]
  | @under id seat sits above ih =>
      rcases seats id with h | h
      · exact .top (by rw [alive]; exact contains_of_seat? sits) h
      · exact .under (h.trans sits) ih

/-- As long as the living keep their seats and their owners, they stay rooted. -/
theorem of_living (seats : ∀ id, w'.contains id = true → w'.seat? id = w.seat? id)
    (owners : ∀ id seat, w'.contains id = true → w.seat? id = some seat →
      w'.contains seat.owner = true)
    {id : BlockId} (h : w.Rooted id) (alive : w'.contains id = true) : w'.Rooted id := by
  induction h with
  | @top id _ free => exact .top alive ((seats id alive).trans free)
  | @under id seat sits _ ih =>
      exact .under ((seats id alive).trans sits) (ih (owners id seat alive sits))

/-- Blocks may be put into a seat as long as none of them is the owner or lies above it. `above`
holds the owner and everything above it. -/
theorem of_seating {seat : Seat} {moved : List BlockId} {above : BlockId → Prop}
    (alive : ∀ id, w'.contains id = w.contains id)
    (seats : ∀ id ∉ moved, w'.seat? id = w.seat? id)
    (arrived : ∀ id ∈ moved, w'.seat? id = some seat)
    (owner : above seat.owner) (up : ∀ id seat, above id → w.seat? id = some seat → above seat.owner)
    (apart : ∀ id ∈ moved, ¬ above id) (owner_rooted : w.Rooted seat.owner) {id : BlockId}
    (h : w.Rooted id) : w'.Rooted id := by
  have stay {id : BlockId} (h : w.Rooted id) : above id → w'.Rooted id := by
    induction h with
    | @top id present free =>
        intro high
        have fixed := seats id fun hid => apart id hid high
        exact .top (by rw [alive, present]) (fixed.trans free)
    | @under id seat sits _ ih =>
        intro high
        have fixed := seats id fun hid => apart id hid high
        exact .under (fixed.trans sits) (ih (up id seat high sits))
  induction h with
  | @top id present free =>
      by_cases hid : id ∈ moved
      · exact .under (arrived id hid) (stay owner_rooted owner)
      · exact .top (by rw [alive, present]) ((seats id hid).trans free)
  | @under id seat' sits _ ih =>
      by_cases hid : id ∈ moved
      · exact .under (arrived id hid) (stay owner_rooted owner)
      · exact .under ((seats id hid).trans sits) ih

end Rooted

/-- The owners above a block in terms of seats alone. -/
theorem ancestorsFrom_eq (seen : List BlockId) (id : BlockId) :
    w.ancestorsFrom seen id =
      match w.seat? id with
      | none => []
      | some seat =>
        if seat.owner ∈ seen then []
        else seat.owner :: w.ancestorsFrom (seat.owner :: seen) seat.owner := by
  rw [ancestorsFrom]
  unfold seat?
  split
  · next none => rw [none]; rfl
  · next block found =>
      rw [found, Option.bind_some]
      cases block.seat with
      | none => rfl
      | some seat => exact dite_eq_ite

/-- The owners above a block are closed upwards, up to those that have been passed before. -/
theorem mem_ancestorsFrom_of_owner (seen : List BlockId) {id : BlockId} {seat : Seat}
    (sits : w.seat? id = some seat) :
    seat.owner ∈ w.ancestorsFrom seen id ∨ seat.owner ∈ seen := by
  rw [ancestorsFrom_eq, sits]
  by_cases passed : seat.owner ∈ seen
  · exact .inr passed
  · simp [passed]

theorem mem_ancestorsFrom_of_mem {seen : List BlockId} {id high : BlockId} {seat : Seat}
    (h : high ∈ w.ancestorsFrom seen id) (sits : w.seat? high = some seat) :
    seat.owner ∈ w.ancestorsFrom seen id ∨ seat.owner ∈ seen := by
  induction seen, id using ancestorsFrom.induct w with
  | case1 seen id none =>
      rw [ancestorsFrom_eq, seat?, none] at h
      simp at h
  | case2 seen id block found free =>
      rw [ancestorsFrom_eq, seat?, found, Option.bind_some, free] at h
      simp at h
  | case3 seen id block found seat' sits' passed =>
      rw [ancestorsFrom_eq, seat?, found, Option.bind_some, sits'] at h
      simp [passed] at h
  | case4 seen id block found seat' sits' new ih =>
      have step : w.ancestorsFrom seen id =
          seat'.owner :: w.ancestorsFrom (seat'.owner :: seen) seat'.owner := by
        rw [ancestorsFrom_eq, seat?, found, Option.bind_some, sits']
        exact if_neg new
      rw [step, List.mem_cons] at h ⊢
      have later : seat.owner ∈ w.ancestorsFrom (seat'.owner :: seen) seat'.owner ∨
          seat.owner ∈ seat'.owner :: seen := by
        rcases h with rfl | h
        · exact mem_ancestorsFrom_of_owner _ sits
        · exact ih h
      rw [List.mem_cons] at later
      tauto

/-- The owner of a block is among its ancestors. -/
theorem owner_mem_ancestors {id : BlockId} {seat : Seat} (sits : w.seat? id = some seat) :
    seat.owner ∈ w.ancestors id := by
  simpa [ancestors] using mem_ancestorsFrom_of_owner [] sits

/-- The ancestors of a block are closed upwards. -/
theorem ancestors_closed {id high : BlockId} {seat : Seat} (h : high ∈ w.ancestors id)
    (sits : w.seat? high = some seat) : seat.owner ∈ w.ancestors id := by
  simpa [ancestors] using mem_ancestorsFrom_of_mem h sits

/-! ## New members for a seat -/

/-- One seat gets new members. Those that come had no seat or sat there already, those that go lose
their seat and their successor, and no other block or slot is touched. -/
structure Rearranged (w w' : Workspace) (members : Seat → List BlockId) (seat : Seat)
    (list : List BlockId) : Prop where
  elsewhere : ∀ other, other ≠ seat → w'.content? other = w.content? other
  untouched : ∀ id, id ∉ members seat → id ∉ list →
    w'.seat? id = w.seat? id ∧ w'.next? id = w.next? id
  arrived : ∀ id ∈ list, w'.seat? id = some seat
  left : ∀ id ∈ members seat, id ∉ list → w'.seat? id = none ∧ w'.next? id = none
  free : ∀ id ∈ list, id ∈ members seat ∨ w.seat? id = none

namespace Rearranged

variable {members : Seat → List BlockId} {seat other : Seat} {list : List BlockId} {id : BlockId}

/-- Where a block sits afterwards. -/
theorem seat?_eq (r : Rearranged w w' members seat list) (id : BlockId) :
    w'.seat? id =
      if id ∈ list then some seat else if id ∈ members seat then none else w.seat? id := by
  split
  · next hl => exact r.arrived id hl
  · next hl =>
      split
      · next hs => exact (r.left id hs hl).1
      · next hs => exact (r.untouched id hs hl).1

/-- The members of the other seats neither come nor go. -/
theorem apart (r : Rearranged w w' members seat list)
    (listed : ∀ seat id, id ∈ members seat ↔ w.seat? id = some seat) (ho : other ≠ seat)
    (hid : id ∈ members other) : id ∉ members seat ∧ id ∉ list := by
  have sits := (listed other id).1 hid
  have here : id ∉ members seat := by
    intro hs
    rw [(listed seat id).1 hs] at sits
    exact ho (Option.some.inj sits).symm
  refine ⟨here, fun hl => ?_⟩
  rcases r.free id hl with hs | free
  · exact here hs
  · rw [free] at sits
    cases sits

theorem mem_iff (r : Rearranged w w' members seat list)
    (listed : ∀ seat id, id ∈ members seat ↔ w.seat? id = some seat) (other : Seat) (id : BlockId) :
    id ∈ Function.update members seat list other ↔ w'.seat? id = some other := by
  rw [r.seat?_eq]
  by_cases ho : other = seat
  · subst ho
    rw [Function.update_self]
    by_cases hl : id ∈ list
    · simp [hl]
    · by_cases hs : id ∈ members other
      · simp [hl, hs]
      · simp [hl, hs, ← listed]
  · rw [Function.update_of_ne ho, listed]
    by_cases hl : id ∈ list
    · rcases r.free id hl with hs | free
      · simp [hl, (listed seat id).1 hs]
      · simp [hl, free, Ne.symm ho]
    · by_cases hs : id ∈ members seat
      · simp [hl, hs, (listed seat id).1 hs, Ne.symm ho]
      · simp [hl, hs]

theorem next?_eq (r : Rearranged w w' members seat list)
    (listed : ∀ seat id, id ∈ members seat ↔ w.seat? id = some seat) (ho : other ≠ seat)
    (hid : id ∈ members other) : w'.next? id = w.next? id := by
  obtain ⟨hs, hl⟩ := r.apart listed ho hid
  exact (r.untouched id hs hl).2

theorem next?_eq_none (r : Rearranged w w' members seat list)
    (last : ∀ id, w.seat? id = none → w.next? id = none) (id : BlockId)
    (free : w'.seat? id = none) : w'.next? id = none := by
  by_cases hl : id ∈ list
  · rw [r.arrived id hl] at free
    cases free
  · by_cases hs : id ∈ members seat
    · exact (r.left id hs hl).2
    · obtain ⟨seats, nexts⟩ := r.untouched id hs hl
      rw [nexts]
      exact last id (seats ▸ free)

end Rearranged

/-- A workspace is laid out in the given way: `members` lists the blocks of each seat in order, and
`floating` those that have neither a seat nor a place at the top level. -/
structure Laid (w : Workspace) (members : Seat → List BlockId) (floating : List BlockId) :
    Prop where
  roots_nodup : w.roots.Nodup
  mem_roots : ∀ id,
    id ∈ w.roots ↔ w.contains id = true ∧ w.seat? id = none ∧ id ∉ floating
  floats : ∀ id ∈ floating, w.contains id = true ∧ w.seat? id = none
  mem_members : ∀ seat id, id ∈ members seat ↔ w.seat? id = some seat
  nodup : ∀ seat, (members seat).Nodup
  linked : ∀ seat, Linked w.next? (members seat) none
  next?_eq_none : ∀ id, w.seat? id = none → w.next? id = none
  holds : ∀ seat, Holds (w.content? seat) (members seat)
  rooted : ∀ id, w.contains id = true → w.Rooted id

namespace Laid

variable {members : Seat → List BlockId} {floating : List BlockId}

theorem contentMembers (h : Laid w members floating) {seat : Seat} {content : SlotContent}
    (held : w.content? seat = some content) : w.contentMembers content = members seat := by
  have holds := h.holds seat
  rw [held] at holds
  exact holds.contentMembers (h.linked seat) (h.nodup seat)

/-- A slot with members holds something. -/
theorem content?_of_mem (h : Laid w members floating) {seat : Seat} {id : BlockId}
    (hid : id ∈ members seat) : ∃ content, w.content? seat = some content := by
  have holds := h.holds seat
  cases held : w.content? seat with
  | none =>
      rw [held] at holds
      rw [holds.eq_nil_iff.2 rfl] at hid
      cases hid
  | some content => exact ⟨content, rfl⟩

theorem contains_of_mem (h : Laid w members floating) {seat : Seat} {id : BlockId}
    (hid : id ∈ members seat) : w.contains id = true :=
  contains_of_seat? ((h.mem_members seat id).1 hid)

/-- No block is a member of two seats. -/
theorem seat_unique (h : Laid w members floating) {seat seat' : Seat} {id : BlockId}
    (hid : id ∈ members seat) (hid' : id ∈ members seat') : seat = seat' := by
  rw [h.mem_members] at hid hid'
  rw [hid] at hid'
  exact Option.some.inj hid'

theorem notMem_of_floating (h : Laid w members floating) {seat : Seat} {id : BlockId}
    (hid : id ∈ floating) : id ∉ members seat := by
  rw [h.mem_members, (h.floats id hid).2]
  exact Option.some_ne_none seat ∘ Eq.symm

theorem notMem_of_root (h : Laid w members floating) {seat : Seat} {id : BlockId}
    (hid : id ∈ w.roots) : id ∉ members seat := by
  rw [h.mem_members, ((h.mem_roots id).1 hid).2.1]
  exact Option.some_ne_none seat ∘ Eq.symm

theorem notMem_roots (h : Laid w members floating) {seat : Seat} {id : BlockId}
    (hid : id ∈ members seat) : id ∉ w.roots :=
  fun root => h.notMem_of_root root hid

/-- Links stay in a seat. -/
theorem seat?_of_next? (h : Laid w members floating) {id next : BlockId}
    (link : w.next? id = some next) :
    ∃ seat, w.seat? id = some seat ∧ w.seat? next = some seat := by
  cases sits : w.seat? id with
  | none => simp [h.next?_eq_none id sits] at link
  | some seat =>
      refine ⟨seat, rfl, (h.mem_members seat next).1 ?_⟩
      have behind := (h.linked seat).next_mem ((h.mem_members seat id).2 sits) link
      simpa using behind

/-- A layout that says the same of every seat. -/
theorem of_eq (h : Laid w members floating) {members' : Seat → List BlockId}
    (same : ∀ seat, members' seat = members seat) : Laid w members' floating := by
  rw [funext same]
  exact h

/-- A layout is told by the tables; the order of the top level does not matter to it. -/
theorem of_tables (h : Laid w members floating) (alive : ∀ id, w'.contains id = w.contains id)
    (seats : w'.seat? = w.seat?) (nexts : w'.next? = w.next?) (contents : w'.content? = w.content?)
    (roots : w'.roots.Perm w.roots) : Laid w' members floating := by
  refine ⟨roots.nodup_iff.2 h.roots_nodup, fun id => ?_, fun id hid => ?_, fun seat id => ?_,
    h.nodup, fun seat => ?_, fun id free => ?_, fun seat => ?_, fun id hid => ?_⟩
  · rw [roots.mem_iff, h.mem_roots, alive, seats]
  · rw [alive, seats]
    exact h.floats id hid
  · rw [seats]
    exact h.mem_members seat id
  · rw [nexts]
    exact h.linked seat
  · rw [nexts]
    rw [seats] at free
    exact h.next?_eq_none id free
  · rw [contents]
    exact h.holds seat
  · rw [alive] at hid
    exact (h.rooted id hid).of_fewer_seats alive fun other => .inr (by rw [seats])

/-- A layout is told by the blocks and the top level alone. -/
theorem congr (h : Laid w members floating) (blocks : w'.blocks = w.blocks)
    (roots : w'.roots = w.roots) : Laid w' members floating := by
  obtain ⟨_, blocks, roots, _, _⟩ := w
  obtain ⟨_, _, _, _, _⟩ := w'
  cases blocks
  cases roots
  exact h.of_tables (fun _ => rfl) rfl rfl rfl (.refl _)

/-- One seat gets new members: its tables have changed accordingly, and nothing else has changed but
the top level. -/
theorem rearrange (h : Laid w members floating) {seat : Seat} {list : List BlockId}
    (r : Rearranged w w' members seat list) (floating' : List BlockId)
    (alive : ∀ id, w'.contains id = w.contains id) (distinct : list.Nodup)
    (links : Linked w'.next? list none) (held : Holds (w'.content? seat) list)
    (roots_nodup : w'.roots.Nodup)
    (mem_roots : ∀ id,
      id ∈ w'.roots ↔ w'.contains id = true ∧ w'.seat? id = none ∧ id ∉ floating')
    (floats : ∀ id ∈ floating', w'.contains id = true ∧ w'.seat? id = none)
    (rooted : ∀ id, w.contains id = true → w'.Rooted id) :
    Laid w' (Function.update members seat list) floating' := by
  refine ⟨roots_nodup, mem_roots, floats, r.mem_iff h.mem_members, ?_, ?_,
    r.next?_eq_none h.next?_eq_none, ?_, fun id hid => rooted id (by rwa [← alive])⟩
  · exact (Function.forall_update_iff members fun _ list => list.Nodup).2
      ⟨distinct, fun other _ => h.nodup other⟩
  · refine (Function.forall_update_iff members fun _ list => Linked w'.next? list none).2
      ⟨links, fun other ho => ?_⟩
    exact (Linked.congr fun id hid => r.next?_eq h.mem_members ho hid).2 (h.linked other)
  · refine (Function.forall_update_iff members fun other list => Holds (w'.content? other) list).2
      ⟨held, fun other ho => ?_⟩
    rw [r.elsewhere other ho]
    exact h.holds other

end Laid

end Workspace

end SolanaBlocks
