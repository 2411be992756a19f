import SolanaBlocks.Proofs.Forest.Descent
import SolanaBlocks.Proofs.Forest.Orderly

/-!
# What the slots hold

What an edit does is told by the lists of blocks in the slots before and after it. `membersAt` is
such a list, read off the workspace itself; in an orderly workspace these lists are its layout.

Blocks that are moved leave their slots, and what stays there stays in its order. `Keeps` says this
of a slot, and that the slot goes on naming the first block that stays.
-/

namespace SolanaBlocks

theorem Except.exists_of_isOk {ε α : Type} {result : Except ε α} (ok : result.isOk = true) :
    ∃ value, result = .ok value := by
  cases result with
  | error e => cases ok
  | ok value => exact ⟨value, rfl⟩

/-- Content of the same kind that names the first of a list of blocks, if there is one. -/
def SlotContent.renew : SlotContent → List BlockId → Option SlotContent
  | single _, list => list.head?.map single
  | chain _, list => list.head?.map chain

/-- What a slot holds when some of its members have left is told by the others and by its kind. -/
theorem Holds.eq_renew {content content' : Option SlotContent} {list list' : List BlockId}
    (h : Holds content list) (h' : Holds content' list') (fewer : list' ⊆ list)
    (same : ∀ c c', content = some c → content' = some c' → c'.arity = c.arity) :
    content' = content.bind fun c => c.renew list' := by
  cases h with
  | empty => exact h'.eq_nil_iff.1 (List.subset_nil.1 fewer)
  | single child =>
      cases h' with
      | empty => rfl
      | single => rfl
      | chain => cases same _ _ rfl rfl
  | chain head rest =>
      cases h' with
      | empty => rfl
      | single => cases same _ _ rfl rfl
      | chain => rfl

namespace Workspace

variable {palette : Palette} {w w' : Workspace} {members members' : Seat → List BlockId}
  {floating floating' : List BlockId} {seat : Seat}

/-- The blocks in the slot of a seat, in order. -/
def membersAt (w : Workspace) (seat : Seat) : List BlockId :=
  match w.content? seat with
  | none => []
  | some content => w.contentMembers content

/-- A layout lists what the slots hold. -/
theorem Laid.membersAt_eq (h : Laid w members floating) (seat : Seat) :
    w.membersAt seat = members seat := by
  have holds := h.holds seat
  unfold membersAt
  cases held : w.content? seat with
  | none =>
      rw [held] at holds
      exact (holds.eq_nil_iff.2 rfl).symm
  | some content => exact h.contentMembers held

theorem Laid.read (h : Laid w members floating) : Laid w w.membersAt floating :=
  h.of_eq h.membersAt_eq

theorem Orderly.laid_membersAt (h : Orderly palette w) : Laid w w.membersAt [] := by
  obtain ⟨members, laid⟩ := h.laid
  exact laid.read

/-- Some members of a seat stay there, in their order, and the others have left it. -/
structure Keeps (w w' : Workspace) (seat : Seat) (stays : BlockId → Prop) [DecidablePred stays] :
    Prop where
  members : w'.membersAt seat = (w.membersAt seat).filter stays
  content : w'.content? seat = (w.content? seat).bind fun content =>
    content.renew (w'.membersAt seat)

/-- A seat keeps what its list in the layout keeps, as long as its slot is of the same kind. -/
theorem Laid.keeps {stays : BlockId → Prop} [DecidablePred stays] (h : Laid w members floating)
    (h' : Laid w' members' floating') (t : Typed w) (t' : Typed w')
    (arity : w'.arity? seat = w.arity? seat)
    (list : members' seat = (members seat).filter stays) : Keeps w w' seat stays := by
  have now : w'.membersAt seat = (w.membersAt seat).filter stays := by
    rw [h'.membersAt_eq, h.membersAt_eq, list]
  have holds := h.holds seat
  have holds' := h'.holds seat
  rw [← h.membersAt_eq] at holds
  rw [← h'.membersAt_eq] at holds'
  refine ⟨now, holds.eq_renew holds' ?_ fun _ _ => t.arity_eq t' arity⟩
  rw [now]
  exact List.filter_subset_self _

/-- A slot with the same list of members is the same. -/
theorem Laid.same_at (h : Laid w members floating) (h' : Laid w' members' floating')
    (t : Typed w) (t' : Typed w') (arity : w'.arity? seat = w.arity? seat)
    (list : members' seat = members seat) :
    w'.content? seat = w.content? seat ∧ w'.membersAt seat = w.membersAt seat := by
  have holds' := h'.holds seat
  rw [list] at holds'
  refine ⟨(h.holds seat).eq_of_arity holds' fun _ _ => t.arity_eq t' arity, ?_⟩
  rw [h'.membersAt_eq, h.membersAt_eq, list]

/-! ## Slots that lose their last members -/

/-- The last members of a slot have come to the end of the top level in their order, and nothing
else has changed its place. -/
structure Trimmed (w w' : Workspace) (seat : Seat) (kept sent : List BlockId) : Prop where
  blocks : SameBlocks w w'
  members : w'.membersAt seat = kept
  content : w'.content? seat = (w.content? seat).bind fun content => content.renew kept
  elsewhere : ∀ other, other ≠ seat →
    w'.content? other = w.content? other ∧ w'.membersAt other = w.membersAt other
  roots : w'.roots = w.roots ++ sent
  free : ∀ id ∈ sent, w'.seat? id = none ∧ w'.next? id = none
  seats : ∀ id, id ∉ sent → w'.seat? id = w.seat? id

theorem Released.shortened (r : Released w w' members floating seat) :
    Shortened w w' members floating seat [] (members seat) :=
  ⟨r.laid, r.typed, r.blocks, r.roots, r.seats⟩

namespace Shortened

variable {kept cut : List BlockId}

theorem bump (s : Shortened w w' members floating seat kept cut) :
    Shortened w w'.bump members floating seat kept cut :=
  ⟨s.laid.congr rfl rfl, fun t => (s.typed t).congr rfl rfl,
    s.blocks.bump, s.roots, s.seats⟩

/-- Only the slot that is cut changes, and what is cut off is free. -/
theorem trimmed (s : Shortened w w' members [] seat kept cut) (h : Laid w members [])
    (t : Typed w) (fewer : kept ⊆ members seat) : Trimmed w w' seat kept cut := by
  have now : w'.membersAt seat = kept := by
    rw [s.laid.membersAt_eq, Function.update_self]
  have same (other : Seat) := s.blocks.arity? other
  refine ⟨s.blocks, now, ?_, fun other ne => ?_, s.roots, fun id sent => ?_, fun id stays => ?_⟩
  · have holds := s.laid.holds seat
    rw [Function.update_self] at holds
    exact (h.holds seat).eq_renew holds fewer fun _ _ => t.arity_eq (s.typed t) (same seat)
  · exact h.same_at s.laid t (s.typed t) (same other) (Function.update_of_ne ne ..)
  · have free : w'.seat? id = none := by rw [s.seats, if_pos sent]
    exact ⟨free, s.laid.next?_eq_none id free⟩
  · rw [s.seats, if_neg stays]

end Shortened

/-- Unbinding gives back what the slot held, and sends it to the top level. -/
theorem Orderly.exists_unbind (h : Orderly palette w) (seat : Seat)
    (alive : w.contains seat.owner = true) :
    ∃ w', w.unbind seat.owner seat.slot = .ok (w', w.membersAt seat) ∧
      Trimmed w w' seat [] (w.membersAt seat) := by
  have laid := h.laid_membersAt
  obtain ⟨emptied, list⟩ := released laid seat
  refine ⟨_, unbind_eq_ok_iff.2 ⟨alive, rfl, list.symm⟩, ?_⟩
  exact emptied.shortened.bump.trimmed laid h.typed (List.nil_subset _)

end Workspace

end SolanaBlocks
