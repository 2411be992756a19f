import Mathlib.Logic.Relation
import SolanaBlocks.Proofs.Forest.Layout

/-!
# What lies below a block

A block lies below another one if going up from owner to owner leads there. Nothing lies strictly
below itself, and of two blocks with one owner, or without any, at most one lies above a given
block. So the trees below the members of a chain, below the slots of a block and below the roots
have nothing in common.
-/

namespace SolanaBlocks

namespace Workspace

variable {w w' : Workspace} {members : Seat → List BlockId} {floating : List BlockId}
  {id other top top' owner : BlockId}

/-- `owner` has `id` in one of its slots. -/
def OwnedBy (w : Workspace) (id owner : BlockId) : Prop :=
  w.owner? id = some owner

/-- `id` is `top` or somewhere below it. -/
def Below (w : Workspace) (id top : BlockId) : Prop :=
  Relation.ReflTransGen w.OwnedBy id top

theorem ownedBy_iff : w.OwnedBy id owner ↔ ∃ slot, w.seat? id = some ⟨owner, slot⟩ := by
  unfold OwnedBy owner?
  rw [Option.map_eq_some_iff]
  constructor
  · rintro ⟨⟨_, slot⟩, sits, rfl⟩
    exact ⟨slot, sits⟩
  · rintro ⟨slot, sits⟩
    exact ⟨⟨owner, slot⟩, sits, rfl⟩

namespace Below

@[simp] theorem refl : w.Below id id := Relation.ReflTransGen.refl

/-- What is below a block is the block itself or below one that it owns. -/
theorem cases_top : w.Below id top ↔ id = top ∨ ∃ child, w.OwnedBy child top ∧ w.Below id child := by
  unfold Below
  rw [Relation.ReflTransGen.cases_tail_iff]
  constructor
  · rintro (rfl | ⟨child, below, owned⟩)
    · exact .inl rfl
    · exact .inr ⟨child, owned, below⟩
  · rintro (rfl | ⟨child, owned, below⟩)
    · exact .inl rfl
    · exact .inr ⟨child, below, owned⟩

/-- Going up from a block without an owner leads nowhere. -/
theorem eq_of_free (below : w.Below id top) (free : w.owner? id = none) : id = top := by
  rcases Relation.ReflTransGen.cases_head below with same | ⟨owner, owned, -⟩
  · exact same
  · rw [OwnedBy, free] at owned
    cases owned

/-- A block below another one passes its owner on the way up. -/
theorem to_owner (below : w.Below id top) (ne : id ≠ top) (owned : w.OwnedBy id owner) :
    w.Below owner top := by
  rcases Relation.ReflTransGen.cases_head below with same | ⟨owner', owned', below⟩
  · exact absurd same ne
  · rw [OwnedBy, owned] at owned'
    cases owned'
    exact below

/-- Of two blocks above a third one lies above the other. -/
theorem total (below : w.Below id top) (below' : w.Below id top') :
    w.Below top top' ∨ w.Below top' top := by
  refine Relation.ReflTransGen.total_of_right_unique ?_ below below'
  intro id owner owner' owned owned'
  rw [OwnedBy, owned] at owned'
  exact Option.some.inj owned'

/-- What lies below a block exists if the block does. -/
theorem contains (below : w.Below id top) (alive : w.contains top = true) :
    w.contains id = true := by
  rcases Relation.ReflTransGen.cases_head below with same | ⟨owner, owned, -⟩
  · rwa [same]
  · obtain ⟨slot, sits⟩ := ownedBy_iff.1 owned
    exact contains_of_seat? sits

theorem rooted (below : w.Below id top) (rooted : w.Rooted id) : w.Rooted top := by
  induction below with
  | refl => exact rooted
  | tail _ owned ih =>
      obtain ⟨slot, sits⟩ := ownedBy_iff.1 owned
      exact ih.owner sits

/-- The blocks above an ancestor are ancestors. -/
theorem mem_ancestors (below : w.Below owner top) (high : owner ∈ w.ancestors id) :
    top ∈ w.ancestors id := by
  induction below with
  | refl => exact high
  | tail _ owned ih =>
      obtain ⟨slot, sits⟩ := ownedBy_iff.1 owned
      exact ancestors_closed ih sits

/-- The place of a block itself does not matter to what lies below it. -/
theorem of_seats (below : w.Below id top)
    (seats : ∀ other, other ≠ top → w'.seat? other = w.seat? other) : w'.Below id top := by
  induction below using Relation.ReflTransGen.head_induction_on with
  | refl => exact refl
  | @head id owner owned _ ih =>
      by_cases same : id = top
      · exact same ▸ refl
      · obtain ⟨slot, sits⟩ := ownedBy_iff.1 owned
        exact ih.head (ownedBy_iff.2 ⟨slot, (seats id same).trans sits⟩)

end Below

/-- No rooted block lies strictly below itself. -/
theorem Rooted.not_below_owner (rooted : w.Rooted id) (owned : w.OwnedBy id owner) :
    ¬ w.Below owner id := by
  induction rooted generalizing owner with
  | @top id _ free =>
      obtain ⟨slot, sits⟩ := ownedBy_iff.1 owned
      rw [free] at sits
      cases sits
  | @under id seat sits _ ih =>
      have same : seat.owner = owner := by
        obtain ⟨slot, sits'⟩ := ownedBy_iff.1 owned
        rw [sits] at sits'
        cases sits'
        rfl
      subst same
      intro below
      by_cases self : seat.owner = id
      · rw [self] at ih owned
        exact ih owned Below.refl
      · rcases Relation.ReflTransGen.cases_head below with loop | ⟨above, owned', below⟩
        · exact self loop
        · exact ih owned' (below.trans (Relation.ReflTransGen.single owned))

/-- Blocks with the same owner, or both without one, have nothing below them in common. -/
theorem Below.unique (below : w.Below id top) (below' : w.Below id top')
    (rooted : w.Rooted id) (same : w.owner? top = w.owner? top') : top = top' := by
  have apart {a b : BlockId} (below : w.Below a b) (rooted : w.Rooted a)
      (same : w.owner? a = w.owner? b) : a = b := by
    cases owned : w.owner? a with
    | none => exact below.eq_of_free owned
    | some owner =>
        by_contra ne
        have loop := below.to_owner ne owned
        exact (below.rooted rooted).not_below_owner (same.symm.trans owned) loop
  rcases below.total below' with up | up
  · exact apart up (below.rooted rooted) same
  · exact (apart up (below'.rooted rooted) same.symm).symm

/-- Every rooted block lies below one without an owner. -/
theorem Rooted.exists_top (rooted : w.Rooted id) :
    ∃ top, w.Below id top ∧ w.contains top = true ∧ w.seat? top = none := by
  induction rooted with
  | @top id alive free => exact ⟨id, Below.refl, alive, free⟩
  | @under id seat sits _ ih =>
      obtain ⟨top, below, alive, free⟩ := ih
      exact ⟨top, Relation.ReflTransGen.head (ownedBy_iff.2 ⟨seat.slot, sits⟩) below, alive, free⟩

/-- No block lies above its owner. -/
theorem Laid.not_below_owner (h : Laid w members floating) (owned : w.OwnedBy id owner) :
    ¬ w.Below owner id := by
  obtain ⟨slot, sits⟩ := ownedBy_iff.1 owned
  exact (h.rooted id (contains_of_seat? sits)).not_below_owner owned

theorem Laid.ownedBy_iff (h : Laid w members floating) :
    w.OwnedBy id owner ↔ ∃ slot, id ∈ members ⟨owner, slot⟩ := by
  rw [Workspace.ownedBy_iff]
  simp only [h.mem_members]

/-- The children of a block are the blocks that it owns. -/
theorem Laid.mem_children_iff (h : Laid w members floating) :
    id ∈ w.children owner ↔ w.OwnedBy id owner := by
  rw [Workspace.mem_children_iff, h.ownedBy_iff]
  constructor
  · rintro ⟨slot, content, held, hid⟩
    exact ⟨slot, h.contentMembers held ▸ hid⟩
  · rintro ⟨slot, hid⟩
    obtain ⟨content, held⟩ := h.content?_of_mem hid
    exact ⟨slot, content, held, by rwa [h.contentMembers held]⟩

/-- What lies below a block is reached from it by going from owner to child. -/
theorem Laid.below_iff_children (h : Laid w members floating) :
    w.Below id owner ↔
      Relation.ReflTransGen (fun owner child => child ∈ w.children owner) owner id := by
  have swapped : (fun owner child => child ∈ w.children owner) = Function.swap w.OwnedBy := by
    funext owner child
    exact propext h.mem_children_iff
  rw [swapped, Relation.reflTransGen_swap, Below]

/-- Two members of slots of one block that have something below them in common are the same member
of the same slot. -/
theorem Laid.below_unique (h : Laid w members floating) {slot slot' : String}
    (hid : top ∈ members ⟨owner, slot⟩) (hid' : top' ∈ members ⟨owner, slot'⟩)
    (below : w.Below id top) (below' : w.Below id top') (alive : w.contains id = true) :
    slot = slot' ∧ top = top' := by
  have owned := h.ownedBy_iff.2 ⟨slot, hid⟩
  have owned' := h.ownedBy_iff.2 ⟨slot', hid'⟩
  have same := below.unique below' (h.rooted id alive) (owned.trans owned'.symm)
  subst same
  exact ⟨congrArg Seat.slot (h.seat_unique hid hid'), rfl⟩

end Workspace

end SolanaBlocks
