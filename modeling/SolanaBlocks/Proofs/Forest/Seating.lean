import SolanaBlocks.Proofs.Forest.Detach
import SolanaBlocks.Proofs.Forest.Release

/-!
# Taking a place

Floating blocks are put into an empty slot, or one of them behind a member of a chain. In both cases
no block may come to lie below itself, which is what the checks on ancestors are for.
-/

namespace SolanaBlocks

namespace Workspace

variable {w : Workspace} {members : Seat → List BlockId} {floating : List BlockId}

/-! ## Filling a slot -/

/-- Linking a list touches no table but that of successors, and there only the list itself. -/
structure Chained (w w' : Workspace) (list : List BlockId) : Prop where
  blocks : SameBlocks w w'
  roots : w'.roots = w.roots
  contents : w'.content? = w.content?
  seats : w'.seat? = w.seat?
  nexts : ∀ id, id ∉ list → w'.next? id = w.next? id
  linked : Linked w'.next? list none

theorem chained_linkChain (w : Workspace) (list : List BlockId)
    (alive : ∀ id ∈ list, w.contains id = true) (free : ∀ id ∈ list, w.next? id = none)
    (distinct : list.Nodup) : Chained w (w.linkChain list) list := by
  induction list generalizing w with
  | nil => exact ⟨.refl w, rfl, rfl, rfl, fun _ _ => rfl, Linked.nil⟩
  | cons first rest ih =>
      cases rest with
      | nil =>
          refine ⟨.refl w, rfl, rfl, rfl, fun _ _ => rfl, ?_⟩
          simpa [Linked.cons_iff, linkChain] using free
      | cons second rest =>
          obtain ⟨once, distinct⟩ := List.nodup_cons.1 distinct
          obtain ⟨here, alive⟩ := List.forall_mem_cons.1 alive
          have link := relinked_modify here (some second)
          rw [linkChain]
          generalize (w.modify first fun block => { block with next := some second }) = w₁ at link ⊢
          have later := ih w₁ (fun id hid => (link.blocks.contains id).trans (alive id hid))
            (fun id hid => ?_) distinct
          · refine ⟨link.blocks.trans later.blocks, later.roots.trans link.roots,
              later.contents.trans link.contents, later.seats.trans link.seats, fun id hid => ?_, ?_,
              later.linked⟩
            · rw [List.mem_cons, not_or] at hid
              rw [later.nexts id hid.2, link.nexts, Function.update_of_ne hid.1]
            · rw [later.nexts first once, link.nexts, Function.update_self]
              rfl
          · rw [link.nexts, Function.update_of_ne (ne_of_mem_of_not_mem hid once)]
            exact free id (List.mem_cons_of_mem first hid)

/-- Giving a seat to some blocks touches no other table. -/
structure Placed (w w' : Workspace) (seat : Seat) (list : List BlockId) : Prop where
  blocks : SameBlocks w w'
  roots : w'.roots = w.roots
  contents : w'.content? = w.content?
  nexts : w'.next? = w.next?
  seats : ∀ id, w'.seat? id = if id ∈ list then some seat else w.seat? id

theorem placed_foldl (w : Workspace) (seat : Seat) (list : List BlockId)
    (alive : ∀ id ∈ list, w.contains id = true) :
    Placed w
      (list.foldl (fun w child => w.modify child fun block => { block with seat := some seat }) w)
      seat list := by
  induction list generalizing w with
  | nil => exact ⟨.refl w, rfl, rfl, rfl, by simp⟩
  | cons first rest ih =>
      obtain ⟨here, alive⟩ := List.forall_mem_cons.1 alive
      rw [List.foldl_cons]
      generalize place : (w.modify first fun block => { block with seat := some seat }) = w₁
      have blocks : SameBlocks w w₁ := by
        rw [← place]
        exact sameBlocks_modify w _ _ (fun _ => rfl) (fun _ => rfl)
      have seats : w₁.seat? = Function.update w.seat? first (some seat) := by
        rw [← place]
        exact seat?_modify_seat w first here _ (some seat) fun _ => rfl
      have contents : w₁.content? = w.content? := by
        rw [← place]
        exact content?_modify_of_eq w _ _ fun _ => rfl
      have nexts : w₁.next? = w.next? := by
        rw [← place]
        exact next?_modify_of_eq w _ _ fun _ => rfl
      have roots : w₁.roots = w.roots := by
        rw [← place]
        rfl
      have later := ih w₁ fun id hid => (blocks.contains id).trans (alive id hid)
      refine ⟨blocks.trans later.blocks, later.roots.trans roots, later.contents.trans contents,
        later.nexts.trans nexts, fun id => ?_⟩
      rw [later.seats, seats, Function.update_apply]
      by_cases same : id = first <;> by_cases hid : id ∈ rest <;> simp [same, hid]

/-- The content that names some blocks in a slot. -/
def contentOf : SlotInput → Option SlotContent
  | .single child => some (.single child)
  | .chain [] => none
  | .chain (head :: _) => some (.chain head)

theorem holds_contentOf (input : SlotInput) : Holds (contentOf input) input.members := by
  match input with
  | .single child => exact .single child
  | .chain [] => exact .empty
  | .chain (head :: rest) => exact .chain head rest

theorem arity_contentOf {input : SlotInput} {content : SlotContent}
    (h : contentOf input = some content) : content.arity = input.arity := by
  match input, h with
  | .single child, rfl => rfl
  | .chain (head :: rest), rfl => rfl

/-- What filling an empty slot does to the tables. -/
structure Filled (w w' : Workspace) (seat : Seat) (input : SlotInput) : Prop where
  blocks : SameBlocks w w'
  roots : w'.roots = w.roots
  contents : w'.content? = Function.update w.content? seat (contentOf input)
  seats : ∀ id, w'.seat? id = if id ∈ input.members then some seat else w.seat? id
  nexts : ∀ id, id ∉ input.members → w'.next? id = w.next? id
  linked : Linked w'.next? input.members none

/-- Placing the members of a slot and naming them in it, once they are linked. -/
theorem filled_of_linked (input : SlotInput) {w₁ : Workspace} {seat : Seat} {content : SlotContent}
    (named : contentOf input = some content) (linked : Chained w w₁ input.members)
    (owner : w.contains seat.owner = true) (alive : ∀ id ∈ input.members, w.contains id = true) :
    Filled w
      ((input.members.foldl
        (fun w child => w.modify child fun block => { block with seat := some seat }) w₁).modify
          seat.owner fun block => { block with slots := block.slots.insert seat.slot content })
      seat input := by
  have placed := placed_foldl w₁ seat input.members fun id hid =>
    (linked.blocks.contains id).trans (alive id hid)
  generalize input.members.foldl
    (fun w child => w.modify child fun block => { block with seat := some seat }) w₁ = w₂ at placed ⊢
  have blocks := linked.blocks.trans placed.blocks
  have named' := refilled_insert ((blocks.contains seat.owner).trans owner) content
  refine ⟨blocks.trans named'.blocks, named'.roots.trans (placed.roots.trans linked.roots), ?_,
    fun id => ?_, fun id hid => ?_, ?_⟩
  · rw [named'.contents, placed.contents, linked.contents, named]
  · rw [named'.seats, placed.seats, linked.seats]
  · rw [named'.nexts, placed.nexts, linked.nexts id hid]
  · rw [named'.nexts, placed.nexts]
    exact linked.linked

theorem filled_seatMembers (input : SlotInput) {seat : Seat} (owner : w.contains seat.owner = true)
    (empty : w.content? seat = none) (alive : ∀ id ∈ input.members, w.contains id = true)
    (free : ∀ id ∈ input.members, w.next? id = none) (distinct : input.members.Nodup) :
    Filled w (w.seatMembers seat.owner seat.slot input) seat input := by
  have linked := chained_linkChain w input.members alive free distinct
  match input with
  | .single child => exact filled_of_linked (.single child) rfl linked owner alive
  | .chain [] =>
      refine ⟨.refl w, rfl, ?_, by simp [seatMembers, SlotInput.members], fun _ _ => rfl,
        Linked.nil⟩
      rw [contentOf, ← empty, Function.update_eq_self]
      rfl
  | .chain (head :: rest) =>
      exact filled_of_linked (.chain (head :: rest)) rfl linked owner alive

/-- A seat that was empty has the members that fill it. -/
theorem Filled.rearranged {w' : Workspace} {seat : Seat} {input : SlotInput}
    (f : Filled w w' seat input) (empty : members seat = [])
    (free : ∀ id ∈ input.members, w.seat? id = none) :
    Rearranged w w' members seat input.members := by
  refine ⟨fun other ho => ?_, fun id _ hid => ?_, fun id hid => ?_, fun id hid => ?_,
    fun id hid => .inr (free id hid)⟩
  · rw [f.contents, Function.update_of_ne ho]
  · rw [f.seats, if_neg hid, f.nexts id hid]
    exact ⟨rfl, rfl⟩
  · rw [f.seats, if_pos hid]
  · rw [empty] at hid
    cases hid

/-- Floating blocks that fill an empty slot are its members, unless one of them is the owner or lies
above it. `above` holds the owner and what lies above it. -/
theorem laid_filled (h : Laid w members floating) {w' : Workspace} {seat : Seat} {input : SlotInput}
    (f : Filled w w' seat input) (empty : members seat = []) (distinct : input.members.Nodup)
    (free : ∀ id ∈ input.members, id ∈ floating) (all : ∀ id ∈ floating, id ∈ input.members)
    (above : BlockId → Prop) (alive : w.contains seat.owner = true) (owner : above seat.owner)
    (up : ∀ id seat, above id → w.seat? id = some seat → above seat.owner)
    (apart : ∀ id ∈ input.members, ¬ above id) :
    Laid w' (Function.update members seat input.members) [] := by
  have moved := f.rearranged empty fun id hid => (h.floats id (free id hid)).2
  refine h.rearrange moved [] f.blocks.contains distinct f.linked ?_ (f.roots ▸ h.roots_nodup)
    (fun id => ?_) (by simp) fun id hid => ?_
  · rw [f.contents, Function.update_self]
    exact holds_contentOf input
  · rw [f.roots, h.mem_roots, f.blocks.contains, f.seats]
    by_cases hid : id ∈ input.members
    · simp [hid, free id hid]
    · have seated : id ∉ floating := fun hf => hid (all id hf)
      simp [hid, seated]
  · refine Rooted.of_seating f.blocks.contains (fun other ho => ?_) moved.arrived owner up apart
      (h.rooted _ alive) (h.rooted id hid)
    rw [f.seats, if_neg ho]

theorem typed_filled (t : Typed w) {w' : Workspace} {seat : Seat} {input : SlotInput}
    (f : Filled w w' seat input) (arity : w.arity? seat = some input.arity)
    (fits : ∀ id ∈ input.members, w.Fits id seat) : Typed w' := by
  refine t.of_move f.blocks (fun other content held => ?_) fun id other sits => ?_
  · rw [f.contents, Function.update_apply] at held
    split at held
    · next same =>
        subst same
        exact .inr (by rw [arity, arity_contentOf held])
    · exact .inl ⟨content, held, rfl⟩
  · rw [f.seats] at sits
    split at sits
    · next hid =>
        cases sits
        exact .inr (fits id hid)
    · exact .inl sits

end Workspace

end SolanaBlocks
