import SolanaBlocks.Proofs.Forest.Kinds
import SolanaBlocks.Proofs.Forest.Layout
import SolanaBlocks.Proofs.Forest.Walks

/-!
# Back to the top level

Emptying a slot and cutting a chain send some members of a seat, always the last ones, to the end of
the top level in their order.
-/

namespace SolanaBlocks

namespace Workspace

variable {w : Workspace} {members : Seat → List BlockId} {floating : List BlockId}

/-- What sending blocks to the top level does to the tables. Those that are there already stay where
they are. -/
structure Raised (w w' : Workspace) (list : List BlockId) : Prop where
  blocks : SameBlocks w w'
  roots : w'.roots = w.roots ++ list.filter (· ∉ w.roots)
  contents : w'.content? = w.content?
  seats : ∀ id, w'.seat? id = if id ∈ list then none else w.seat? id
  nexts : ∀ id, w'.next? id = if id ∈ list then none else w.next? id

theorem raised_toTop (w : Workspace) (id : BlockId) : Raised w (w.toTop id) [id] := by
  have blocks := sameBlocks_modify w id (fun block => { block with next := none, seat := none })
    (fun _ => rfl) (fun _ => rfl)
  have contents := content?_modify_of_eq w id
    (fun block => { block with next := none, seat := none }) fun _ => rfl
  have seats := seat?_modify w id fun block => { block with next := none, seat := none }
  have nexts := next?_modify w id fun block => { block with next := none, seat := none }
  have emptied (link : Option BlockId) (other : BlockId) :
      (if id = other then (w.get? other).bind fun _ => (none : Option BlockId) else link) =
        if other ∈ [id] then none else link := by
    simp [eq_comm]
  have unseated (seat : Option Seat) (other : BlockId) :
      (if id = other then (w.get? other).bind fun _ => (none : Option Seat) else seat) =
        if other ∈ [id] then none else seat := by
    simp [eq_comm]
  unfold toTop
  dsimp only
  split
  · next root =>
      have here : id ∈ w.roots := by simpa [isRoot] using root
      refine ⟨blocks, ?_, contents, fun other => ?_, fun other => ?_⟩
      · simp [here]
      · exact (seats other).trans (unseated _ other)
      · exact (nexts other).trans (emptied _ other)
  · next notRoot =>
      have new : id ∉ w.roots := by simpa [isRoot] using notRoot
      refine ⟨⟨rfl, blocks.typeName?, blocks.fields?⟩, ?_, contents, fun other => ?_,
        fun other => ?_⟩
      · simp [new]
      · exact (seats other).trans (unseated _ other)
      · exact (nexts other).trans (emptied _ other)

theorem raised_foldl_toTop (w : Workspace) {list : List BlockId} (distinct : list.Nodup) :
    Raised w (list.foldl toTop w) list := by
  induction list generalizing w with
  | nil => exact ⟨.refl w, by simp, rfl, by simp, by simp⟩
  | cons id list ih =>
      obtain ⟨once, distinct⟩ := List.nodup_cons.1 distinct
      have first := raised_toTop w id
      have later := ih (w.toTop id) distinct
      rw [List.foldl_cons]
      refine ⟨first.blocks.trans later.blocks, ?_, ?_, fun other => ?_, fun other => ?_⟩
      · have new (other : BlockId) (ho : other ∈ list) :
            decide (other ∉ (w.toTop id).roots) = decide (other ∉ w.roots) := by
          have ne := ne_of_mem_of_not_mem ho once
          rw [first.roots]
          simp [ne]
        rw [later.roots, List.filter_congr new, first.roots, List.append_assoc, ← List.filter_append,
          List.singleton_append]
      · rw [later.contents, first.contents]
      · rw [later.seats, first.seats]
        by_cases ho : other ∈ list <;> simp [ho]
      · rw [later.nexts, first.nexts]
        by_cases ho : other ∈ list <;> simp [ho]

/-- Whatever is sent to the top level is a root. -/
theorem Raised.mem_roots {w' : Workspace} {list : List BlockId} (r : Raised w w' list)
    {id : BlockId} (hid : id ∈ list) : id ∈ w'.roots := by
  rw [r.roots]
  by_cases root : id ∈ w.roots <;> simp [root, hid]

/-- Blocks that are not at the top level yet come there in their order. -/
theorem Raised.roots_append {w' : Workspace} {list : List BlockId} (r : Raised w w' list)
    (new : ∀ id ∈ list, id ∉ w.roots) : w'.roots = w.roots ++ list := by
  rw [r.roots, List.filter_eq_self.2 fun id hid => by simpa using new id hid]

/-- Sending blocks to the top level keeps what is left together. -/
theorem typed_raised (t : Typed w) {w₁ w₂ : Workspace} {sent : List BlockId}
    (blocks : SameBlocks w w₁) (seats : w₁.seat? = w.seat?)
    (contents : ∀ seat content, w₁.content? seat = some content → w.content? seat = some content)
    (raised : Raised w₁ w₂ sent) : Typed w₂ := by
  refine t.of_move (blocks.trans raised.blocks) (fun seat content held => ?_) fun id seat sits => ?_
  · rw [raised.contents] at held
    exact .inl ⟨content, contents seat content held, rfl⟩
  · rw [raised.seats, seats] at sits
    split at sits
    · cases sits
    · exact .inl sits

/-- The last members of a seat go to the top level, once slot and links have been set to end after
those that stay. -/
theorem laid_raised (h : Laid w members floating) {w₁ w₂ : Workspace} {seat : Seat}
    {kept sent : List BlockId} (split : members seat = kept ++ sent) (blocks : SameBlocks w w₁)
    (roots : w₁.roots = w.roots) (seats : w₁.seat? = w.seat?)
    (elsewhere : ∀ other, other ≠ seat → w₁.content? other = w.content? other)
    (nexts : ∀ id, id ∉ members seat → w₁.next? id = w.next? id)
    (linked : Linked w₁.next? kept none) (holds : Holds (w₁.content? seat) kept)
    (raised : Raised w₁ w₂ sent) : Laid w₂ (Function.update members seat kept) floating := by
  have distinct := h.nodup seat
  rw [split] at distinct
  obtain ⟨keptDistinct, sentDistinct, apart⟩ := List.nodup_append.1 distinct
  have same := blocks.trans raised.blocks
  have stays {id : BlockId} (hid : id ∈ kept) : id ∉ sent := fun hs => apart id hid id hs rfl
  have roots' : w₂.roots = w.roots ++ sent := by
    rw [← roots]
    refine raised.roots_append fun id hs => ?_
    rw [roots]
    have there : id ∈ members seat := by simp [split, hs]
    exact h.notMem_roots there
  have seats' (id : BlockId) : w₂.seat? id = if id ∈ sent then none else w.seat? id := by
    rw [raised.seats, seats]
  have moved : Rearranged w w₂ members seat kept := by
    refine ⟨fun other ho => ?_, fun id hid _ => ?_, fun id hid => ?_, fun id hid unkept => ?_,
      fun id hid => .inl (by simp [split, hid])⟩
    · rw [raised.contents, elsewhere other ho]
    · have unsent : id ∉ sent := fun hs => hid (by simp [split, hs])
      rw [seats', raised.nexts, if_neg unsent, if_neg unsent, nexts id hid]
      exact ⟨rfl, rfl⟩
    · rw [seats', if_neg (stays hid)]
      exact (h.mem_members seat id).1 (by simp [split, hid])
    · rw [split, List.mem_append] at hid
      have hs := hid.resolve_left unkept
      rw [seats', raised.nexts, if_pos hs, if_pos hs]
      exact ⟨rfl, rfl⟩
  refine h.rearrange moved floating same.contains keptDistinct ?_ (raised.contents ▸ holds) ?_
    (fun id => ?_) (fun id hid => ?_) fun id hid => ?_
  · refine (Linked.congr fun id hid => ?_).2 linked
    rw [raised.nexts, if_neg (stays hid)]
  · rw [roots', List.nodup_append]
    refine ⟨h.roots_nodup, sentDistinct, fun id hr other hs same => ?_⟩
    have there : other ∈ members seat := by simp [split, hs]
    exact h.notMem_of_root hr (same ▸ there)
  · rw [roots', List.mem_append, h.mem_roots, same.contains, seats']
    by_cases hs : id ∈ sent
    · have hid : id ∈ members seat := by simp [split, hs]
      have alive := h.contains_of_mem hid
      have seated : id ∉ floating := fun hf => h.notMem_of_floating hf hid
      simp [hs, alive, seated]
    · simp [hs]
  · rw [same.contains, seats']
    obtain ⟨alive, free⟩ := h.floats id hid
    exact ⟨alive, by simp [free]⟩
  · refine (h.rooted id hid).of_fewer_seats same.contains fun other => ?_
    rw [seats']
    by_cases hs : other ∈ sent <;> simp [hs]

/-! ## Emptying a slot -/

/-- What emptying a slot comes to. -/
structure Released (w w' : Workspace) (members : Seat → List BlockId) (floating : List BlockId)
    (seat : Seat) : Prop where
  laid : Laid w' (Function.update members seat []) floating
  typed : Typed w → Typed w'
  blocks : SameBlocks w w'
  roots : w'.roots = w.roots ++ members seat
  seats : ∀ id, w'.seat? id = if id ∈ members seat then none else w.seat? id

theorem released (h : Laid w members floating) (seat : Seat) :
    Released w (w.release seat.owner seat.slot).1 members floating seat ∧
      (w.release seat.owner seat.slot).2 = members seat := by
  have holds := h.holds seat
  have slot : w.slot? seat.owner seat.slot = w.content? seat := rfl
  unfold release
  rw [slot]
  cases held : w.content? seat with
  | none =>
      rw [held] at holds
      have none := holds.eq_nil_iff.2 rfl
      refine ⟨⟨?_, id, .refl w, by simp [none], by simp [none]⟩, none.symm⟩
      rw [← none, Function.update_eq_self]
      exact h
  | some content =>
      dsimp only
      rw [held] at holds
      have erased := refilled_erase w seat
      generalize (w.modify seat.owner fun block =>
        { block with slots := block.slots.erase seat.slot }) = w₁ at erased ⊢
      have list : w₁.contentMembers content = members seat := by
        refine holds.contentMembers ?_ (h.nodup seat)
        rw [erased.nexts]
        exact h.linked seat
      rw [list]
      have raised := raised_foldl_toTop w₁ (h.nodup seat)
      have new (id : BlockId) (hid : id ∈ members seat) : id ∉ w₁.roots := by
        rw [erased.roots]
        exact h.notMem_roots hid
      refine ⟨⟨?_, fun t => ?_, erased.blocks.trans raised.blocks, ?_, ?_⟩, rfl⟩
      · refine laid_raised h (List.nil_append _).symm erased.blocks erased.roots erased.seats
          (fun other ho => ?_) (fun id _ => by rw [erased.nexts]) Linked.nil ?_ raised
        · rw [erased.contents, Function.update_of_ne ho]
        · rw [erased.contents, Function.update_self]
          exact .empty
      · refine typed_raised t erased.blocks erased.seats (fun other content held => ?_) raised
        exact eq_some_of_update_none (erased.contents ▸ held)
      · rw [raised.roots_append new, erased.roots]
      · intro id
        rw [raised.seats, erased.seats]

theorem unbind_eq_ok_iff {owner : BlockId} {slot : String} {w' : Workspace} {ids : List BlockId} :
    w.unbind owner slot = .ok (w', ids) ↔
      w.contains owner = true ∧ w' = bump (w.release owner slot).1 ∧
        ids = (w.release owner slot).2 := by
  rw [contains_iff, unbind]
  cases w.get? owner with
  | none => simp
  | some block => simp [eq_comm]

/-! ## Cutting a chain -/

/-- In a chain the members up to a given one. -/
theorem chainPrefix_eq (h : Laid w members floating) {seat : Seat} {head id : BlockId}
    {before after : List BlockId} (held : w.content? seat = some (.chain head))
    (split : members seat = before ++ id :: after) : w.chainPrefix seat id = before ++ [id] := by
  have linked := h.linked seat
  have distinct := h.nodup seat
  have holds := h.holds seat
  rw [held] at holds
  have starts := holds.head?_eq
  rw [split] at linked distinct starts
  exact chainPrefix_of_linked held starts linked distinct

/-- A link leads back to a block above it or to a member up to the one that is linked. -/
theorem linksBack_eq_false_iff {seat : Seat} {id target : BlockId} {before : List BlockId}
    (kept : w.chainPrefix seat id = before ++ [id]) :
    w.linksBack seat id target = false ↔ target ∉ w.ancestors id ∧ target ∉ before ++ [id] := by
  unfold linksBack
  rw [kept]
  simp only [Bool.or_eq_false_iff, beq_eq_false_iff_ne, List.contains_eq_mem,
    decide_eq_false_iff_not, List.mem_append, List.mem_singleton]
  tauto

/-- Cutting a chain behind a member cuts its link and sends the members behind it to the top level. -/
theorem raised_cutAfter (h : Laid w members floating) {seat : Seat} {head id : BlockId}
    {before after : List BlockId} (held : w.content? seat = some (.chain head))
    (split : members seat = before ++ id :: after) :
    ∃ w₁, Relinked w w₁ id none ∧ Raised w₁ (w.cutAfter seat id) after := by
  have linked := h.linked seat
  have distinct := h.nodup seat
  rw [split] at linked distinct
  obtain ⟨-, tail, apart⟩ := List.nodup_append.1 distinct
  obtain ⟨idAfter, tailDistinct⟩ := List.nodup_cons.1 tail
  have successor : w.next? id = after.head? := by simpa using (Linked.append_iff.1 linked).2.1
  have hid : id ∈ members seat := by simp [split]
  unfold cutAfter
  rw [chainPrefix_eq h held split, successor]
  cases after with
  | nil =>
      refine ⟨w, ⟨.refl w, rfl, rfl, rfl, ?_⟩, raised_foldl_toTop w List.nodup_nil⟩
      rw [← List.head?_nil, ← successor, Function.update_eq_self]
  | cons next after =>
      dsimp only [List.head?_cons]
      have cut := relinked_modify (h.contains_of_mem hid) none
      generalize (w.modify id fun block => { block with next := none }) = w₁ at cut ⊢
      have walk : (w₁.walkChain next).members = next :: after := by
        have links := (Linked.append_iff.1 linked).2.2
        rw [walkChain_of_linked _ tailDistinct]
        rw [cut.nexts, Linked.update_of_notMem idAfter]
        exact links
      have sent : (next :: after).takeWhile (fun member => !(before ++ [id]).contains member) =
          next :: after := by
        apply List.takeWhile_eq_self_iff.2
        intro other ho
        have behind : other ∉ before :=
          fun hb => apart other hb other (List.mem_cons_of_mem id ho) rfl
        have ne := ne_of_mem_of_not_mem ho idAfter
        simp [behind, ne]
      rw [walk, sent]
      exact ⟨w₁, cut, raised_foldl_toTop w₁ tailDistinct⟩

/-- What cutting a chain comes to. -/
structure Shortened (w w' : Workspace) (members : Seat → List BlockId) (floating : List BlockId)
    (seat : Seat) (kept cut : List BlockId) : Prop where
  laid : Laid w' (Function.update members seat kept) floating
  typed : Typed w → Typed w'
  blocks : SameBlocks w w'
  roots : w'.roots = w.roots ++ cut
  seats : ∀ id, w'.seat? id = if id ∈ cut then none else w.seat? id

/-- Cutting a chain behind a member leaves the members up to it, and the others come to the end of
the top level. -/
theorem shortened_cutAfter (h : Laid w members floating) {seat : Seat} {head id : BlockId}
    {before after : List BlockId} (held : w.content? seat = some (.chain head))
    (split : members seat = before ++ id :: after) :
    Shortened w (w.cutAfter seat id) members floating seat (before ++ [id]) after := by
  have linked := h.linked seat
  have distinct := h.nodup seat
  have holds := h.holds seat
  rw [split] at linked distinct
  rw [held, split] at holds
  obtain ⟨w₁, cut, raised⟩ := raised_cutAfter h held split
  refine ⟨?_, fun t => ?_, cut.blocks.trans raised.blocks, ?_, fun other => ?_⟩
  · refine laid_raised h (by simp [split]) cut.blocks cut.roots cut.seats
      (fun other _ => by rw [cut.contents]) (fun other ho => ?_) ?_ ?_ raised
    · rw [cut.nexts, Function.update_of_ne]
      rintro rfl
      simp [split] at ho
    · rw [cut.nexts]
      exact linked.update_last distinct
    · rw [cut.contents, held]
      cases before with
      | nil => cases holds; exact .chain _ _
      | cons first before => cases holds; exact .chain _ _
  · exact typed_raised t cut.blocks cut.seats (fun _ _ held => cut.contents ▸ held) raised
  · rw [← cut.roots]
    refine raised.roots_append fun other ho => ?_
    rw [cut.roots]
    exact h.notMem_roots (show other ∈ members seat by simp [split, ho])
  · rw [raised.seats, cut.seats]

end Workspace

end SolanaBlocks
