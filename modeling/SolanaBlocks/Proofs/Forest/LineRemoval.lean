import SolanaBlocks.Proofs.Forest.LineMoves
import SolanaBlocks.Proofs.Forest.Removal

/-!
# Removals along lines

A block that goes takes along what a walk from its slots meets, and a chain that has been linked back
leads out of the block. So a removal may reach blocks that do not lie below the removed one; but from
any line it takes the last blocks only, and no block is left in a seat without its owner.
-/

namespace SolanaBlocks

/-- A property that goes on along the links holds of a whole list if it holds of the first element. -/
theorem Linked.forall_mem {α : Type} {next : α → Option α} {list : List α} {stop : Option α}
    (linked : Linked next list stop) (p : α → Prop) (first : ∀ a, list.head? = some a → p a)
    (step : ∀ a ∈ list, p a → ∀ b ∈ list, next a = some b → p b) : ∀ a ∈ list, p a := by
  induction list with
  | nil => simp
  | cons a list ih =>
      have here : p a := first a rfl
      refine List.forall_mem_cons.2 ⟨here, ih linked.2 (fun b starts => ?_) fun b hb hp c hc link => ?_⟩
      · have link : next a = some b := by rw [linked.1, starts]; rfl
        exact step a List.mem_cons_self here b
          (List.mem_cons_of_mem a (List.mem_of_mem_head? starts)) link
      · exact step b (List.mem_cons_of_mem a hb) hp c (List.mem_cons_of_mem a hc) link

namespace Workspace

variable {w w' : Workspace} {lines : Seat → List BlockId} {top : BlockId}
  {gone stack : List BlockId}

/-- The state of a removal that started from a floating block: `gone` has been removed, and the ids
on the stack are to follow. Apart from the block itself these are statements, or blocks in a seat
whose owner has gone. -/
structure Clearing (w : Workspace) (lines : Seat → List BlockId) (top : BlockId) (w' : Workspace)
    (gone stack : List BlockId) : Prop where
  without : Without w w' gone
  roots : w'.roots.Sublist w.roots
  roots_stay : ∀ id ∈ w.roots, w.contains id = true → id ∉ gone → id ∈ w'.roots
  source : ∀ id ∈ gone ++ stack, w.contains id = true →
    id = top ∨ w.IsStatement id ∨ ∃ seat, seat.owner ∈ gone ∧ id ∈ lines seat
  above : top ∈ gone ++ stack
  linked : ∀ a ∈ gone ++ stack, ∀ b, w.next? a = some b → w.contains b = true → b ∈ gone ++ stack
  complete : ∀ seat, seat.owner ∈ gone → ∀ id ∈ lines seat, id ∈ gone ++ stack

namespace Clearing

/-- What lives on the stack and is not there any more has been removed before. -/
theorem mem_gone (c : Clearing w lines top w' gone stack) {id : BlockId}
    (alive : w.contains id = true) (dead : w'.contains id = false) : id ∈ gone := by
  by_contra stays
  have present := (c.without.contains id).2 ⟨stays, alive⟩
  rw [dead] at present
  cases present

/-- A block that is still there has all its slots. -/
theorem content?_eq (c : Clearing w lines top w' gone stack) {seat : Seat}
    (alive : w'.contains seat.owner = true) : w'.content? seat = w.content? seat := by
  rw [c.without.content?, if_neg ((c.without.contains seat.owner).1 alive).1]

/-- A child of a block that is still there is a statement or sits in one of its slots. -/
theorem source_of_child (c : Clearing w lines top w' gone stack) (h : Lined w lines [top])
    {owner child : BlockId} (alive : w'.contains owner = true) (hc : child ∈ w'.children owner)
    (lives : w.contains child = true) :
    w.IsStatement child ∨ ∃ slot, child ∈ lines ⟨owner, slot⟩ := by
  obtain ⟨slot, content, held, hc⟩ := mem_children_iff.1 hc
  rw [c.content?_eq alive] at held
  cases content with
  | single other =>
      rw [List.mem_singleton.1 hc]
      exact .inr ⟨slot, h.mem_single held⟩
  | chain head =>
      left
      rcases eq_or_linked_of_mem_walkFrom hc with rfl | ⟨a, link⟩
      · exact h.matched.head _ _ held lives
      · rw [c.without.next?] at link
        split at link
        · cases link
        · exact (h.matched.link a child link).2 lives

/-- What a child leads to is a child as well, or has been or will be removed anyway. -/
theorem linked_child (c : Clearing w lines top w' gone stack) (h : Lined w lines [top])
    {owner a b : BlockId} (alive : w'.contains owner = true) (ha : a ∈ w'.children owner)
    (link : w.next? a = some b) (lives : w.contains b = true) :
    b ∈ w'.children owner ∨ b ∈ gone ++ stack := by
  obtain ⟨slot, content, held, ha⟩ := mem_children_iff.1 ha
  cases content with
  | single child =>
      rw [c.content?_eq alive] at held
      rw [List.mem_singleton.1 ha] at link
      exact absurd (h.mem_single held) (h.notMem_of_single held (h.matched.link child b link).1)
  | chain head =>
      by_cases went : a ∈ gone
      · exact .inr (c.linked a (List.mem_append_left stack went) b link lives)
      · have link' : w'.next? a = some b := by rw [c.without.next?, if_neg went, link]
        have met := (next_mem_walkFrom link' ha).resolve_left List.not_mem_nil
        exact .inl (mem_children_iff.2 ⟨slot, .chain head, held, met⟩)

/-- The first block in the line of a slot is a child. -/
theorem first_child (c : Clearing w lines top w' gone stack) (h : Lined w lines [top])
    {seat : Seat} {first : BlockId} (alive : w'.contains seat.owner = true)
    (starts : (lines seat).head? = some first) : first ∈ w'.children seat.owner := by
  have holds := (h.opens seat).of_mem (List.mem_of_mem_head? starts)
  have same := c.content?_eq alive
  generalize content : w.content? seat = held at holds same
  generalize lines seat = list at holds starts
  cases holds with
  | empty => cases starts
  | single child =>
      cases starts
      exact mem_children_iff.2 ⟨seat.slot, _, same, List.mem_singleton_self _⟩
  | chain head rest =>
      cases starts
      have met := head_mem_takeWhile_walkFrom (w := w') (p := fun _ => true)
        (List.not_mem_nil : first ∉ []) rfl
      exact mem_children_iff.2
        ⟨seat.slot, _, same, (List.takeWhile_sublist _).subset met⟩

/-- The topmost block of the stack goes, and its children come onto the stack. -/
theorem step (h : Lined w lines [top]) {id : BlockId} {dead rest children : List BlockId}
    (c : Clearing w lines top w' gone (dead ++ id :: rest)) (alive : w'.contains id = true)
    (passed : ∀ other ∈ dead, w'.contains other = false)
    (list : ∀ other, other ∈ children ↔ other ∈ w'.children id) :
    Clearing w lines top (w'.takeOut id dead) (id :: gone) (children ++ rest) := by
  have moved {other : BlockId} (lives : w.contains other = true)
      (ho : other ∈ gone ++ (dead ++ id :: rest)) : other ∈ (id :: gone) ++ (children ++ rest) := by
    simp only [List.mem_append, List.mem_cons] at ho ⊢
    rcases ho with hg | hd | same | hr
    · exact .inl (.inr hg)
    · exact .inl (.inr (c.mem_gone lives (passed other hd)))
    · exact .inl (.inl same)
    · exact .inr (.inr hr)
  have child {other : BlockId} (ho : other ∈ w'.children id) :
      other ∈ (id :: gone) ++ (children ++ rest) := by
    simp [(list other).2 ho]
  have cases' {other : BlockId} (ho : other ∈ (id :: gone) ++ (children ++ rest)) :
      other ∈ gone ++ (dead ++ id :: rest) ∨ other ∈ w'.children id := by
    rw [← list]
    simp only [List.mem_append, List.mem_cons] at ho ⊢
    tauto
  have linked (a : BlockId) (ha : a ∈ (id :: gone) ++ (children ++ rest)) (b : BlockId)
      (link : w.next? a = some b) (lives : w.contains b = true) :
      b ∈ (id :: gone) ++ (children ++ rest) := by
    rcases cases' ha with old | new
    · exact moved lives (c.linked a old b link lives)
    · rcases c.linked_child h alive new link lives with met | known
      · exact child met
      · exact moved lives known
  refine ⟨⟨c.without.palette, fun other => ?_⟩, List.filter_sublist.trans c.roots,
    fun root known lives stays => ?_, fun other ho lives => ?_, ?_, linked,
    fun seat owner other ho => ?_⟩
  · rw [get?_takeOut, c.without.get?]
    by_cases same : id = other <;> simp [same, eq_comm]
  · rw [List.mem_cons, not_or] at stays
    refine List.mem_filter.2 ⟨c.roots_stay root known lives stays.2, ?_⟩
    have present : root ∉ dead := fun hd => stays.2 (c.mem_gone lives (passed root hd))
    simp [stays.1, present]
  · rcases cases' ho with old | new
    · rcases c.source other old lives with same | statement | ⟨seat, owner, hs⟩
      · exact .inl same
      · exact .inr (.inl statement)
      · exact .inr (.inr ⟨seat, List.mem_cons_of_mem id owner, hs⟩)
    · rcases c.source_of_child h alive new lives with statement | ⟨slot, hs⟩
      · exact .inr (.inl statement)
      · exact .inr (.inr ⟨⟨id, slot⟩, List.mem_cons_self, hs⟩)
  · exact moved (h.floats top List.mem_cons_self).1 c.above
  · rcases List.mem_cons.1 owner with same | owner
    · obtain ⟨stop, line⟩ := h.linked seat
      refine line.forall_mem (· ∈ (id :: gone) ++ (children ++ rest)) (fun first starts => ?_)
        (fun a _ ha b hb link => linked a ha b link (h.contains_of_mem hb)) other ho
      have met := c.first_child h (by rw [same, alive]) starts
      rw [same] at met
      exact child met
    · exact moved (h.contains_of_mem ho) (c.complete seat owner other ho)

end Clearing

/-- What a removal leaves: everything but the removed blocks. What these lead to is among them, and
so are all blocks in their slots. -/
structure Cleared (w : Workspace) (lines : Seat → List BlockId) (top : BlockId) (w' : Workspace)
    (gone : List BlockId) : Prop where
  without : Without w w' gone
  roots : w'.roots.Sublist w.roots
  roots_stay : ∀ id ∈ w.roots, w.contains id = true → id ∉ gone → id ∈ w'.roots
  source : ∀ id ∈ gone, w.contains id = true →
    id = top ∨ w.IsStatement id ∨ ∃ seat, seat.owner ∈ gone ∧ id ∈ lines seat
  above : top ∈ gone
  linked : ∀ a ∈ gone, ∀ b, w.next? a = some b → w.contains b = true → b ∈ gone
  complete : ∀ seat, seat.owner ∈ gone → ∀ id ∈ lines seat, id ∈ gone

/-- Once no id on the stack belongs to a block any more, the removal is done. -/
theorem Clearing.done (c : Clearing w lines top w' gone stack) (h : Lined w lines [top])
    (dead : ∀ id ∈ stack, w'.contains id = false) :
    Cleared w lines top (w'.dropRoots stack) gone := by
  have moved {id : BlockId} (lives : w.contains id = true) (hid : id ∈ gone ++ stack) :
      id ∈ gone := by
    rcases List.mem_append.1 hid with hg | hs
    · exact hg
    · exact c.mem_gone lives (dead id hs)
  refine ⟨⟨c.without.palette, c.without.get?⟩, List.filter_sublist.trans c.roots,
    fun id root lives stays => ?_, fun id hid => c.source id (List.mem_append_left stack hid),
    moved (h.floats top List.mem_cons_self).1 c.above,
    fun a ha b link lives => moved lives (c.linked a (List.mem_append_left stack ha) b link lives),
    fun seat owner id hid => moved (h.contains_of_mem hid) (c.complete seat owner id hid)⟩
  refine List.mem_filter.2 ⟨c.roots_stay id root lives stays, ?_⟩
  have unlisted : id ∉ stack := fun hs => stays (c.mem_gone lives (dead id hs))
  simpa using unlisted

theorem cleared_removeAll (h : Lined w lines [top]) (c : Clearing w lines top w' gone stack) :
    ∃ gone', Cleared w lines top (w'.removeAll stack).1 gone' := by
  induction w', stack using removeAll_induction generalizing gone with
  | done w' stack dead removed =>
      rw [removed]
      exact ⟨gone, c.done h dead⟩
  | step w' dead id rest passed alive removed ih =>
      rw [removed]
      exact ih (c.step h alive passed fun _ => List.mem_reverse)

namespace Cleared

/-- A block that stays has an owner that stays. -/
theorem owner_stays (c : Cleared w lines top w' gone) (h : Lined w lines [top]) {seat : Seat}
    {id : BlockId} (stays : id ∉ gone) (sits : w.seat? id = some seat) : seat.owner ∉ gone :=
  fun owner => stays (c.complete seat owner id ((h.mem_lines seat id).2 sits))

theorem matched (c : Cleared w lines top w' gone) (h : Lined w lines [top]) : Matched w' := by
  have statement {id : BlockId} (stays : id ∉ gone) (known : w.IsStatement id) :
      w'.IsStatement id := by
    obtain ⟨type, typed, value⟩ := known
    exact ⟨type, by rw [c.without.typeAt?, if_neg stays, typed], value⟩
  refine ⟨c.without.typed h.matched.typed fun _ _ stays sits => c.owner_stays h stays sits,
    fun id next link => ?_, fun seat head held alive => ?_⟩
  · rw [c.without.next?] at link
    split at link
    · cases link
    · next stays =>
        obtain ⟨source, reached⟩ := h.matched.link id next link
        refine ⟨statement stays source, fun alive => ?_⟩
        obtain ⟨left, present⟩ := (c.without.contains next).1 alive
        exact statement left (reached present)
  · obtain ⟨left, present⟩ := (c.without.contains head).1 alive
    rw [c.without.content?] at held
    split at held
    · cases held
    · exact statement left (h.matched.head seat head held present)

/-- After a removal the blocks that stay are in line as before. -/
theorem lined (c : Cleared w lines top w' gone) (h : Lined w lines [top]) :
    Lined w' (fun seat => (lines seat).filter (· ∉ gone)) [] := by
  have seats := c.without.seat?
  have closed (seat : Seat) (a : BlockId) (_ : a ∈ lines seat) (went : a ∈ gone) (b : BlockId)
      (hb : b ∈ lines seat) (link : w.next? a = some b) : b ∈ gone :=
    c.linked a went b link (h.contains_of_mem hb)
  refine ⟨c.matched h, c.roots.nodup h.roots_nodup, fun id alive => ?_, by simp, fun seat id => ?_,
    fun seat => (h.nodup seat).filter _, fun seat => ?_, fun id free => ?_, fun seat => ?_⟩
  · obtain ⟨stays, present⟩ := (c.without.contains id).1 alive
    have other : id ≠ top := fun same => stays (same ▸ c.above)
    have known := h.mem_roots id present
    rw [seats, if_neg stays]
    simp only [List.mem_singleton, other, not_false_eq_true, and_true] at known
    simp only [List.not_mem_nil, not_false_eq_true, and_true, ← known]
    exact ⟨fun root => c.roots.subset root, fun root => c.roots_stay id root present stays⟩
  · rw [List.mem_filter, h.mem_lines, seats]
    by_cases went : id ∈ gone <;> simp [went]
  · exact h.linked_kept (closed seat) fun id _ stays => by rw [c.without.next?, if_neg stays]
  · rw [c.without.next?]
    split
    · rfl
    · next stays =>
        rw [seats, if_neg stays] at free
        exact h.next?_eq_none id free
  · rw [c.without.content?]
    split
    · next owner =>
        rw [List.filter_eq_nil_iff.2 (by simpa using c.complete seat owner)]
        exact .holds .empty
    · next owner =>
        refine h.opens_kept (closed seat) fun child held went => ?_
        have alone := h.mem_single held
        rcases c.source child went (h.contains_of_mem alone) with rfl | statement | ⟨other, gone, ho⟩
        · exact h.notMem_of_floating List.mem_cons_self alone
        · exact h.notMem_of_single held statement alone
        · exact owner (h.seat_unique alone ho ▸ gone)

end Cleared

end Workspace

end SolanaBlocks
