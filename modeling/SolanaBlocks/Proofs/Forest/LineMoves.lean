import SolanaBlocks.Proofs.Forest.Lines

/-!
# Moves between lines

Every move of a block leaves the blocks of all seats in lines. Sending a walk to the top level is the
one that may shorten several at once: where a link leads out of a chain, the walk goes on in another
one, and takes the last blocks of its line along.
-/

namespace SolanaBlocks

namespace Workspace

variable {w w' : Workspace} {lines : Seat → List BlockId} {floating : List BlockId}

/-! ## The top level -/

/-- Whatever a slot held is a root once the slot is emptied. -/
theorem mem_roots_release (w : Workspace) (seat : Seat) {id : BlockId}
    (hid : id ∈ (w.release seat.owner seat.slot).2) :
    id ∈ (w.release seat.owner seat.slot).1.roots := by
  unfold release at hid ⊢
  split
  · next none => simp [none] at hid
  · next content held =>
      rw [held] at hid
      exact (raised_foldl_toTop _ (nodup_contentMembers _ content)).mem_roots hid

theorem roots_linkChain (w : Workspace) (list : List BlockId) :
    (w.linkChain list).roots = w.roots := by
  induction list generalizing w with
  | nil => rfl
  | cons a list ih =>
      cases list with
      | nil => rfl
      | cons b rest => exact ih _

/-- Filling a slot moves nothing to or from the top level. -/
theorem roots_seatMembers (w : Workspace) (seat : Seat) (input : SlotInput) :
    (w.seatMembers seat.owner seat.slot input).roots = w.roots := by
  have placed (w : Workspace) (list : List BlockId) :
      (list.foldl (fun w child => w.modify child fun block => { block with seat := some seat })
        w).roots = w.roots := by
    induction list generalizing w with
    | nil => rfl
    | cons id list ih => exact ih _
  match input with
  | .single child => exact placed w [child]
  | .chain [] => rfl
  | .chain (head :: rest) => exact (placed _ _).trans (roots_linkChain w _)

/-- Once the link of a member has been cut, whatever stood behind it lies on the way from what it led
to, in front of the first member that is kept. -/
theorem mem_way_of_behind {id target : BlockId} {before after : List BlockId} {stop : Option BlockId}
    (linked : Linked w.next? (before ++ id :: after) stop) (distinct : (before ++ id :: after).Nodup)
    (link : w.next? id = some target) (cut : Relinked w w' id none) :
    ∀ other ∈ after, other ∈ (w'.walkChain target).members.takeWhile fun member =>
      !(before ++ [id]).contains member := by
  obtain ⟨-, back, apart⟩ := List.nodup_append.1 distinct
  obtain ⟨idAfter, later⟩ := List.nodup_cons.1 back
  have rest := (Linked.append_iff.1 linked).2
  cases after with
  | nil => simp
  | cons next after =>
      cases link.symm.trans rest.1
      have links : Linked w'.next? (target :: after) stop := by
        rw [cut.nexts, Linked.update_of_notMem idAfter]
        exact rest.2
      refine mem_takeWhile_walkChain links later fun other ho => ?_
      have behind : other ∉ before := fun hb => apart other hb other (List.mem_cons_of_mem id ho) rfl
      simp [behind, ne_of_mem_of_not_mem ho idAfter]

/-- Cutting a link brings no other one. -/
theorem Relinked.next_of_cut {id a b : BlockId} (cut : Relinked w w' id none)
    (link : w'.next? a = some b) : w.next? a = some b :=
  eq_some_of_update_none (cut.nexts ▸ link)

/-- What lives on the way from what a link led to before it was cut is a statement. -/
theorem Matched.isStatement_of_cut (h : Matched w) {id target other : BlockId}
    (cut : Relinked w w' id none) (link : w.next? id = some target)
    (met : other ∈ (w'.walkChain target).members) (alive : w.contains other = true) :
    w.IsStatement other := by
  have matched : Matched w' := h.of_fewer cut.blocks (fun _ _ => cut.next_of_cut)
    (fun _ _ held => cut.contents ▸ held) fun _ _ sits => cut.seats ▸ sits
  rw [← cut.blocks.isStatement_iff]
  refine matched.isStatement_of_mem_walk (fun first => ?_) met (by rwa [cut.blocks.contains])
  rw [cut.blocks.contains] at first
  exact cut.blocks.isStatement_iff.2 ((h.link id target link).2 first)

namespace Lined

/-! ## Detaching -/

/-- A detached block floats, and its seat keeps the other members. -/
theorem detach (h : Lined w lines floating) {id : BlockId} (alive : w.contains id = true)
    (new : id ∉ floating) :
    Lined (w.detach id) (fun seat => (lines seat).filter (· ≠ id)) (id :: floating) := by
  have matched := h.matched.detach id
  cases sits : w.seat? id with
  | none =>
      have root : id ∈ w.roots := (h.mem_roots id alive).2 ⟨sits, new⟩
      rw [detach_root root] at matched ⊢
      refine of_eq ?_ (filter_ne_of_free h.mem_lines sits)
      refine ⟨matched, h.roots_nodup.erase id, fun other present => ?_, fun other ho => ?_,
        h.mem_lines, h.nodup, h.linked, h.next?_eq_none, h.opens⟩
      · change other ∈ w.roots.erase id ↔ w.seat? other = none ∧ other ∉ id :: floating
        rw [h.roots_nodup.mem_erase_iff, h.mem_roots other present, List.mem_cons]
        tauto
      · rcases List.mem_cons.1 ho with rfl | ho
        · exact ⟨alive, sits⟩
        · exact h.floats other ho
  | some seat =>
      have hid := (h.mem_lines seat id).2 sits
      obtain ⟨stop, linked⟩ := h.linked seat
      have d := detached_of_linked sits hid (h.notMem_roots hid) linked (h.nodup seat)
        ((h.opens seat).of_mem hid)
      have blocks := sameBlocks_detach w id
      have seats (other : BlockId) (ho : other ≠ id) :
          (w.detach id).seat? other = w.seat? other := by
        rw [d.seats, Function.update_of_ne ho]
      refine of_eq ?_ (filter_ne_eq_update h.mem_lines sits)
      refine h.rearrange (d.rearranged h.mem_lines hid) matched (id :: floating)
        ((h.nodup seat).filter _) ⟨stop, d.linked⟩ d.opens (d.roots ▸ h.roots_nodup)
        (fun other present => ?_) fun other ho => ?_
      · rw [blocks.contains] at present
        rw [d.roots, h.mem_roots other present, List.mem_cons]
        by_cases same : other = id
        · subst same
          simp [sits]
        · rw [seats other same]
          tauto
      · rw [blocks.contains]
        rcases List.mem_cons.1 ho with rfl | ho
        · exact ⟨alive, by rw [d.seats, Function.update_self]⟩
        · rw [seats other (ne_of_mem_of_not_mem ho new)]
          exact h.floats other ho

theorem foldl_detach (h : Lined w lines floating) {ids : List BlockId}
    (alive : ∀ id ∈ ids, w.contains id = true) (new : ∀ id ∈ ids, id ∉ floating)
    (distinct : ids.Nodup) :
    Lined (ids.foldl Workspace.detach w) (fun seat => (lines seat).filter (· ∉ ids))
      (ids.reverse ++ floating) := by
  induction ids generalizing w lines floating with
  | nil => simpa using h
  | cons id ids ih =>
      obtain ⟨once, distinct⟩ := List.nodup_cons.1 distinct
      obtain ⟨here, later⟩ := List.forall_mem_cons.1 alive
      obtain ⟨free, new⟩ := List.forall_mem_cons.1 new
      have rest := ih (h.detach here free) (fun other ho => ?_) (fun other ho => ?_) distinct
      · rw [List.reverse_cons, List.append_assoc, List.singleton_append]
        exact rest.of_eq fun seat => filter_notMem_cons (lines seat) id ids
      · rw [(sameBlocks_detach w id).contains]
        exact later other ho
      · rw [List.mem_cons, not_or]
        exact ⟨ne_of_mem_of_not_mem ho once, new other ho⟩

/-! ## Back to the top level -/

/-- Sending statements to the top level takes the last blocks of every line along in which each of
them takes the next one along. The line of one seat may be set to its end beforehand. -/
theorem raised (h : Lined w lines floating) {w₁ w₂ : Workspace} (seat : Seat) {sent : List BlockId}
    (blocks : SameBlocks w w₁) (roots : w₁.roots = w.roots) (seats : w₁.seat? = w.seat?)
    (contents : ∀ other content, w₁.content? other = some content → w.content? other = some content)
    (elsewhere : ∀ other, other ≠ seat → w₁.content? other = w.content? other)
    (nexts : ∀ a b, w₁.next? a = some b → w.next? a = some b)
    (untouched : ∀ id, id ∉ lines seat → w₁.next? id = w.next? id)
    (opened : Opens (w₁.content? seat) ((lines seat).filter (· ∉ sent)))
    (linked : ∃ stop, Linked w₁.next? ((lines seat).filter (· ∉ sent)) stop)
    (closed : ∀ other, other ≠ seat → ∀ a ∈ lines other, a ∈ sent → ∀ b ∈ lines other,
      w.next? a = some b → b ∈ sent)
    (statements : ∀ id ∈ sent, id ∉ lines seat → w.contains id = true → w.IsStatement id)
    (apart : ∀ id ∈ floating, id ∉ sent) (distinct : sent.Nodup) (raised : Raised w₁ w₂ sent) :
    Lined w₂ (fun other => (lines other).filter (· ∉ sent)) floating := by
  have same := blocks.trans raised.blocks
  have seats' (id : BlockId) : w₂.seat? id = if id ∈ sent then none else w.seat? id := by
    rw [raised.seats, seats]
  have matched : Matched w₁ :=
    h.matched.of_fewer blocks nexts contents fun id seat sits => seats ▸ sits
  refine ⟨matched.raised raised, ?_, fun id alive => ?_, fun id hid => ?_, fun other id => ?_,
    fun other => (h.nodup other).filter _, fun other => ?_, fun id free => ?_, fun other => ?_⟩
  · rw [raised.roots, roots, List.nodup_append]
    refine ⟨h.roots_nodup, distinct.filter _, fun id root other ho same => ?_⟩
    obtain ⟨-, new⟩ := List.mem_filter.1 ho
    simp [same ▸ root] at new
  · rw [same.contains] at alive
    have known := h.mem_roots id alive
    rw [raised.roots, roots, List.mem_append, List.mem_filter, decide_eq_true_eq, seats']
    by_cases hs : id ∈ sent
    · have seated : id ∉ floating := fun hf => apart id hf hs
      simp [hs, seated, em]
    · simp [hs, known]
  · obtain ⟨alive, free⟩ := h.floats id hid
    rw [same.contains, seats', if_neg (apart id hid)]
    exact ⟨alive, free⟩
  · rw [List.mem_filter, h.mem_lines, seats']
    by_cases hs : id ∈ sent <;> simp [hs]
  · by_cases ho : other = seat
    · subst ho
      obtain ⟨stop, linked⟩ := linked
      refine ⟨stop, (Linked.congr fun id hid => ?_).2 linked⟩
      rw [raised.nexts, if_neg (by simpa using (List.mem_filter.1 hid).2)]
    · refine h.linked_kept (closed other ho) fun id hid hs => ?_
      rw [raised.nexts, if_neg hs, untouched id fun here => ho (h.seat_unique hid here)]
  · rw [seats'] at free
    rw [raised.nexts]
    by_cases hs : id ∈ sent
    · rw [if_pos hs]
    · rw [if_neg hs] at free ⊢
      have last := h.next?_eq_none id free
      cases link : w₁.next? id with
      | none => rfl
      | some next =>
          rw [nexts id next link] at last
          cases last
  · rw [raised.contents]
    by_cases ho : other = seat
    · subst ho
      exact opened
    · rw [elsewhere other ho]
      refine h.opens_kept (closed other ho) fun child held hs => ?_
      have alone := h.mem_single held
      have statement := statements child hs (fun here => ho (h.seat_unique alone here))
        (h.contains_of_mem alone)
      exact h.notMem_of_single held statement alone

/-- The blocks of a seat are met on the way that begins with what its slot names. -/
theorem mem_contentMembers (h : Lined w lines floating) {seat : Seat} {content : SlotContent}
    (held : w.content? seat = some content) {id : BlockId} (hid : id ∈ lines seat) :
    id ∈ w.contentMembers content := by
  have holds := (h.opens seat).of_mem hid
  obtain ⟨stop, linked⟩ := h.linked seat
  have distinct := h.nodup seat
  rw [held] at holds
  generalize lines seat = list at holds linked distinct hid
  cases holds with
  | single child => exact hid
  | chain head rest =>
      obtain ⟨more, walk⟩ := members_walkChain_of_linked linked distinct
      rw [contentMembers, walk]
      exact List.mem_append_left more hid

/-- Emptying a slot. -/
structure Emptied (w w' : Workspace) (lines : Seat → List BlockId) (floating : List BlockId)
    (seat : Seat) (sent : List BlockId) : Prop where
  lined : Lined w' (fun other => (lines other).filter (· ∉ sent)) floating
  blocks : SameBlocks w w'
  content : w'.content? seat = none

theorem release (h : Lined w lines floating) (seat : Seat)
    (apart : ∀ id ∈ floating, id ∉ (w.release seat.owner seat.slot).2) :
    Emptied w (w.release seat.owner seat.slot).1 lines floating seat
      (w.release seat.owner seat.slot).2 := by
  have slot : w.slot? seat.owner seat.slot = w.content? seat := rfl
  unfold Workspace.release at apart ⊢
  rw [slot] at apart ⊢
  cases held : w.content? seat with
  | none => exact ⟨h.of_eq fun other => by simp, .refl w, held⟩
  | some content =>
      rw [held] at apart
      dsimp only at apart ⊢
      have erased := refilled_erase w seat
      generalize (w.modify seat.owner fun block =>
        { block with slots := block.slots.erase seat.slot }) = w₁ at erased apart ⊢
      rw [contentMembers_congr erased.nexts] at apart ⊢
      have distinct := w.nodup_contentMembers content
      have raised := raised_foldl_toTop w₁ distinct
      have empty : (lines seat).filter (· ∉ w.contentMembers content) = [] :=
        List.filter_eq_nil_iff.2 fun id hid => by simpa using h.mem_contentMembers held hid
      refine ⟨?_, erased.blocks.trans raised.blocks, ?_⟩
      · refine h.raised seat erased.blocks erased.roots erased.seats (fun other content held => ?_)
          (fun other ho => ?_) (fun a b link => erased.nexts ▸ link) (fun id _ => by rw [erased.nexts])
          ?_ ⟨none, ?_⟩ ?_ ?_ apart distinct raised
        · exact eq_some_of_update_none (erased.contents ▸ held)
        · rw [erased.contents, Function.update_of_ne ho]
        · rw [empty, erased.contents, Function.update_self]
          exact .holds .empty
        · rw [empty]
          exact Linked.nil
        · intro other ho a ha sent b hb link
          cases content with
          | single child =>
              have here := h.mem_single held
              rw [← List.mem_singleton.1 sent] at here
              exact absurd (h.seat_unique ha here) ho
          | chain head => exact (next_mem_walkFrom link sent).resolve_left List.not_mem_nil
        · intro id sent away alive
          cases content with
          | single child =>
              have here := h.mem_single held
              rw [← List.mem_singleton.1 sent] at here
              exact absurd here away
          | chain head =>
              exact h.matched.isStatement_of_mem_walk (h.matched.head seat head held) sent alive
      · rw [raised.contents, erased.contents, Function.update_self]

/-- Ending a chain after one of its members. -/
theorem cutAfter (h : Lined w lines []) {seat : Seat} {id : BlockId}
    (chain : w.arity? seat = some .chain) (sits : w.seat? id = some seat) :
    SameBlocks w (w.cutAfter seat id) ∧ ∃ lines', Lined (w.cutAfter seat id) lines' [] := by
  have hid := (h.mem_lines seat id).2 sits
  obtain ⟨before, after, split⟩ := List.append_of_mem hid
  obtain ⟨stop, linked⟩ := h.linked seat
  have distinct := h.nodup seat
  rw [split] at linked distinct
  unfold Workspace.cutAfter
  rw [h.chainPrefix_eq chain split]
  cases link : w.next? id with
  | none => exact ⟨.refl w, lines, h⟩
  | some target =>
      dsimp only
      have cut := relinked_modify (contains_of_seat? sits) none
      generalize (w.modify id fun block => { block with next := none }) = w₁ at cut ⊢
      have tail := mem_way_of_behind linked distinct link cut
      generalize list : (w₁.walkChain target).members.takeWhile
        (fun member => !(before ++ [id]).contains member) = sent at tail ⊢
      have away (other : BlockId) (ho : other ≠ id) : w₁.next? other = w.next? other := by
        rw [cut.nexts, Function.update_of_ne ho]
      have once : sent.Nodup := by
        rw [← list]
        exact (w₁.nodup_walkChain target).sublist (List.takeWhile_sublist _)
      have kept : ∀ other ∈ before ++ [id], other ∉ sent := by
        intro other ho hs
        rw [← list] at hs
        have := List.mem_takeWhile_imp hs
        simp [ho] at this
      have ends : (lines seat).filter (· ∉ sent) = before ++ [id] := by
        rw [split, List.append_cons, List.filter_append, List.filter_eq_self.2 (by simpa using kept),
          List.filter_eq_nil_iff.2 (by simpa using tail), List.append_nil]
      have raised := raised_foldl_toTop w₁ once
      refine ⟨cut.blocks.trans raised.blocks, _, h.raised seat cut.blocks cut.roots cut.seats
        (fun other content held => cut.contents ▸ held) (fun other _ => by rw [cut.contents])
        (fun _ _ => cut.next_of_cut) (fun other ho => away other (ne_of_mem_of_not_mem hid ho).symm)
        ?_ ⟨none, ?_⟩ ?_ ?_ (by simp) once raised⟩
      · obtain ⟨head, held, -⟩ := h.content?_of_chain chain hid
        have opens := h.opens seat
        rw [split, List.append_cons] at opens
        rw [ends, cut.contents]
        refine opens.left fun child single => ?_
        rw [held] at single
        cases single
      · rw [ends, cut.nexts]
        exact linked.update_last distinct
      · intro other ho a ha hs b hb link
        have ne : a ≠ id := fun same => ho (h.seat_unique ha (same ▸ hid))
        have free : (!(before ++ [id]).contains b) = true := by
          have outside : b ∉ lines seat := fun here => ho (h.seat_unique hb here)
          rw [split, List.append_cons, List.mem_append, not_or] at outside
          simpa using outside.1
        rw [← list] at hs ⊢
        exact (next_mem_takeWhile_walkFrom _ ((away a ne).trans link) free hs).resolve_left
          List.not_mem_nil
      · intro other hs _ present
        have met : other ∈ (w₁.walkChain target).members :=
          (List.takeWhile_sublist _).subset (list ▸ hs)
        exact h.matched.isStatement_of_cut cut link met present

/-! ## Filling a slot -/

/-- Floating blocks that fill an empty slot are its line. -/
theorem filled (h : Lined w lines floating) {seat : Seat} {input : SlotInput}
    (f : Filled w w' seat input) (matched : Matched w') (empty : lines seat = [])
    (distinct : input.members.Nodup) (free : ∀ id ∈ input.members, id ∈ floating)
    (all : ∀ id ∈ floating, id ∈ input.members) :
    Lined w' (Function.update lines seat input.members) [] := by
  refine h.rearrange (f.rearranged empty fun id hid => (h.floats id (free id hid)).2) matched []
    distinct ⟨none, f.linked⟩ ?_ (f.roots ▸ h.roots_nodup) (fun id alive => ?_) (by simp)
  · rw [f.contents, Function.update_self]
    exact .holds (holds_contentOf input)
  · rw [f.blocks.contains] at alive
    rw [f.roots, h.mem_roots id alive, f.seats]
    by_cases hid : id ∈ input.members
    · simp [hid, free id hid]
    · have seated : id ∉ floating := fun hf => hid (all id hf)
      simp [hid, seated]

/-- Binding keeps lines, as long as nothing that is bound comes to the top level by the way. -/
theorem bound (h : Lined w lines []) {seat : Seat} {input : SlotInput}
    (able : Bindable w seat input)
    (away : ∀ child ∈ input.members, child ∉ (w.bound seat input).roots) :
    ∃ lines', Lined (w.bound seat input) lines' [] := by
  obtain ⟨owner, alive⟩ := able.alive
  have taken := h.foldl_detach alive (fun _ _ => List.not_mem_nil) able.distinct
  have blocks := SameBlocks.foldl sameBlocks_detach w input.members
  have shown : (w.bound seat input).roots =
      ((input.members.foldl Workspace.detach w).release seat.owner seat.slot).1.roots :=
    roots_seatMembers _ seat input
  rw [shown] at away
  unfold Workspace.bound
  generalize input.members.foldl Workspace.detach w = w₁ at taken blocks away ⊢
  have apart (id : BlockId) (hid : id ∈ input.members.reverse ++ []) :
      id ∉ (w₁.release seat.owner seat.slot).2 := fun sent =>
    away id (by simpa using hid) (mem_roots_release w₁ seat sent)
  have emptied := taken.release seat apart
  generalize (w₁.release seat.owner seat.slot).2 = sent at emptied
  generalize (w₁.release seat.owner seat.slot).1 = w₂ at emptied ⊢
  have same := blocks.trans emptied.blocks
  have floats (id : BlockId) (hid : id ∈ input.members) : id ∈ input.members.reverse ++ [] := by
    simpa using hid
  have filled := filled_seatMembers input ((same.contains _).trans owner) emptied.content
    (fun id hid => (same.contains id).trans (alive id hid))
    (fun id hid => emptied.lined.next?_eq_none id (emptied.lined.floats id (floats id hid)).2)
    able.distinct
  have matched := emptied.lined.matched.filled filled (by rw [same.arity?, able.arity])
    fun id hid => same.fits_iff.2 (able.fits id hid)
  refine ⟨_, (emptied.lined.filled filled matched ?_ able.distinct floats (by simp)).bump⟩
  have opens := emptied.lined.opens seat
  rw [emptied.content] at opens
  exact opens.eq_nil

/-! ## New successors -/

/-- A floating block that is linked in behind a member of a line becomes the member after it. -/
theorem spliced {target id : BlockId} {seat : Seat} {before after : List BlockId}
    (h : Lined w lines [target]) (s : Spliced w w' seat id target) (matched : Matched w')
    (chain : w.arity? seat = some .chain) (split : lines seat = before ++ id :: after) :
    Lined w' (Function.update lines seat (before ++ id :: target :: after)) [] := by
  obtain ⟨stop, linked⟩ := h.linked seat
  have distinct := h.nodup seat
  have outside : target ∉ lines seat := h.notMem_of_floating List.mem_cons_self
  have free := (h.floats target List.mem_cons_self).2
  have opens := h.opens seat
  rw [split] at linked distinct outside opens
  refine h.rearrange (s.rearranged h.mem_lines split free) matched []
    (nodup_insert_behind distinct outside) ⟨stop, s.linked linked distinct outside⟩ ?_
    (s.roots ▸ h.roots_nodup) (fun other alive => ?_) (by simp)
  · rw [s.contents]
    refine opens.insert_behind fun child single => ?_
    have value := h.matched.typed.declared seat _ single
    rw [chain] at value
    cases value
  · rw [s.blocks.contains] at alive
    rw [s.roots, h.mem_roots other alive, s.seats, Function.update_apply]
    by_cases same : other = target <;> simp [same]

/-- Splicing puts a statement that is no member up to `id` behind `id`. -/
theorem spliceAfter {target id : BlockId} {seat : Seat} {before after : List BlockId}
    (h : Lined w lines []) (chain : w.arity? seat = some .chain)
    (split : lines seat = before ++ id :: after) (alive : w.contains target = true)
    (fits : w.Fits target seat) (other : target ≠ id) (ahead : target ∉ before) :
    SameBlocks w (w.spliceAfter seat id target) ∧
      ∃ lines', Lined (w.spliceAfter seat id target) lines' [] := by
  have sits := (h.mem_lines seat id).1 (by simp [split])
  have member := (h.matched.typed.fitting id seat sits).isStatement chain
  have detached := h.detach alive List.not_mem_nil
  have blocks := sameBlocks_detach w target
  have line := filter_ne_behind split other ahead
  unfold Workspace.spliceAfter
  generalize w.detach target = w₁ at detached blocks ⊢
  have spliced := spliced_modify (w := w₁) seat
    ((blocks.contains id).trans (contains_of_seat? sits)) ((blocks.contains target).trans alive)
  have chain' := (blocks.arity? seat).trans chain
  have matched := detached.matched.spliced spliced chain' (blocks.isStatement_iff.2 member)
    (blocks.fits_iff.2 fits)
  exact ⟨blocks.trans spliced.blocks, _, detached.spliced spliced matched chain' line⟩

/-- The last member of a line may be linked to any statement. -/
theorem link_last {target id : BlockId} {seat : Seat} {before : List BlockId}
    (h : Lined w lines []) (r : Relinked w w' id (some target)) (split : lines seat = before ++ [id])
    (member : w.IsStatement id) (statement : w.IsStatement target) : Lined w' lines [] := by
  have hid : id ∈ lines seat := by simp [split]
  have sits := (h.mem_lines seat id).1 hid
  refine ⟨h.matched.relinked r member statement, r.roots ▸ h.roots_nodup, fun other present => ?_,
    by simp, fun other id => ?_, h.nodup, fun other => ?_, fun other free => ?_, fun other => ?_⟩
  · rw [r.blocks.contains] at present
    rw [r.roots, r.seats]
    exact h.mem_roots other present
  · rw [r.seats]
    exact h.mem_lines other id
  · rw [r.nexts]
    by_cases same : other = seat
    · subst same
      have distinct := h.nodup other
      obtain ⟨stop, linked⟩ := h.linked other
      rw [split] at linked distinct ⊢
      exact ⟨some target, linked.update_last distinct⟩
    · obtain ⟨stop, linked⟩ := h.linked other
      exact ⟨stop, (Linked.update_of_notMem fun here => same (h.seat_unique here hid)).2 linked⟩
  · rw [r.seats] at free
    rw [r.nexts, Function.update_of_ne, h.next?_eq_none other free]
    rintro rfl
    rw [sits] at free
    cases free
  · rw [r.contents]
    exact h.opens other

end Lined

end Workspace

end SolanaBlocks
