import SolanaBlocks.Proofs.Forest.Forest

/-!
# Taking a link back

The last member of a chain may be linked back, to a member of its chain or to a block above it, and
ending the chain there again cuts the link. What the link led to is cut off with it unless it belongs
to the chain itself: a block above the chain is sent to the top level, from where it is as little as
from anywhere else. So everything is as it was exactly if the link led into the chain or to a root.
-/

namespace SolanaBlocks

namespace Workspace

variable {palette : Palette} {w : Workspace} {seat : Seat} {id target : BlockId}

/-! ## Changes of successor that are carried out -/

/-- A slot for a chain passes the check that chains are only changed in such slots. -/
theorem exists_chain_slot (chain : w.arity? seat = some .chain) :
    ∃ type, w.requireType seat.owner = .ok type ∧
      ((type.slot? seat.slot).all fun slot => slot.arity != .chain) = false := by
  obtain ⟨declaration, declared, arity⟩ := Option.map_eq_some_iff.1 chain
  obtain ⟨type, known, declared⟩ := Option.bind_eq_some_iff.1 declared
  refine ⟨type, requireType_eq_ok_iff.2 known, ?_⟩
  rw [declared, Option.all_some, arity]
  rfl

/-- A chain may be ended after any of its members. -/
theorem setNext_none (sits : w.seat? id = some seat) (chain : w.arity? seat = some .chain) :
    w.setNext id none = .ok (bump (w.cutAfter seat id)) := by
  obtain ⟨type, known, inChain⟩ := exists_chain_slot chain
  unfold setNext
  simp only [sits, known, Bind.bind, Except.bind, inChain, Bool.false_eq_true, if_false]
  rfl

/-- A statement that a member of a chain may lead back to becomes its successor as it stands. -/
theorem setNext_back {type : BlockType} (sits : w.seat? id = some seat)
    (chain : w.arity? seat = some .chain) (known : w.typeAt? target = some type)
    (statement : type.producesValue = false) (back : w.linksBack seat id target = true) :
    w.setNext id (some target) =
      .ok (bump (w.modify id fun block => { block with next := some target })) := by
  obtain ⟨ownerType, owner, inChain⟩ := exists_chain_slot chain
  unfold setNext
  simp only [sits, owner, requireType_eq_ok_iff.2 known, Bind.bind, Except.bind, inChain, statement,
    back, Bool.false_eq_true, if_false, if_true]
  rfl

/-! ## Blocks that are at the top level already -/

/-- A root without a successor stays as it is when it is sent to the top level. -/
theorem toTop_root (root : id ∈ w.roots) (free : w.seat? id = none) (last : w.next? id = none) :
    (w.toTop id).blocks = w.blocks ∧ (w.toTop id).roots = w.roots := by
  have same : w.toTop id = w.modify id fun block => { block with next := none, seat := none } :=
    if_pos (by simpa [isRoot] using root)
  rw [same]
  refine ⟨Std.ExtTreeMap.ext_getElem? fun other => ?_, rfl⟩
  change (w.modify id fun block => { block with next := none, seat := none }).get? other =
    w.get? other
  rw [get?_modify]
  split
  · next here =>
      subst here
      unfold seat? at free
      unfold next? at last
      cases found : w.get? id with
      | none => rfl
      | some block =>
          rw [found, Option.bind_some] at free last
          obtain ⟨_, _, _, _, _⟩ := block
          cases free
          cases last
          rfl
  · rfl

/-! ## Linking back and ending the chain -/

/-- Cutting the link of a block that had none before leaves the blocks as they were before it got
one. -/
theorem blocks_relink (last : w.next? id = none) :
    ((w.modify id fun block => { block with next := some target }).modify id
      fun block => { block with next := none }).blocks = w.blocks := by
  refine Std.ExtTreeMap.ext_getElem? fun other => ?_
  change ((w.modify id fun block => { block with next := some target }).modify id
    fun block => { block with next := none }).get? other = w.get? other
  rw [get?_modify, get?_modify]
  split
  · next here =>
      subst here
      unfold next? at last
      cases found : w.get? id with
      | none => rfl
      | some block =>
          rw [found, Option.bind_some] at last
          obtain ⟨_, _, _, _, _⟩ := block
          cases last
          rfl
  · rfl

/-- In a chain that has been linked back after its last member, the members up to that one are still
all it had. -/
theorem chainPrefix_linked {members : Seat → List BlockId} {floating : List BlockId}
    {before : List BlockId} {head : BlockId} (h : Laid w members floating)
    (list : members seat = before ++ [id]) (held : w.content? seat = some (.chain head))
    {w₁ : Workspace} (r : Relinked w w₁ id (some target)) :
    w₁.chainPrefix seat id = before ++ [id] := by
  have linked := h.linked seat
  have distinct := h.nodup seat
  have holds := h.holds seat
  rw [held] at holds
  have starts := holds.head?_eq
  rw [list] at linked distinct starts
  have bent : Linked w₁.next? (before ++ [id]) (some target) := by
    rw [r.nexts]
    exact linked.update_last distinct
  exact chainPrefix_of_linked ((congrFun r.contents seat).trans held) starts bent distinct

/-- Sending a walk to the top level up to the first block that is to stay changes nothing exactly if
the walk starts with such a block or with a root. -/
theorem Laid.raise_walk_iff {members : Seat → List BlockId} {floating : List BlockId}
    (h : Laid w members floating) (target : BlockId) (kept : List BlockId) :
    let raised := ((w.walkChain target).members.takeWhile fun member => !kept.contains member).foldl
      toTop w
    (raised.blocks = w.blocks ∧ raised.roots = w.roots) ↔ target ∈ kept ∨ target ∈ w.roots := by
  dsimp only
  by_cases stays : target ∈ kept
  · have start : Linked w.next? [target] (w.next? target) := by simp [Linked.cons_iff]
    obtain ⟨more, walk⟩ := members_walkChain_of_linked start (List.nodup_singleton target)
    rw [walk, List.singleton_append, List.takeWhile_cons_of_neg (by simp [stays])]
    simp [stays]
  have goes : (!kept.contains target) = true := by simpa using stays
  by_cases root : target ∈ w.roots
  · have free := ((h.mem_roots target).1 root).2.1
    have last := h.next?_eq_none target free
    have alone : Linked w.next? [target] none := by simp [Linked.cons_iff, last]
    have walk : (w.walkChain target).members = [target] := by
      rw [walkChain_of_linked alone (List.nodup_singleton target)]
    have sent : [target].takeWhile (fun member => !kept.contains member) = [target] := by
      simp [stays]
    rw [walk, sent]
    exact ⟨fun _ => .inr root, fun _ => toTop_root root free last⟩
  · have distinct := (w.nodup_walkChain target).sublist
      (List.takeWhile_sublist fun member => !kept.contains member)
    have sent := head_mem_takeWhile_walkFrom (w := w) (p := fun member => !kept.contains member)
      List.not_mem_nil goes
    refine ⟨fun ⟨_, same⟩ => ?_, fun known => absurd known (not_or.2 ⟨stays, root⟩)⟩
    have arrived := (raised_foldl_toTop w distinct).mem_roots sent
    exact .inr (same ▸ arrived)

/-- Linking the last member of a chain back and ending the chain there again restores all blocks,
with their places and links, and the top level, exactly if the link led into the chain or to a root.
A block above the chain that has a place of its own is sent to the top level. -/
theorem setNext_back_none (run : Reached palette w) {head : BlockId} {before : List BlockId}
    {type : BlockType} (held : w.content? seat = some (.chain head))
    (chain : (w.walkChain head).members = before ++ [id]) (known : w.typeAt? target = some type)
    (statement : type.producesValue = false)
    (back : target ∈ before ++ [id] ∨ target ∈ w.ancestors id) :
    ∃ w₁ w₂, w.setNext id (some target) = .ok w₁ ∧ w₁.setNext id none = .ok w₂ ∧
      ((w₂.blocks = w.blocks ∧ w₂.roots = w.roots) ↔
        target ∈ before ++ [id] ∨ target ∈ w.roots) := by
  obtain ⟨-, typed, members, laid⟩ := run.orderly
  have list : members seat = before ++ [id] := (laid.contentMembers held).symm.trans chain
  have sits : w.seat? id = some seat := (laid.mem_members seat id).1 (by simp [list])
  have arity : w.arity? seat = some .chain := typed.declared seat _ held
  have last : w.next? id = none := by
    have linked := laid.linked seat
    rw [list] at linked
    simpa using (Linked.append_iff.1 linked).2.1
  have kept : w.chainPrefix seat id = before ++ [id] := chainPrefix_eq laid held list
  have linksBack : w.linksBack seat id target = true := by
    simp only [Workspace.linksBack, kept, Bool.or_eq_true, List.contains_eq_mem, decide_eq_true_eq]
    tauto
  have forward := setNext_back sits arity known statement linksBack
  have link := (relinked_modify (contains_of_seat? sits) (some target)).bump
  have cut : ((bump (w.modify id fun block => { block with next := some target })).modify id
      fun block => { block with next := none }).blocks = w.blocks := blocks_relink last
  generalize bump (w.modify id fun block => { block with next := some target }) = w₁
    at forward link cut
  have backward := setNext_none ((congrFun link.seats id).trans sits)
    ((link.blocks.arity? seat).trans arity)
  refine ⟨w₁, _, forward, backward, ?_⟩
  have kept' := chainPrefix_linked laid list held link
  have step : w₁.next? id = some target := by rw [link.nexts, Function.update_self]
  have roots : (w₁.modify id fun block => { block with next := none }).roots = w.roots := link.roots
  unfold cutAfter
  rw [kept', step]
  have raised := (laid.congr cut roots).raise_walk_iff target (before ++ [id])
  rw [cut, roots] at raised
  exact raised

/-- A loop at the end of a chain is linked back to the loop in front of it and let go again. -/
theorem setNext_back_none_loops :
    let place : List Edit := [
      .create (some ⟨"o"⟩) "process_instruction" [],
      .create (some ⟨"a"⟩) "controls_while" [],
      .create (some ⟨"b"⟩) "controls_while" [],
      .bind ⟨"o"⟩ "body" (.chain [⟨"a"⟩, ⟨"b"⟩])]
    let w : Workspace := place.foldl (fun w edit => (w.apply edit).1) { palette := .standard }
    Reached .standard w ∧ w.content? ⟨⟨"o"⟩, "body"⟩ = some (.chain ⟨"a"⟩) ∧
      (w.walkChain ⟨"a"⟩).members = [⟨"a"⟩] ++ [⟨"b"⟩] ∧
      (w.typeAt? ⟨"a"⟩).map BlockType.producesValue = some false ∧
      ∃ w₁ w₂, w.setNext ⟨"b"⟩ (some ⟨"a"⟩) = .ok w₁ ∧ w₁.setNext ⟨"b"⟩ none = .ok w₂ ∧
        w₂.blocks = w.blocks ∧ w₂.roots = w.roots := by
  intro place w
  have run : Reached .standard w := by
    refine .edit _ (.edit _ (.edit _ (.edit _ .empty ?_) ?_) ?_) ?_ <;> exact id
  have held : w.content? ⟨⟨"o"⟩, "body"⟩ = some (.chain ⟨"a"⟩) := by decide +kernel
  have chain : (w.walkChain ⟨"a"⟩).members = [⟨"a"⟩] ++ [⟨"b"⟩] := by decide +kernel
  have typed : (w.typeAt? ⟨"a"⟩).map BlockType.producesValue = some false := by decide +kernel
  obtain ⟨type, known, statement⟩ := Option.map_eq_some_iff.1 typed
  obtain ⟨w₁, w₂, forward, backward, restored⟩ :=
    setNext_back_none run held chain known statement (.inl (by decide))
  exact ⟨run, held, chain, typed, w₁, w₂, forward, backward, restored.2 (.inl (by decide))⟩

/-- A loop inside a loop is linked back to the outer one. When its chain is ended again, the outer
loop comes to the top level, though its slot still names it. -/
theorem not_restored_of_outer_loop :
    let place : List Edit := [
      .create (some ⟨"o"⟩) "process_instruction" [],
      .create (some ⟨"l"⟩) "controls_while" [],
      .create (some ⟨"a"⟩) "controls_while" [],
      .bind ⟨"o"⟩ "body" (.chain [⟨"l"⟩]),
      .bind ⟨"l"⟩ "do" (.chain [⟨"a"⟩])]
    let w : Workspace := place.foldl (fun w edit => (w.apply edit).1) { palette := .standard }
    let linked := w.apply (.setNext ⟨"a"⟩ (some ⟨"l"⟩))
    let ended := linked.1.apply (.setNext ⟨"a"⟩ none)
    Reached .standard w ∧ w.content? ⟨⟨"l"⟩, "do"⟩ = some (.chain ⟨"a"⟩) ∧
      (w.walkChain ⟨"a"⟩).members = [⟨"a"⟩] ∧ ⟨"l"⟩ ∈ w.ancestors ⟨"a"⟩ ∧
      (w.typeAt? ⟨"l"⟩).map BlockType.producesValue = some false ∧
      linked.2.isOk = true ∧ ended.2.isOk = true ∧
      w.roots = [⟨"o"⟩] ∧ w.seat? ⟨"l"⟩ = some ⟨⟨"o"⟩, "body"⟩ ∧
      ended.1.roots = [⟨"o"⟩, ⟨"l"⟩] ∧ ended.1.seat? ⟨"l"⟩ = none ∧
      ended.1.slot? ⟨"o"⟩ "body" = some (.chain ⟨"l"⟩) := by
  intro place w linked ended
  have run : Reached .standard w := by
    refine .edit _ (.edit _ (.edit _ (.edit _ (.edit _ .empty ?_) ?_) ?_) ?_) ?_ <;> exact id
  exact ⟨run, by decide +kernel⟩

end Workspace

end SolanaBlocks
