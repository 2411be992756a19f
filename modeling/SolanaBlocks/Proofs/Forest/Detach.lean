import SolanaBlocks.Proofs.Forest.Kinds
import SolanaBlocks.Proofs.Forest.Layout

/-!
# Leaving a place

A block is taken out of its place and floats, and its chain closes over the gap. `Leaves` lists the
ways in which this may happen, whatever the chain looks like: what holds of every workspace is read
off from there, and `Detached` adds what becomes of a chain whose members are linked in order.
-/

namespace SolanaBlocks

namespace Workspace

variable {w : Workspace} {members : Seat → List BlockId} {floating : List BlockId}

/-- A slot for a chain that has members names the first of them. -/
theorem Laid.content?_of_chain (h : Laid w members floating) (t : Typed w) {seat : Seat}
    (chain : w.arity? seat = some .chain) {id : BlockId} (hid : id ∈ members seat) :
    w.content? seat = some (.chain (members seat).headI) := by
  obtain ⟨content, held⟩ := h.content?_of_mem hid
  have arity := t.declared seat content held
  rw [chain, Option.some.injEq] at arity
  have holds := h.holds seat
  rw [held] at holds
  exact held.trans (congrArg some (holds.eq_chain arity.symm))

/-! ## Detaching -/

/-- What cutting the links of a block itself does to the tables, before its neighbours follow. -/
structure Unlinked (w w' : Workspace) (id : BlockId) : Prop where
  blocks : SameBlocks w w'
  roots : w'.roots = w.roots
  seats : w'.seat? = Function.update w.seat? id none
  nexts : w'.next? = Function.update w.next? id none
  contents : w'.content? = w.content?

theorem unlinked_modify {id : BlockId} (alive : w.contains id = true) :
    Unlinked w (w.modify id fun block => { block with next := none, seat := none }) id where
  blocks := sameBlocks_modify w id _ (fun _ => by rfl) (fun _ => by rfl)
  roots := rfl
  seats := seat?_modify_seat w id alive _ none fun _ => by rfl
  nexts := next?_modify_next w id alive _ none fun _ => by rfl
  contents := content?_modify_of_eq w id _ fun _ => by rfl

/-- The ways to leave a place. A root leaves the top level, and a block without a place stays. A
seated block is unlinked first; then its slot is emptied or left to its successor, or the member in
front of it is linked to the successor, or nothing follows if the block is not found in its chain. -/
inductive Leaves (w : Workspace) (id : BlockId) : Workspace → Prop
  | root : id ∈ w.roots → Leaves w id { w with roots := w.roots.erase id }
  | nowhere : w.seat? id = none → Leaves w id w
  | lost {w₁ : Workspace} : Unlinked w w₁ id → Leaves w id w₁
  | emptied {w₁ w₂ : Workspace} {seat : Seat} {content : SlotContent} : Unlinked w w₁ id →
    w.content? seat = some content → content.named = id → Refilled w₁ w₂ seat none → Leaves w id w₂
  | headed {w₁ w₂ : Workspace} {seat : Seat} {next : BlockId} : Unlinked w w₁ id →
    w.content? seat = some (.chain id) → w.next? id = some next →
    Refilled w₁ w₂ seat (some (.chain next)) → Leaves w id w₂
  | bridged {w₁ w₂ : Workspace} {previous : BlockId} : Unlinked w w₁ id →
    w₁.next? previous = some id → Relinked w₁ w₂ previous (w.next? id) → Leaves w id w₂

theorem leaves_detach (w : Workspace) (id : BlockId) : Leaves w id (w.detach id) := by
  unfold detach
  split
  · next root => exact .root (by simpa [isRoot] using root)
  split
  · next free => exact .nowhere free
  · next seat sits =>
      have u := unlinked_modify (contains_of_seat? sits)
      dsimp only
      generalize w.modify id (fun block => { block with next := none, seat := none }) = w₁ at u ⊢
      have slot : w₁.slot? seat.owner seat.slot = w.content? seat := congrFun u.contents seat
      rw [slot]
      cases held : w.content? seat with
      | none => exact .lost u
      | some content =>
          have owner := (u.blocks.contains _).trans (contains_of_content? held)
          cases content with
          | single child =>
              dsimp only
              split
              · next first => exact .emptied u held first (refilled_erase w₁ seat)
              · exact .lost u
          | chain head =>
              dsimp only
              split
              · next first =>
                  subst first
                  cases link : w.next? head with
                  | none => exact .emptied u held rfl (refilled_erase w₁ seat)
                  | some next => exact .headed u held link (refilled_insert owner (.chain next))
              · split
                · exact .lost u
                · next previous found =>
                    have leads : w₁.next? previous = some id := by
                      simpa using List.find?_some found
                    exact .bridged u leads (relinked_modify (contains_of_next? leads) (w.next? id))

theorem sameBlocks_detach (w : Workspace) (id : BlockId) : SameBlocks w (w.detach id) := by
  have left := leaves_detach w id
  generalize w.detach id = w' at left ⊢
  cases left with
  | root => exact ⟨rfl, fun _ => rfl, fun _ => rfl⟩
  | nowhere => exact .refl w
  | lost u => exact u.blocks
  | emptied u _ _ r => exact u.blocks.trans r.blocks
  | headed u _ _ r => exact u.blocks.trans r.blocks
  | bridged u _ r => exact u.blocks.trans r.blocks

theorem roots_detach_sublist (w : Workspace) (id : BlockId) :
    (w.detach id).roots.Sublist w.roots := by
  have left := leaves_detach w id
  generalize w.detach id = w' at left ⊢
  cases left with
  | root => exact List.erase_sublist
  | nowhere => exact .refl _
  | lost u => rw [u.roots]
  | emptied u _ _ r => rw [r.roots, u.roots]
  | headed u _ _ r => rw [r.roots, u.roots]
  | bridged u _ r => rw [r.roots, u.roots]

/-- A detached block hands what it leads to, and nothing else, to whatever led to it. -/
structure HandsOn (w w' : Workspace) (id : BlockId) : Prop where
  nexts : ∀ a b, w'.next? a = some b →
    w.next? a = some b ∨ w.next? a = some id ∧ w.next? id = some b
  contents : ∀ seat content, w'.content? seat = some content →
    w.content? seat = some content ∨ w.content? seat = some (.chain id) ∧
      ∃ next, w.next? id = some next ∧ content = .chain next

theorem handsOn_detach (w : Workspace) (id : BlockId) : HandsOn w (w.detach id) id := by
  have fewer {w₁ : Workspace} (u : Unlinked w w₁ id) (a b : BlockId) (link : w₁.next? a = some b) :
      w.next? a = some b := by
    rw [u.nexts, Function.update_apply] at link
    split at link
    · cases link
    · exact link
  have left := leaves_detach w id
  generalize w.detach id = w' at left ⊢
  cases left with
  | root => exact ⟨fun _ _ link => .inl link, fun _ _ held => .inl held⟩
  | nowhere => exact ⟨fun _ _ link => .inl link, fun _ _ held => .inl held⟩
  | lost u => exact ⟨fun a b link => .inl (fewer u a b link), fun _ _ held => .inl (u.contents ▸ held)⟩
  | emptied u _ _ r =>
      refine ⟨fun a b link => .inl (fewer u a b (r.nexts ▸ link)), fun other content held => ?_⟩
      rw [r.contents, Function.update_apply, u.contents] at held
      split at held
      · cases held
      · exact .inl held
  | @headed _ _ seat next u first link r =>
      refine ⟨fun a b link => .inl (fewer u a b (r.nexts ▸ link)), fun other content held => ?_⟩
      rw [r.contents, Function.update_apply, u.contents] at held
      split at held
      · next same =>
          cases held
          exact .inr ⟨same ▸ first, next, link, rfl⟩
      · exact .inl held
  | @bridged _ _ previous u leads r =>
      refine ⟨fun a b link => ?_, fun _ _ held => .inl (u.contents ▸ r.contents ▸ held)⟩
      rw [r.nexts, Function.update_apply] at link
      split at link
      · next same => exact .inr ⟨same ▸ fewer u previous id leads, link⟩
      · exact .inl (fewer u a b link)

/-- A list without one of its elements, which occurs once. -/
theorem filter_ne_split {before after : List BlockId} {id : BlockId}
    (distinct : (before ++ id :: after).Nodup) :
    (before ++ id :: after).filter (· ≠ id) = before ++ after := by
  obtain ⟨_, tail, apart⟩ := List.nodup_append.1 distinct
  have hb : ∀ other ∈ before, other ≠ id := fun other ho => apart other ho id List.mem_cons_self
  have ha : ∀ other ∈ after, other ≠ id :=
    fun other ho => ne_of_mem_of_not_mem ho (List.nodup_cons.1 tail).1
  rw [List.filter_append, List.filter_cons_of_neg (by simp),
    List.filter_eq_self.2 (by simpa using hb), List.filter_eq_self.2 (by simpa using ha)]

/-- What detaching does to the tables around a seated block. `list` holds the members of its seat,
and `stop` is what the last of them leads to; if that is the block itself, the slot is left to it. -/
structure Detached (w w' : Workspace) (seat : Seat) (list : List BlockId) (stop : Option BlockId)
    (id : BlockId) : Prop where
  roots : w'.roots = w.roots
  seats : w'.seat? = Function.update w.seat? id none
  elsewhere : ∀ other, other ≠ seat → w'.content? other = w.content? other
  nexts : ∀ other, other ∉ list → w'.next? other = w.next? other
  next : w'.next? id = none
  linked : Linked w'.next? (list.filter (· ≠ id)) stop
  opens : Opens (w'.content? seat) (list.filter (· ≠ id))
  holds : stop = none → Holds (w'.content? seat) (list.filter (· ≠ id))

namespace Unlinked

variable {w₁ w₂ : Workspace} {id : BlockId} {seat : Seat} {before after : List BlockId}
  {stop : Option BlockId}

/-- Once the block is unlinked, it is left to close the gap: the part in front of it has to lead to
the part behind it, and the slot to hold both. -/
theorem detached (u : Unlinked w w₁ id) (linked : Linked w.next? (before ++ id :: after) stop)
    (distinct : (before ++ id :: after).Nodup) (roots : w₂.roots = w₁.roots)
    (seats : w₂.seat? = w₁.seat?)
    (elsewhere : ∀ other, other ≠ seat → w₂.content? other = w₁.content? other)
    (nexts : ∀ other, other ∉ before → w₂.next? other = w₁.next? other)
    (front : Linked w₂.next? before (after.head?.or stop))
    (opens : Opens (w₂.content? seat) (before ++ after))
    (holds : stop = none → Holds (w₂.content? seat) (before ++ after)) :
    Detached w w₂ seat (before ++ id :: after) stop id := by
  obtain ⟨_, tail, apart⟩ := List.nodup_append.1 distinct
  have idBefore : id ∉ before := fun h => apart id h id List.mem_cons_self rfl
  have idAfter : id ∉ after := (List.nodup_cons.1 tail).1
  have rest := filter_ne_split distinct
  refine ⟨roots.trans u.roots, seats.trans u.seats, fun other ho => ?_, fun other ho => ?_, ?_,
    ?_, rest ▸ opens, rest ▸ holds⟩
  · rw [elsewhere other ho, u.contents]
  · rw [List.mem_append, List.mem_cons, not_or, not_or] at ho
    rw [nexts other ho.1, u.nexts, Function.update_of_ne ho.2.1]
  · rw [nexts id idBefore, u.nexts, Function.update_self]
  · rw [rest, Linked.append_iff]
    refine ⟨front, (Linked.congr fun other ho => ?_).2 (Linked.append_iff.1 linked).2.2⟩
    have behind : other ∉ before :=
      fun hb => apart other hb other (List.mem_cons_of_mem id ho) rfl
    rw [nexts other behind, u.nexts, Function.update_of_ne (ne_of_mem_of_not_mem ho idAfter)]

/-- The last member of a slot leaves it empty. -/
theorem detached_last (u : Unlinked w w₁ id) (linked : Linked w.next? [id] stop)
    (r : Refilled w₁ w₂ seat none) : Detached w w₂ seat [id] stop id := by
  have empty : w₂.content? seat = none := by rw [r.contents, Function.update_self]
  refine u.detached linked (by simp) r.roots r.seats (fun other ho => ?_)
    (fun other _ => by rw [r.nexts]) Linked.nil (.holds (empty ▸ .empty)) fun _ => empty ▸ .empty
  rw [r.contents, Function.update_of_ne ho]

/-- The last member of a chain leaves the slot to what it leads to. -/
theorem detached_only {next : BlockId} (u : Unlinked w w₁ id)
    (linked : Linked w.next? [id] (some next))
    (r : Refilled w₁ w₂ seat (some (.chain next))) : Detached w w₂ seat [id] (some next) id := by
  have after : w₂.content? seat = some (.chain next) := by rw [r.contents, Function.update_self]
  refine u.detached linked (by simp) r.roots r.seats (fun other ho => ?_)
    (fun other _ => by rw [r.nexts]) Linked.nil (after ▸ .lost next) fun none => by cases none
  rw [r.contents, Function.update_of_ne ho]

/-- The first member of a chain leaves the slot to its successor. -/
theorem detached_first {next : BlockId} (u : Unlinked w w₁ id)
    (linked : Linked w.next? (id :: next :: after) stop) (distinct : (id :: next :: after).Nodup)
    (r : Refilled w₁ w₂ seat (some (.chain next))) :
    Detached w w₂ seat (id :: next :: after) stop id := by
  have holds : Holds (w₂.content? seat) (next :: after) := by
    rw [r.contents, Function.update_self]
    exact .chain next after
  refine u.detached linked distinct r.roots r.seats (fun other ho => ?_)
    (fun other _ => by rw [r.nexts]) Linked.nil (.holds holds) fun _ => holds
  rw [r.contents, Function.update_of_ne ho]

/-- A member further down hands its successor to the member in front of it. -/
theorem detached_inner {previous head : BlockId} (u : Unlinked w w₁ id)
    (linked : Linked w.next? ((before ++ [previous]) ++ id :: after) stop)
    (distinct : ((before ++ [previous]) ++ id :: after).Nodup)
    (starts : (before ++ [previous]).head? = some head)
    (held : w.content? seat = some (.chain head))
    (r : Relinked w₁ w₂ previous (after.head?.or stop)) :
    Detached w w₂ seat ((before ++ [previous]) ++ id :: after) stop id := by
  obtain ⟨front, _, apart⟩ := List.nodup_append.1 distinct
  have holds : Holds (w₂.content? seat) ((before ++ [previous]) ++ after) := by
    rw [r.contents, u.contents, held]
    cases chain : before ++ [previous] with
    | nil => simp at chain
    | cons first rest =>
        rw [chain] at starts
        cases starts
        exact .chain head _
  refine u.detached linked distinct r.roots r.seats (fun other _ => by rw [r.contents])
    (fun other ho => ?_) ?_ (.holds holds) fun _ => holds
  · rw [r.nexts, Function.update_of_ne]
    rintro rfl
    simp at ho
  · have idFront : id ∉ before ++ [previous] := fun h => apart id h id List.mem_cons_self rfl
    have links := (Linked.append_iff.1 linked).1
    rw [← Linked.update_of_notMem idFront, ← u.nexts] at links
    rw [r.nexts]
    exact links.update_last front

end Unlinked

/-- The member of a chain in front of a given one, as a search from the head finds it once the link
of the given one has been cut. -/
theorem find?_predecessor {w₁ : Workspace} {before after : List BlockId} {id previous : BlockId}
    {stop : Option BlockId} (u : Unlinked w w₁ id)
    (linked : Linked w.next? ((before ++ [previous]) ++ id :: after) stop)
    (distinct : ((before ++ [previous]) ++ id :: after).Nodup) {head : BlockId}
    (starts : (before ++ [previous]).head? = some head) :
    (w₁.walkChain head).members.find? (fun member => w₁.next? member == some id) =
      some previous := by
  obtain ⟨front, _, apart⟩ := List.nodup_append.1 distinct
  have idFront : id ∉ before ++ [previous] := fun h => apart id h id List.mem_cons_self rfl
  have links : Linked w₁.next? ((before ++ [previous]) ++ [id]) none := by
    rw [u.nexts, Linked.append_iff, Linked.update_of_notMem idFront]
    exact ⟨(Linked.append_iff.1 linked).1, by simp [Linked.cons_iff]⟩
  have once : ((before ++ [previous]) ++ [id]).Nodup := by
    rw [List.nodup_append]
    exact ⟨front, by simp, fun other ho => by simpa using ne_of_mem_of_not_mem ho idFront⟩
  have walk : (w₁.walkChain head).members = (before ++ [previous]) ++ [id] := by
    cases chain : before ++ [previous] with
    | nil => simp at chain
    | cons first rest =>
        rw [chain] at starts links once
        cases starts
        rw [List.cons_append] at links once ⊢
        rw [walkChain_of_linked links once]
  have early : before.find? (fun member => w₁.next? member == some id) = none := by
    apply List.find?_eq_none.2
    intro other ho
    have apart := Linked.next_ne_of_notMem links idFront front (by simpa using ho)
    simpa using apart
  have here : w₁.next? previous = some id := by
    have := (Linked.append_iff.1 links).1
    simpa using (Linked.append_iff.1 this).2.1
  rw [walk, List.append_assoc, List.find?_append, early]
  simp [here]

/-- Detaching a member of a linked seat closes the gap there, whatever the last member leads to. -/
theorem detached_of_linked {id : BlockId} {seat : Seat} {list : List BlockId} {stop : Option BlockId}
    (sits : w.seat? id = some seat) (hid : id ∈ list) (notRoot : id ∉ w.roots)
    (linked : Linked w.next? list stop) (distinct : list.Nodup)
    (holds : Holds (w.content? seat) list) : Detached w (w.detach id) seat list stop id := by
  have u := unlinked_modify (contains_of_seat? sits)
  unfold detach
  rw [if_neg (by simpa [isRoot] using notRoot), sits]
  dsimp only
  generalize w.modify id (fun block => { block with next := none, seat := none }) = w₁ at u ⊢
  have slot : w₁.slot? seat.owner seat.slot = w.content? seat := congrFun u.contents seat
  have owner (content : SlotContent) (held : w.content? seat = some content) :
      w₁.contains seat.owner = true :=
    (u.blocks.contains _).trans (contains_of_content? held)
  rw [slot]
  generalize held : w.content? seat = content at holds owner
  cases holds with
  | empty => simp at hid
  | single child =>
      rw [List.mem_singleton] at hid
      subst hid
      dsimp only
      rw [if_pos rfl]
      exact u.detached_last linked (refilled_erase w₁ seat)
  | chain head rest =>
      dsimp only
      by_cases first : head = id
      · subst first
        rw [if_pos rfl]
        have successor : w.next? head = rest.head?.or stop := linked.1
        rw [successor]
        cases rest with
        | nil =>
            cases stop with
            | none => exact u.detached_last linked (refilled_erase w₁ seat)
            | some next => exact u.detached_only linked (refilled_insert (owner _ rfl) _)
        | cons next rest =>
            exact u.detached_first linked distinct (refilled_insert (owner _ rfl) _)
      · rw [if_neg first]
        obtain ⟨front, after, split⟩ := List.append_of_mem hid
        rcases List.eq_nil_or_concat front with rfl | ⟨before, previous, concat⟩
        · cases split
          exact absurd rfl first
        · rw [List.concat_eq_append] at concat
          subst concat
          have starts : (before ++ [previous]).head? = some head := by
            cases before <;> cases split <;> rfl
          rw [split] at linked distinct ⊢
          have successor : w.next? id = after.head?.or stop := (Linked.append_iff.1 linked).2.1
          have link := (Linked.append_iff.1 (Linked.append_iff.1 linked).1).2.1
          have alive : w.contains previous = true := contains_of_next? (by simpa using link)
          rw [find?_predecessor u linked distinct starts, successor]
          exact u.detached_inner linked distinct starts held
            (relinked_modify ((u.blocks.contains previous).trans alive) _)

theorem detached (h : Laid w members floating) {id : BlockId} {seat : Seat}
    (sits : w.seat? id = some seat) : Detached w (w.detach id) seat (members seat) none id := by
  have hid := (h.mem_members seat id).2 sits
  exact detached_of_linked sits hid (h.notMem_roots hid) (h.linked seat) (h.nodup seat) (h.holds seat)

theorem detach_root {id : BlockId} (root : id ∈ w.roots) :
    w.detach id = { w with roots := w.roots.erase id } :=
  if_pos (by simpa [isRoot] using root)

/-- A detached block has no seat, and no other block changes its own. -/
theorem seat?_detach (h : Laid w members floating) (id : BlockId) :
    (w.detach id).seat? = Function.update w.seat? id none := by
  have stays (free : w.seat? id = none) : w.seat? = Function.update w.seat? id none := by
    rw [← free, Function.update_eq_self]
  have left := leaves_detach w id
  generalize w.detach id = w' at left ⊢
  cases left with
  | root root => exact stays ((h.mem_roots id).1 root).2.1
  | nowhere free => exact stays free
  | lost u => exact u.seats
  | emptied u _ _ r => exact r.seats.trans u.seats
  | headed u _ _ r => exact r.seats.trans u.seats
  | bridged u _ r => exact r.seats.trans u.seats

/-- A detached block leaves the top level if it was there. -/
theorem roots_detach (h : Laid w members floating) (id : BlockId) :
    (w.detach id).roots = w.roots.filter (· ≠ id) := by
  by_cases root : id ∈ w.roots
  · rw [detach_root root]
    refine (h.roots_nodup.erase_eq_filter id).trans (List.filter_congr fun other _ => ?_)
    by_cases same : other = id <;> simp [same]
  · rw [List.filter_eq_self.2 fun other ho => by simpa using ne_of_mem_of_not_mem ho root]
    have left := leaves_detach w id
    generalize w.detach id = w' at left ⊢
    cases left with
    | root here => exact absurd here root
    | nowhere => rfl
    | lost u => exact u.roots
    | emptied u _ _ r => exact r.roots.trans u.roots
    | headed u _ _ r => exact r.roots.trans u.roots
    | bridged u _ r => exact r.roots.trans u.roots

/-- When a block is detached, only what led to it leads elsewhere. -/
theorem next?_detach (h : Laid w members floating) {id other : BlockId} (ne : other ≠ id) :
    (w.detach id).next? other = if w.next? other = some id then w.next? id else w.next? other := by
  cases sits : w.seat? id with
  | none =>
      have apart : w.next? other ≠ some id := by
        intro link
        obtain ⟨seat, -, sits'⟩ := h.seat?_of_next? link
        rw [sits] at sits'
        cases sits'
      have same : (w.detach id).next? other = w.next? other := by
        unfold detach
        rw [sits]
        split <;> rfl
      rw [same, if_neg apart]
  | some seat =>
      have d := detached h sits
      have hid := (h.mem_members seat id).2 sits
      by_cases ho : other ∈ members seat
      · have linked := h.linked seat
        have distinct := h.nodup seat
        have linked' := d.linked
        have stays : other ∈ (members seat).filter (· ≠ id) :=
          List.mem_filter.2 ⟨ho, decide_eq_true ne⟩
        obtain ⟨before, after, split⟩ := List.append_of_mem hid
        rw [split] at linked distinct linked' stays
        rw [filter_ne_split distinct] at linked' stays
        exact Linked.next_of_bridge linked linked' distinct stays
      · have apart : w.next? other ≠ some id := by
          intro link
          obtain ⟨seat', sits', same⟩ := h.seat?_of_next? link
          rw [sits] at same
          cases same
          exact ho ((h.mem_members seat other).2 sits')
        rw [d.nexts other ho, if_neg apart]

/-- A slot that still holds something holds something of the same kind. -/
theorem arity_detach (w : Workspace) (id : BlockId) {seat : Seat} {content' : SlotContent}
    (held : (w.detach id).content? seat = some content') :
    ∃ content, w.content? seat = some content ∧ content.arity = content'.arity := by
  rcases (handsOn_detach w id).contents seat content' held with same | ⟨before, next, -, rfl⟩
  · exact ⟨content', same, rfl⟩
  · exact ⟨.chain id, before, rfl⟩

theorem typed_detach (h : Laid w members floating) (t : Typed w) (id : BlockId) :
    Typed (w.detach id) := by
  refine t.of_move (sameBlocks_detach w id) (fun seat content' held => .inl (arity_detach w id held))
    fun other seat sits => ?_
  rw [seat?_detach h, Function.update_apply] at sits
  split at sits
  · cases sits
  · exact .inl sits

/-- Without a block that has no seat all members are as they were. -/
theorem filter_ne_of_free (listed : ∀ seat id, id ∈ members seat ↔ w.seat? id = some seat)
    {id : BlockId} (free : w.seat? id = none) (seat : Seat) :
    (members seat).filter (· ≠ id) = members seat := by
  refine List.filter_eq_self.2 fun other ho => decide_eq_true ?_
  rintro rfl
  rw [listed, free] at ho
  cases ho

/-- Without a block that has one, the members of that seat alone are others. -/
theorem filter_ne_eq_update (listed : ∀ seat id, id ∈ members seat ↔ w.seat? id = some seat)
    {id : BlockId} {seat : Seat} (sits : w.seat? id = some seat) (other : Seat) :
    (members other).filter (· ≠ id) =
      Function.update members seat ((members seat).filter (· ≠ id)) other := by
  by_cases ho : other = seat
  · rw [ho, Function.update_self]
  · rw [Function.update_of_ne ho]
    refine List.filter_eq_self.2 fun member hm => decide_eq_true ?_
    rintro rfl
    rw [listed, sits] at hm
    exact ho (Option.some.inj hm).symm

theorem filter_notMem_cons (list : List BlockId) (id : BlockId) (ids : List BlockId) :
    list.filter (· ∉ id :: ids) = (list.filter (· ≠ id)).filter (· ∉ ids) := by
  rw [List.filter_filter]
  congr 1
  funext other
  by_cases same : other = id <;> simp [same]

/-- A seat whose member is detached keeps the others. -/
theorem Detached.rearranged {w' : Workspace} {seat : Seat} {stop : Option BlockId} {id : BlockId}
    (d : Detached w w' seat (members seat) stop id)
    (listed : ∀ seat id, id ∈ members seat ↔ w.seat? id = some seat) (hid : id ∈ members seat) :
    Rearranged w w' members seat ((members seat).filter (· ≠ id)) := by
  have seats (other : BlockId) (ho : other ≠ id) : w'.seat? other = w.seat? other := by
    rw [d.seats, Function.update_of_ne ho]
  refine ⟨d.elsewhere, fun other hs _ => ?_, fun other ho => ?_, fun other hs ho => ?_,
    fun other ho => .inl (List.mem_filter.1 ho).1⟩
  · exact ⟨seats other (ne_of_mem_of_not_mem hid hs).symm, d.nexts other hs⟩
  · obtain ⟨hs, ne⟩ := List.mem_filter.1 ho
    rw [seats other (by simpa using ne)]
    exact (listed seat other).1 hs
  · have same : other = id := by
      by_contra ne
      exact ho (List.mem_filter.2 ⟨hs, decide_eq_true ne⟩)
    subst same
    exact ⟨by rw [d.seats, Function.update_self], d.next⟩

/-- A detached block floats, and its seat keeps the other members. -/
theorem laid_detach (h : Laid w members floating) {id : BlockId} (alive : w.contains id = true)
    (new : id ∉ floating) :
    Laid (w.detach id) (fun seat => (members seat).filter (· ≠ id)) (id :: floating) := by
  cases sits : w.seat? id with
  | none =>
      have root : id ∈ w.roots := (h.mem_roots id).2 ⟨alive, sits, new⟩
      rw [detach_root root]
      refine Laid.of_eq ?_ (filter_ne_of_free h.mem_members sits)
      refine ⟨h.roots_nodup.erase id, fun other => ?_, fun other ho => ?_, h.mem_members, h.nodup,
        h.linked, h.next?_eq_none, h.holds, fun other ho => ?_⟩
      · change other ∈ w.roots.erase id ↔
          w.contains other = true ∧ w.seat? other = none ∧ other ∉ id :: floating
        rw [h.roots_nodup.mem_erase_iff, h.mem_roots, List.mem_cons]
        tauto
      · rcases List.mem_cons.1 ho with rfl | ho
        · exact ⟨alive, sits⟩
        · exact h.floats other ho
      · exact (h.rooted other ho).of_fewer_seats (fun _ => by rfl) fun _ => .inr (by rfl)
  | some seat =>
      have d := detached h sits
      have hid := (h.mem_members seat id).2 sits
      have blocks := sameBlocks_detach w id
      have seats (other : BlockId) (ho : other ≠ id) :
          (w.detach id).seat? other = w.seat? other := by
        rw [d.seats, Function.update_of_ne ho]
      refine Laid.of_eq ?_ (filter_ne_eq_update h.mem_members sits)
      refine h.rearrange (d.rearranged h.mem_members hid) (id :: floating) blocks.contains
        ((h.nodup seat).filter _) d.linked (d.holds rfl) (d.roots ▸ h.roots_nodup) (fun other => ?_)
        (fun other ho => ?_) fun other ho => ?_
      · rw [d.roots, blocks.contains, h.mem_roots, List.mem_cons]
        by_cases same : other = id
        · subst same
          simp [sits]
        · rw [seats other same]
          tauto
      · rw [blocks.contains]
        rcases List.mem_cons.1 ho with rfl | ho
        · exact ⟨alive, by rw [d.seats, Function.update_self]⟩
        · rw [seats other (ne_of_mem_of_not_mem ho new)]
          exact h.floats other ho
      · refine (h.rooted other ho).of_fewer_seats blocks.contains fun other => ?_
        by_cases same : other = id
        · exact .inl (by rw [same, d.seats, Function.update_self])
        · exact .inr (seats other same)

/-- What detaching blocks one after the other comes to. -/
structure AllDetached (w w' : Workspace) (members : Seat → List BlockId) (floating ids : List BlockId) :
    Prop where
  laid : Laid w' (fun seat => (members seat).filter (· ∉ ids)) (ids.reverse ++ floating)
  typed : Typed w → Typed w'
  blocks : SameBlocks w w'
  roots : w'.roots = w.roots.filter (· ∉ ids)
  seats : ∀ id, w'.seat? id = if id ∈ ids then none else w.seat? id

theorem allDetached (h : Laid w members floating) {ids : List BlockId}
    (alive : ∀ id ∈ ids, w.contains id = true) (new : ∀ id ∈ ids, id ∉ floating)
    (distinct : ids.Nodup) : AllDetached w (ids.foldl detach w) members floating ids := by
  induction ids generalizing w members floating with
  | nil => exact ⟨by simpa using h, id, .refl w, by simp, by simp⟩
  | cons id ids ih =>
      obtain ⟨once, distinct⟩ := List.nodup_cons.1 distinct
      obtain ⟨here, later⟩ := List.forall_mem_cons.1 alive
      obtain ⟨free, new⟩ := List.forall_mem_cons.1 new
      have blocks := sameBlocks_detach w id
      have rest := ih (laid_detach h here free) (fun other ho => ?_) (fun other ho => ?_) distinct
      · rw [List.foldl_cons]
        refine ⟨?_, fun t => rest.typed (typed_detach h t id), blocks.trans rest.blocks, ?_,
          fun other => ?_⟩
        · rw [List.reverse_cons, List.append_assoc, List.singleton_append]
          exact rest.laid.of_eq fun seat => filter_notMem_cons (members seat) id ids
        · rw [rest.roots, roots_detach h, filter_notMem_cons]
        · rw [rest.seats, seat?_detach h, Function.update_apply]
          by_cases same : other = id <;> by_cases ho : other ∈ ids <;> simp [same, ho]
      · rw [blocks.contains]
        exact later other ho
      · rw [List.mem_cons, not_or]
        exact ⟨ne_of_mem_of_not_mem ho once, new other ho⟩

end Workspace

end SolanaBlocks
