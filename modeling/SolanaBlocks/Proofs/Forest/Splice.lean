import SolanaBlocks.Proofs.Forest.Detach

/-!
# A new successor

A member of a chain gets a new successor: the block is taken out of its place and linked in behind
the member, in front of what followed it. The chain it comes from may be the very same one.
-/

namespace SolanaBlocks

namespace Workspace

variable {w w' : Workspace} {members : Seat → List BlockId} {seat : Seat} {id target : BlockId}
  {before after : List BlockId}

/-- What linking a floating block in behind another one does to the tables. -/
structure Spliced (w w' : Workspace) (seat : Seat) (id target : BlockId) : Prop where
  blocks : SameBlocks w w'
  roots : w'.roots = w.roots
  contents : w'.content? = w.content?
  seats : w'.seat? = Function.update w.seat? target (some seat)
  nexts : w'.next? =
    Function.update (Function.update w.next? id (some target)) target (w.next? id)

theorem spliced_modify (seat : Seat) (here : w.contains id = true)
    (there : w.contains target = true) :
    Spliced w
      ((w.modify id fun block => { block with next := some target }).modify target
        fun block => { block with next := w.next? id, seat := some seat })
      seat id target := by
  have link := relinked_modify here (some target)
  generalize (w.modify id fun block => { block with next := some target }) = w₁ at link ⊢
  have present := (link.blocks.contains target).trans there
  refine ⟨link.blocks.trans (sameBlocks_modify _ _ _ (fun _ => by rfl) (fun _ => by rfl)),
    link.roots, ?_, ?_, ?_⟩
  · rw [content?_modify_of_eq w₁ _ _ fun _ => by rfl, link.contents]
  · rw [seat?_modify_seat w₁ target present _ (some seat) fun _ => by rfl, link.seats]
  · rw [next?_modify_next w₁ target present _ (w.next? id) fun _ => by rfl, link.nexts]

/-- The links then run through the block that has been linked in. -/
theorem Spliced.linked (s : Spliced w w' seat id target) {stop : Option BlockId}
    (linked : Linked w.next? (before ++ id :: after) stop)
    (distinct : (before ++ id :: after).Nodup) (outside : target ∉ before ++ id :: after) :
    Linked w'.next? (before ++ id :: target :: after) stop := by
  obtain ⟨_, tail, apart⟩ := List.nodup_append.1 distinct
  have idAfter := (List.nodup_cons.1 tail).1
  have idBefore : id ∉ before := fun hb => apart id hb id List.mem_cons_self rfl
  simp only [List.mem_append, List.mem_cons, not_or] at outside
  obtain ⟨targetBefore, targetNe, targetAfter⟩ := outside
  rw [Linked.append_iff] at linked ⊢
  rw [s.nexts, Linked.update_of_notMem targetBefore, Linked.update_of_notMem idBefore]
  refine ⟨linked.1, ?_⟩
  rw [Linked.cons_iff, Linked.cons_iff, Linked.update_of_notMem targetAfter,
    Linked.update_of_notMem idAfter, Function.update_of_ne (Ne.symm targetNe), Function.update_self,
    Function.update_self]
  exact ⟨rfl, linked.2⟩

theorem nodup_insert_behind (distinct : (before ++ id :: after).Nodup)
    (outside : target ∉ before ++ id :: after) : (before ++ id :: target :: after).Nodup := by
  have moved : (before ++ id :: target :: after).Perm (target :: (before ++ id :: after)) := by
    rw [List.append_cons, List.append_cons before id after]
    exact List.perm_middle
  rw [moved.nodup_iff, List.nodup_cons]
  exact ⟨outside, distinct⟩

/-- The seat has the block that is linked in as a member more. -/
theorem Spliced.rearranged (s : Spliced w w' seat id target)
    (listed : ∀ seat id, id ∈ members seat ↔ w.seat? id = some seat)
    (split : members seat = before ++ id :: after) (free : w.seat? target = none) :
    Rearranged w w' members seat (before ++ id :: target :: after) := by
  have mem (other : BlockId) :
      other ∈ before ++ id :: target :: after ↔ other = target ∨ other ∈ members seat := by
    simp only [split, List.mem_append, List.mem_cons]
    tauto
  have seats (other : BlockId) (ne : other ≠ target) : w'.seat? other = w.seat? other := by
    rw [s.seats, Function.update_of_ne ne]
  refine ⟨fun other _ => by rw [s.contents], fun other hs hl => ?_, fun other hl => ?_,
    fun other hs hl => absurd ((mem other).2 (.inr hs)) hl, fun other hl => ?_⟩
  · rw [mem, not_or] at hl
    have ne : other ≠ id := by
      rintro rfl
      simp [split] at hs
    rw [seats other hl.1, s.nexts, Function.update_of_ne hl.1, Function.update_of_ne ne]
    exact ⟨rfl, rfl⟩
  · by_cases same : other = target
    · rw [same, s.seats, Function.update_self]
    · rw [seats other same]
      exact (listed seat other).1 (((mem other).1 hl).resolve_left same)
  · rcases (mem other).1 hl with rfl | hs
    · exact .inr free
    · exact .inl hs

/-- A floating block that is linked in behind a member of a chain becomes the member after it. -/
theorem laid_spliced (h : Laid w members [target]) (s : Spliced w w' seat id target)
    (split : members seat = before ++ id :: after)
    (held : w.content? seat = some (.chain ((before ++ [id]).headI)))
    (above : BlockId → Prop) (owner : above seat.owner)
    (up : ∀ id seat, above id → w.seat? id = some seat → above seat.owner) (low : ¬ above target) :
    Laid w' (Function.update members seat (before ++ id :: target :: after)) [] := by
  have linked := h.linked seat
  have distinct := h.nodup seat
  have outside : target ∉ members seat := h.notMem_of_floating List.mem_cons_self
  have free := (h.floats target List.mem_cons_self).2
  rw [split] at linked distinct outside
  refine h.rearrange (s.rearranged h.mem_members split free) [] s.blocks.contains
    (nodup_insert_behind distinct outside) (s.linked linked distinct outside) ?_
    (s.roots ▸ h.roots_nodup) (fun other => ?_) (by simp) fun other hid => ?_
  · rw [s.contents, held]
    cases before with
    | nil => exact .chain _ _
    | cons first before => exact .chain _ _
  · rw [s.roots, h.mem_roots, s.blocks.contains, s.seats, Function.update_apply]
    by_cases same : other = target <;> simp [same]
  · have apart : ∀ x ∈ [target], ¬ above x := by simpa using low
    refine Rooted.of_seating s.blocks.contains (fun x hx => ?_) (fun x hx => ?_) owner up apart
      (h.rooted _ (contains_of_content? held)) (h.rooted other hid)
    · rw [s.seats, Function.update_of_ne (by simpa using hx)]
    · rw [List.mem_singleton.1 hx, s.seats, Function.update_self]

/-- What is left of the chain when a member behind `id` has been taken out. -/
theorem filter_ne_behind (split : members seat = before ++ id :: after) (other : target ≠ id)
    (ahead : target ∉ before) :
    (members seat).filter (· ≠ target) = before ++ id :: after.filter (· ≠ target) := by
  have front : before.filter (· ≠ target) = before :=
    List.filter_eq_self.2 fun other ho => by simpa using ne_of_mem_of_not_mem ho ahead
  rw [split, List.filter_append, front, List.filter_cons_of_pos (by simpa using other.symm)]

/-- What linking a block in behind a member of a chain comes to, wherever the block was before. -/
structure Inserted (w w' : Workspace) (members : Seat → List BlockId) (seat : Seat)
    (target : BlockId) (list : List BlockId) : Prop where
  laid : Laid w' (Function.update (fun other => (members other).filter (· ≠ target)) seat list) []
  typed : Typed w'
  blocks : SameBlocks w w'
  roots : w'.roots = w.roots.filter (· ≠ target)
  seats : w'.seat? = Function.update w.seat? target (some seat)

/-- Splicing puts a statement that is neither a member up to `id` nor above it behind `id`. -/
theorem inserted_spliceAfter (h : Laid w members []) (t : Typed w)
    (chain : w.arity? seat = some .chain) (split : members seat = before ++ id :: after)
    (alive : w.contains target = true) (fits : w.Fits target seat)
    (low : target ∉ w.ancestors id) (ahead : target ∉ before ++ [id]) :
    Inserted w (w.spliceAfter seat id target) members seat target
      (before ++ id :: target :: after.filter (· ≠ target)) := by
  have hid : id ∈ members seat := by simp [split]
  have sits := (h.mem_members seat id).1 hid
  obtain ⟨front, other⟩ : target ∉ before ∧ target ≠ id := by simpa using ahead
  have detached := laid_detach h alive List.not_mem_nil
  have typed := typed_detach h t target
  have blocks := sameBlocks_detach w target
  have roots := roots_detach h target
  have seats := seat?_detach h target
  unfold spliceAfter
  generalize w.detach target = w₁ at detached typed blocks roots seats ⊢
  have list := filter_ne_behind split other front
  have spliced := spliced_modify (w := w₁) seat
    ((blocks.contains id).trans (contains_of_seat? sits)) ((blocks.contains target).trans alive)
  have there : id ∈ (members seat).filter (· ≠ target) := by
    rw [list]
    exact List.mem_append_cons_self
  have held : w₁.content? seat = some (.chain (before ++ [id]).headI) := by
    rw [detached.content?_of_chain typed ((blocks.arity? seat).trans chain) there, list]
    cases before <;> rfl
  refine ⟨laid_spliced detached spliced list held (· ∈ w.ancestors id) (owner_mem_ancestors sits)
    (fun other seat high sits' => ?_) low, ?_, blocks.trans spliced.blocks,
    spliced.roots.trans roots, ?_⟩
  · exact ancestors_closed high (eq_some_of_update_none (seats ▸ sits'))
  · refine typed.of_move spliced.blocks (fun other content held => ?_) fun other seat' sits' => ?_
    · rw [spliced.contents] at held
      exact .inl ⟨content, held, rfl⟩
    · rw [spliced.seats, Function.update_apply] at sits'
      split at sits'
      · next same =>
          cases sits'
          exact .inr (same ▸ blocks.fits_iff.2 fits)
      · exact .inl sits'
  · rw [spliced.seats, seats, Function.update_idem]

/-- What a successful change of successor comes to. -/
theorem setNext_cases {next : Option BlockId} (ok : w.setNext id next = .ok w') :
    ∃ seat, w.seat? id = some seat ∧ w.arity? seat = some .chain ∧
      match next with
      | none => w' = bump (w.cutAfter seat id)
      | some target =>
        (∃ type, w.typeAt? target = some type ∧ type.producesValue = false) ∧
          w' = bump (if w.linksBack seat id target then
            w.modify id fun block => { block with next := some target }
          else w.spliceAfter seat id target) := by
  unfold setNext at ok
  cases sits : w.seat? id with
  | none => simp [sits, throw, throwThe, MonadExceptOf.throw] at ok
  | some seat =>
      refine ⟨seat, rfl, ?_⟩
      simp only [sits, Bind.bind, Except.bind] at ok
      cases owner : w.requireType seat.owner with
      | error e => simp [owner] at ok
      | ok type =>
          simp only [owner] at ok
          split at ok
          · simp [throw, throwThe, MonadExceptOf.throw] at ok
          · next inChain =>
              have chain : w.arity? seat = some .chain := by
                rw [arity?, requireType_eq_ok_iff.1 owner, Option.bind_some]
                cases declared : type.slot? seat.slot with
                | none => simp [declared] at inChain
                | some declaration => simpa [declared] using inChain
              refine ⟨chain, ?_⟩
              cases next with
              | none => simpa [pure, Except.pure, eq_comm] using ok
              | some target =>
                  dsimp only at ok ⊢
                  cases known : w.requireType target with
                  | error e => simp [known] at ok
                  | ok targetType =>
                      simp only [known] at ok
                      cases value : targetType.producesValue with
                      | true => simp [value, throw, throwThe, MonadExceptOf.throw] at ok
                      | false =>
                          refine ⟨⟨targetType, requireType_eq_ok_iff.1 known, value⟩, ?_⟩
                          cases back : w.linksBack seat id target <;>
                            simpa [value, back, pure, Except.pure, eq_comm] using ok

end Workspace

end SolanaBlocks
