import SolanaBlocks.Proofs.Forest.Detach
import SolanaBlocks.Proofs.Forest.Release
import SolanaBlocks.Proofs.Forest.Seating

/-!
# Moving blocks

Binding takes blocks out of their places, empties a slot and fills it with them. A new successor in
a chain is taken out of its place and linked in behind a member. What is checked beforehand is what
keeps the layout: nothing is offered twice, and neither an owner nor a block above it comes to lie
below itself.
-/

namespace SolanaBlocks

namespace Workspace

variable {w : Workspace} {members : Seat → List BlockId} {floating : List BlockId}

/-! ## Binding -/

/-- What has to hold for blocks to be bound into a slot. -/
structure Bindable (w : Workspace) (seat : Seat) (input : SlotInput) : Prop where
  arity : w.arity? seat = some input.arity
  distinct : input.members.Nodup
  apart : ∀ id ∈ input.members, id ≠ seat.owner ∧ id ∉ w.ancestors seat.owner
  fits : ∀ id ∈ input.members, w.Fits id seat

theorem Bindable.alive {seat : Seat} {input : SlotInput} (able : Bindable w seat input) :
    w.contains seat.owner = true ∧ ∀ id ∈ input.members, w.contains id = true := by
  refine ⟨contains_of_arity? able.arity, fun id hid => ?_⟩
  obtain ⟨_, _, _, typed, _⟩ := able.fits id hid
  exact contains_of_typeAt? typed

theorem checkMembers_eq_ok_iff {owner : BlockId} {above : List BlockId} {slot : String}
    {arity : SlotArity} {before list : List BlockId} :
    w.checkMembers owner above slot arity before list = .ok () ↔
      list.Nodup ∧ ∀ id ∈ list, id ∉ before ∧ (id ≠ owner ∧ id ∉ above) ∧
        ∃ type, w.typeAt? id = some type ∧ type.producesValue = (arity == .expression) := by
  induction list generalizing before with
  | nil => simp [checkMembers]
  | cons id list ih =>
      rw [checkMembers]
      cases found : w.requireType id with
      | error e =>
          have none : ∀ type, w.typeAt? id ≠ some type := by
            intro type typed
            rw [← requireType_eq_ok_iff, found] at typed
            cases typed
          simp [none]
      | ok type =>
          have typed := requireType_eq_ok_iff.1 found
          dsimp only
          by_cases seen : id ∈ before
          · simp [seen]
          by_cases high : id = owner ∨ id ∈ above
          · rw [if_neg seen, if_pos high]
            refine ⟨fun refused => (by cases refused), fun ⟨_, all⟩ => ?_⟩
            obtain ⟨ne, low⟩ := (all id List.mem_cons_self).2.1
            exact absurd high (not_or.2 ⟨ne, low⟩)
          · rw [if_neg seen, if_neg high]
            cases bad : mismatch? arity type with
            | some mismatch =>
                have unfit : ¬ type.producesValue = (arity == .expression) := by
                  rw [← mismatch?_eq_none_iff, bad]
                  exact Option.some_ne_none mismatch
                simp [typed, unfit]
            | none =>
                have fit := mismatch?_eq_none_iff.1 bad
                rw [not_or] at high
                rw [List.nodup_cons, List.forall_mem_cons]
                simp only [ih, List.mem_cons, not_or]
                constructor
                · rintro ⟨distinct, later⟩
                  exact ⟨⟨fun hid => (later id hid).1.1 rfl, distinct⟩,
                    ⟨seen, high, type, typed, fit⟩,
                    fun other ho => ⟨(later other ho).1.2, (later other ho).2⟩⟩
                · rintro ⟨⟨once, distinct⟩, -, later⟩
                  exact ⟨distinct, fun other ho =>
                    ⟨⟨ne_of_mem_of_not_mem ho once, (later other ho).1⟩, (later other ho).2⟩⟩

/-- The workspace that a successful binding gives. -/
def bound (w : Workspace) (seat : Seat) (input : SlotInput) : Workspace :=
  bump (((input.members.foldl detach w).release seat.owner seat.slot).1.seatMembers
    seat.owner seat.slot input)

theorem bind_eq (owner : BlockId) (slot : String) (input : SlotInput) :
    w.bind owner slot input =
      match w.requireType owner with
      | .error e => .error e
      | .ok type =>
        match type.slot? slot with
        | none => .error (.unknownSlot type.id slot)
        | some declaration =>
          if declaration.arity = input.arity then
            match w.checkMembers owner (w.ancestors owner) slot declaration.arity []
              input.members with
            | .error e => .error e
            | .ok _ => .ok (w.bound ⟨owner, slot⟩ input)
          else .error (.wrongArity owner slot declaration.arity) := by
  unfold Workspace.bind
  cases w.requireType owner with
  | error e => rfl
  | ok type =>
      simp only [Bind.bind, Except.bind]
      cases type.slot? slot with
      | none => rfl
      | some declaration =>
          dsimp only
          by_cases same : declaration.arity = input.arity
          · rw [if_neg (not_not.2 same), if_pos same]
            cases w.checkMembers owner (w.ancestors owner) slot declaration.arity []
              input.members <;> rfl
          · rw [if_pos same, if_neg same]
            rfl

theorem bind_eq_ok_iff {owner : BlockId} {slot : String} {input : SlotInput} {w' : Workspace} :
    w.bind owner slot input = .ok w' ↔
      Bindable w ⟨owner, slot⟩ input ∧ w' = w.bound ⟨owner, slot⟩ input := by
  have arity_eq : w.arity? ⟨owner, slot⟩ =
      ((w.typeAt? owner).bind fun type => type.slot? slot).map SlotDecl.arity := rfl
  rw [bind_eq]
  constructor
  · intro ok
    cases known : w.requireType owner with
    | error e => simp [known] at ok
    | ok type =>
        simp only [known] at ok
        cases declared : type.slot? slot with
        | none => simp [declared] at ok
        | some declaration =>
            simp only [declared] at ok
            have arity : w.arity? ⟨owner, slot⟩ = some declaration.arity := by
              simp [arity_eq, requireType_eq_ok_iff.1 known, declared]
            split at ok
            · next same =>
                cases checked : w.checkMembers owner (w.ancestors owner) slot declaration.arity []
                  input.members with
                | error e => simp [checked] at ok
                | ok _ =>
                    simp only [checked, Except.ok.injEq] at ok
                    obtain ⟨distinct, members⟩ := checkMembers_eq_ok_iff.1 checked
                    refine ⟨⟨same ▸ arity, distinct, fun id hid => (members id hid).2.1,
                      fun id hid => ?_⟩, ok.symm⟩
                    obtain ⟨type, typed, fit⟩ := (members id hid).2.2
                    exact ⟨declaration.arity, type, arity, typed, fit⟩
            · cases ok
  · rintro ⟨able, rfl⟩
    obtain ⟨declaration, declared, same⟩ := Option.map_eq_some_iff.1 (arity_eq ▸ able.arity)
    obtain ⟨type, typed, declared⟩ := Option.bind_eq_some_iff.1 declared
    have checked : w.checkMembers owner (w.ancestors owner) slot declaration.arity []
        input.members = .ok () := by
      refine checkMembers_eq_ok_iff.2 ⟨able.distinct, fun id hid =>
        ⟨List.not_mem_nil, able.apart id hid, ?_⟩⟩
      obtain ⟨arity, type, seat, typed, fit⟩ := able.fits id hid
      rw [able.arity] at seat
      cases seat
      exact ⟨type, typed, same ▸ fit⟩
    simp only [requireType_eq_ok_iff.2 typed, declared, if_pos same, checked]

/-- What binding comes to. -/
structure Bound (w w' : Workspace) (members : Seat → List BlockId) (seat : Seat)
    (input : SlotInput) : Prop where
  laid : Laid w' (Function.update (fun other => (members other).filter (· ∉ input.members)) seat
    input.members) []
  typed : Typed w'
  blocks : SameBlocks w w'
  roots : w'.roots = w.roots.filter (· ∉ input.members) ++
    (members seat).filter (· ∉ input.members)
  content : w'.content? seat = contentOf input
  seats : ∀ id, w'.seat? id =
    if id ∈ input.members then some seat else if id ∈ members seat then none else w.seat? id

theorem Bindable.bound {seat : Seat} {input : SlotInput} (able : Bindable w seat input)
    (h : Laid w members []) (t : Typed w) :
    Bound w (w.bound seat input) members seat input := by
  obtain ⟨owner, alive⟩ := able.alive
  have taken := allDetached h alive (fun _ _ => List.not_mem_nil) able.distinct
  unfold Workspace.bound
  generalize input.members.foldl detach w = w₁ at taken ⊢
  obtain ⟨emptied, -⟩ := released taken.laid seat
  generalize (w₁.release seat.owner seat.slot).1 = w₂ at emptied ⊢
  have blocks := taken.blocks.trans emptied.blocks
  have empty : w₂.content? seat = none := by
    have holds := emptied.laid.holds seat
    rw [Function.update_self] at holds
    exact holds.eq_nil_iff.1 rfl
  have floats (id : BlockId) (hid : id ∈ input.members) : id ∈ input.members.reverse ++ [] := by
    simpa using hid
  have filled := filled_seatMembers input ((blocks.contains _).trans owner) empty
    (fun id hid => (blocks.contains id).trans (alive id hid))
    (fun id hid => emptied.laid.next?_eq_none id (emptied.laid.floats id (floats id hid)).2)
    able.distinct
  generalize w₂.seatMembers seat.owner seat.slot input = w₃ at filled ⊢
  have fewer (id : BlockId) : w₂.seat? id = none ∨ w₂.seat? id = w.seat? id := by
    rw [emptied.seats, taken.seats]
    split <;> [left; split] <;> simp
  have laid := laid_filled emptied.laid filled (Function.update_self ..) able.distinct floats
    (by simp) (fun id => id = seat.owner ∨ id ∈ w.ancestors seat.owner)
    ((blocks.contains _).trans owner) (.inl rfl) (fun id other high sits => ?_)
    (fun id hid => not_or.2 (able.apart id hid))
  · refine ⟨?_, ?_, ?_, ?_, ?_, fun id => ?_⟩
    · rw [Function.update_idem] at laid
      exact laid.congr rfl rfl
    · have typed := typed_filled (emptied.typed (taken.typed t)) filled
        (by rw [blocks.arity?, able.arity]) fun id hid => blocks.fits_iff.2 (able.fits id hid)
      exact typed.congr rfl rfl
    · exact (blocks.trans filled.blocks).trans ⟨rfl, fun _ => rfl, fun _ => rfl⟩
    · exact filled.roots.trans (by rw [emptied.roots, taken.roots])
    · exact (congrFun filled.contents seat).trans (Function.update_self ..)
    · refine (filled.seats id).trans ?_
      rw [emptied.seats, taken.seats]
      by_cases hid : id ∈ input.members <;> simp [hid]
  · have sits : w.seat? id = some other := by
      rcases fewer id with none | same
      · rw [none] at sits
        cases sits
      · rwa [same] at sits
    rcases high with rfl | high
    · exact .inr (owner_mem_ancestors sits)
    · exact .inr (ancestors_closed high sits)

end Workspace

end SolanaBlocks
