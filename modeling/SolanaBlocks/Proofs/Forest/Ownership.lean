import Mathlib.Data.List.Chain
import Mathlib.Order.WellFounded
import SolanaBlocks.Palette.Standard
import SolanaBlocks.Proofs.Forest.Descent
import SolanaBlocks.Proofs.Forest.Outcomes
import SolanaBlocks.Proofs.Forest.References

/-!
# Going up comes to an end

Chains may be bent into cycles, but ownership never is: whatever edits a workspace has been through,
going up from owner to owner ends. An edit either takes seats away, or it gives a seat to blocks none
of which is the owner of the seat or lies above it. So an owner that has been removed does no harm
either. A block may still have a seat there, and goes up through it again once the id is in use
again; but the new block starts without a seat, and the next one that it gets is checked as well.
-/

namespace SolanaBlocks

namespace Workspace

variable {palette : Palette} {w w' w'' : Workspace} {id : BlockId}

/-- The workspaces that edits lead to from an empty one. -/
inductive Edited (palette : Palette) : Workspace → Prop
  | empty : Edited palette { palette := palette }
  | edit {w : Workspace} (edit : Edit) : Edited palette w → Edited palette (w.apply edit).1

/-- Going up from owner to owner comes to an end. -/
def Grounded (w : Workspace) : Prop :=
  WellFounded fun owner id => w.OwnedBy id owner

/-! ## Edits that take seats away -/

/-- Every block keeps its seat or has none any more. -/
def Unseats (w w' : Workspace) : Prop :=
  ∀ id, w'.seat? id = none ∨ w'.seat? id = w.seat? id

namespace Unseats

theorem refl (w : Workspace) : Unseats w w := fun _ => .inr rfl

theorem trans (h : Unseats w w') (h' : Unseats w' w'') : Unseats w w'' := by
  intro id
  rcases h' id with none | same
  · exact .inl none
  · rw [same]
    exact h id

theorem of_eq (seats : w'.seat? = w.seat?) : Unseats w w' := fun _ => .inr (by rw [seats])

theorem foldl {α : Type} {step : Workspace → α → Workspace} (h : ∀ w a, Unseats w (step w a))
    (w : Workspace) (list : List α) : Unseats w (list.foldl step w) := by
  induction list generalizing w with
  | nil => exact refl w
  | cons a list ih => exact (h w a).trans (ih (step w a))

theorem modify (w : Workspace) (id : BlockId) {change : Block → Block}
    (seat : ∀ block, (change block).seat = none ∨ (change block).seat = block.seat) :
    Unseats w (w.modify id change) := by
  intro other
  rw [seat?_modify]
  split
  · unfold seat?
    cases w.get? other with
    | none => exact .inl rfl
    | some block => exact seat block
  · exact .inr rfl

end Unseats

theorem unseats_detach (w : Workspace) (id : BlockId) : Unseats w (w.detach id) := by
  have unlinked {w₁ : Workspace} (u : Unlinked w w₁ id) : Unseats w w₁ := by
    intro other
    rw [u.seats, Function.update_apply]
    split
    · exact .inl rfl
    · exact .inr rfl
  have left := leaves_detach w id
  generalize w.detach id = w' at left ⊢
  cases left with
  | root => exact .of_eq rfl
  | nowhere => exact .refl w
  | lost u => exact unlinked u
  | emptied u _ _ r => exact (unlinked u).trans (.of_eq r.seats)
  | headed u _ _ r => exact (unlinked u).trans (.of_eq r.seats)
  | bridged u _ r => exact (unlinked u).trans (.of_eq r.seats)

theorem unseats_toTop (w : Workspace) (id : BlockId) : Unseats w (w.toTop id) := by
  have unlinked : Unseats w (w.modify id fun block => { block with next := none, seat := none }) :=
    .modify w id fun _ => .inl rfl
  unfold toTop
  dsimp only
  split
  · exact unlinked
  · exact unlinked.trans (.of_eq rfl)

theorem unseats_release (w : Workspace) (owner : BlockId) (slot : String) :
    Unseats w (w.release owner slot).1 := by
  unfold release
  split
  · exact .refl w
  · refine Unseats.trans (.modify w owner fun _ => .inr ?_) (.foldl unseats_toTop _ _)
    rfl

theorem unseats_cutAfter (w : Workspace) (seat : Seat) (id : BlockId) :
    Unseats w (w.cutAfter seat id) := by
  unfold cutAfter
  dsimp only
  split
  · exact .refl w
  · refine Unseats.trans (.modify w id fun _ => .inr ?_) (.foldl unseats_toTop _ _)
    rfl

theorem unseats_removeAll (w : Workspace) (stack : List BlockId) :
    Unseats w (w.removeAll stack).1 := by
  intro id
  rw [seat?, (purged_removeAll w stack).get?]
  split
  · exact .inl rfl
  · exact .inr rfl

/-- A block that still has a seat has kept it. -/
theorem Unseats.seat?_eq (fewer : Unseats w w') {seat : Seat} (sits : w'.seat? id = some seat) :
    w.seat? id = some seat := by
  rcases fewer id with none | same
  · rw [none] at sits
    cases sits
  · rwa [same] at sits

theorem Unseats.ownedBy (fewer : Unseats w w') {owner : BlockId} (owned : w'.OwnedBy id owner) :
    w.OwnedBy id owner := by
  obtain ⟨slot, sits⟩ := ownedBy_iff.1 owned
  exact ownedBy_iff.2 ⟨slot, fewer.seat?_eq sits⟩

theorem Grounded.unseats (h : Grounded w) (fewer : Unseats w w') : Grounded w' :=
  Subrelation.wf fewer.ownedBy h

theorem Grounded.congr (h : Grounded w) (seats : w'.seat? = w.seat?) : Grounded w' :=
  h.unseats (.of_eq seats)

theorem Grounded.empty (palette : Palette) : Grounded { palette := palette } := by
  refine ⟨fun id => ⟨id, fun owner owned => ?_⟩⟩
  obtain ⟨slot, sits⟩ := ownedBy_iff.1 owned
  simp [seat?, get?] at sits

/-! ## Edits that give seats -/

/-- Blocks may be put into a seat as long as none of them is the owner or lies above it. `above`
holds the owner and everything above it. -/
theorem Grounded.of_seating (h : Grounded w) {seat : Seat} (moved : List BlockId)
    (above : BlockId → Prop) (seats : ∀ id ∉ moved, w'.seat? id = w.seat? id)
    (arrived : ∀ id ∈ moved, w'.seat? id = some seat) (owner : above seat.owner)
    (up : ∀ id owner, above id → w.OwnedBy id owner → above owner)
    (apart : ∀ id ∈ moved, ¬ above id) : Grounded w' := by
  have same {id owner : BlockId} (stays : id ∉ moved) (owned : w'.OwnedBy id owner) :
      w.OwnedBy id owner := by
    obtain ⟨slot, sits⟩ := ownedBy_iff.1 owned
    exact ownedBy_iff.2 ⟨slot, seats id stays ▸ sits⟩
  -- Above the owner nothing has changed; everything else goes up through it or as before.
  have high (id : BlockId) : above id → Acc (fun owner id => w'.OwnedBy id owner) id := by
    induction id using h.induction with
    | h id ih =>
        intro high
        refine ⟨id, fun owner' owned => ?_⟩
        have before := same (fun hid => apart id hid high) owned
        exact ih owner' before (up id owner' high before)
  refine ⟨fun id => ?_⟩
  induction id using h.induction with
  | h id ih =>
      refine ⟨id, fun owner' owned => ?_⟩
      by_cases hid : id ∈ moved
      · obtain ⟨slot, sits⟩ := ownedBy_iff.1 owned
        rw [arrived id hid] at sits
        cases sits
        exact high _ owner
      · exact ih owner' (same hid owned)

theorem seat?_linkChain (w : Workspace) (list : List BlockId) :
    (w.linkChain list).seat? = w.seat? := by
  induction list generalizing w with
  | nil => rfl
  | cons a list ih =>
      cases list with
      | nil => rfl
      | cons b rest => exact (ih _).trans (seat?_modify_of_eq w a _ fun _ => rfl)

/-- Giving a seat to some blocks and naming one of them in its slot changes no other seat. -/
theorem seat?_fill (seat : Seat) (input : SlotInput) (content : SlotContent)
    (blocks : SameBlocks w w') (seats : w'.seat? = w.seat?)
    (alive : ∀ id ∈ input.members, w.contains id = true) :
    ((input.members.foldl
      (fun w child => w.modify child fun block => { block with seat := some seat }) w').modify
        seat.owner fun block => { block with slots := block.slots.insert seat.slot content }).seat? =
      fun id => if id ∈ input.members then some seat else w.seat? id := by
  have placed := placed_foldl w' seat input.members fun id hid =>
    (blocks.contains id).trans (alive id hid)
  refine (seat?_modify_of_eq _ _ _ fun _ => by rfl).trans (funext fun id => ?_)
  rw [placed.seats, seats]

/-- Filling a slot gives its seat to the blocks that come in. -/
theorem seat?_seatMembers (seat : Seat) (input : SlotInput)
    (alive : ∀ id ∈ input.members, w.contains id = true) :
    (w.seatMembers seat.owner seat.slot input).seat? = fun id =>
      if id ∈ input.members then some seat else w.seat? id := by
  match input with
  | .single child => exact seat?_fill seat (.single child) (.single child) (.refl w) rfl alive
  | .chain [] =>
      funext id
      exact (if_neg List.not_mem_nil).symm
  | .chain (head :: rest) =>
      exact seat?_fill seat (.chain (head :: rest)) (.chain head) (sameBlocks_linkChain w _)
        (seat?_linkChain w _) alive

namespace Grounded

theorem bind (h : Grounded w) {owner : BlockId} {slot : String} {input : SlotInput}
    (ok : w.bind owner slot input = .ok w') : Grounded w' := by
  obtain ⟨able, rfl⟩ := bind_eq_ok_iff.1 ok
  have fewer := (Unseats.foldl unseats_detach w input.members).trans
    (unseats_release (input.members.foldl detach w) owner slot)
  have blocks := (SameBlocks.foldl sameBlocks_detach w input.members).trans
    (sameBlocks_release (input.members.foldl detach w) owner slot)
  unfold bound
  generalize ((input.members.foldl detach w).release owner slot).1 = w₁ at fewer blocks ⊢
  have seats := seat?_seatMembers (w := w₁) ⟨owner, slot⟩ input fun id hid =>
    (blocks.contains id).trans (able.alive.2 id hid)
  refine (h.unseats fewer).of_seating input.members (fun id => id = owner ∨ id ∈ w.ancestors owner)
    (fun id hid => (congrFun seats id).trans (if_neg hid))
    (fun id hid => (congrFun seats id).trans (if_pos hid)) (.inl rfl) (fun id owner' high owned => ?_)
    fun id hid => not_or.2 (able.apart id hid)
  · obtain ⟨place, sits⟩ := ownedBy_iff.1 (fewer.ownedBy owned)
    rcases high with rfl | high
    · exact .inr (owner_mem_ancestors sits)
    · exact .inr (ancestors_closed high sits)

theorem unbind (h : Grounded w) {owner : BlockId} {slot : String} {ids : List BlockId}
    (ok : w.unbind owner slot = .ok (w', ids)) : Grounded w' := by
  obtain ⟨-, rfl, -⟩ := unbind_eq_ok_iff.1 ok
  exact h.unseats (unseats_release w owner slot)

theorem setNext (h : Grounded w) {next : Option BlockId} (ok : w.setNext id next = .ok w') :
    Grounded w' := by
  obtain ⟨seat, sits, -, change⟩ := setNext_cases ok
  cases next with
  | none =>
      rw [show w' = Workspace.bump (w.cutAfter seat id) from change]
      exact h.unseats (unseats_cutAfter w seat id)
  | some target =>
      obtain ⟨⟨type, typed, -⟩, rfl⟩ := change
      cases back : w.linksBack seat id target with
      | true =>
          refine h.congr ((seat?_modify_of_eq w id _ fun _ => ?_).trans rfl)
          rfl
      | false =>
          simp only [linksBack, Bool.or_eq_false_iff, List.contains_eq_mem,
            decide_eq_false_iff_not] at back
          have fewer := unseats_detach w target
          have blocks := sameBlocks_detach w target
          unfold spliceAfter
          generalize w.detach target = w₁ at fewer blocks ⊢
          have spliced := spliced_modify (w := w₁) seat
            ((blocks.contains id).trans (contains_of_seat? sits))
            ((blocks.contains target).trans (contains_of_typeAt? typed))
          refine (h.unseats fewer).of_seating [target] (· ∈ w.ancestors id)
            (fun other ho => ?_) (fun other ho => ?_) (owner_mem_ancestors sits)
            (fun other owner high owned => ?_) ?_
          · refine (congrFun spliced.seats other).trans (Function.update_of_ne ?_ _ _)
            simpa using ho
          · rw [List.mem_singleton.1 ho]
            exact (congrFun spliced.seats target).trans (Function.update_self ..)
          · obtain ⟨place, sits'⟩ := ownedBy_iff.1 (fewer.ownedBy owned)
            exact ancestors_closed high sits'
          · simpa using back.1.2

theorem remove (h : Grounded w) {ids : List BlockId} (ok : w.remove id = .ok (w', ids)) :
    Grounded w' := by
  obtain ⟨-, rfl, -⟩ := remove_eq_ok_iff.1 ok
  exact h.unseats ((unseats_detach w id).trans (unseats_removeAll _ [id]))

theorem moveRoot (h : Grounded w) {index : Nat} (ok : w.moveRoot id index = .ok w') :
    Grounded w' := by
  obtain ⟨-, rfl⟩ := moveRoot_eq_ok_iff.1 ok
  exact h.congr rfl

theorem createAs (h : Grounded w) {type : String} {given : List (String × FieldValue)}
    (ok : w.createAs id type given = .ok w') : Grounded w' := by
  obtain ⟨new, declaration, fields, -, -, rfl⟩ := createAs_eq_ok_iff.1 ok
  exact h.congr (created_insert new type fields).seats

theorem setField (h : Grounded w) {name : String} {value : FieldValue}
    (ok : w.setField id name value = .ok w') : Grounded w' := by
  obtain ⟨type, -, -, rfl⟩ := setField_eq_ok_iff.1 ok
  refine h.congr ((seat?_modify_of_eq w id _ fun _ => ?_).trans rfl)
  rfl

/-- No edit closes a loop of owners. -/
theorem apply (h : Grounded w) (edit : Edit) : Grounded (w.apply edit).1 := by
  have step := outcome_apply w edit
  generalize (w.apply edit).1 = w' at step ⊢
  cases step with
  | refused => exact h
  | drawn => exact h.congr rfl
  | numbered ok =>
      have drawn : Grounded w.drawNumber.2 := h.congr rfl
      exact drawn.createAs ok
  | created ok => exact h.createAs ok
  | fieldSet ok => exact h.setField ok
  | bound ok => exact h.bind ok
  | unbound ok => exact h.unbind ok
  | linked ok => exact h.setNext ok
  | removed ok => exact h.remove ok
  | rootMoved ok => exact h.moveRoot ok

end Grounded

theorem Edited.grounded (run : Edited palette w) : Grounded w := by
  induction run with
  | empty => exact .empty palette
  | edit edit _ ih => exact ih.apply edit

/-! ## Ancestors -/

/-- No block lies strictly above itself. -/
theorem Grounded.irrefl (h : Grounded w) (id : BlockId) : ¬ Relation.TransGen w.OwnedBy id id := by
  intro loop
  have swapped := Relation.transGen_swap.1 loop
  exact (h.transGen).irrefl.irrefl id swapped

/-- The ancestors of a block are its owners all the way up, as long as none of them has been passed
before. -/
theorem Grounded.ancestorsFrom_spec (h : Grounded w) (id : BlockId) (seen : List BlockId)
    (new : ∀ high ∈ seen, ¬ Relation.TransGen w.OwnedBy id high) :
    (id :: w.ancestorsFrom seen id).IsChain w.OwnedBy ∧
      ∃ top, (id :: w.ancestorsFrom seen id).getLast? = some top ∧ w.seat? top = none := by
  induction id using h.induction generalizing seen with
  | h id ih =>
      rw [ancestorsFrom_eq]
      cases sits : w.seat? id with
      | none => exact ⟨.singleton id, id, rfl, sits⟩
      | some seat =>
          have owned : w.OwnedBy id seat.owner := ownedBy_iff.2 ⟨seat.slot, sits⟩
          have fresh : seat.owner ∉ seen := fun passed => new _ passed (.single owned)
          have later : ∀ high ∈ seat.owner :: seen, ¬ Relation.TransGen w.OwnedBy seat.owner high := by
            intro high passed above
            rcases List.mem_cons.1 passed with rfl | passed
            · exact h.irrefl _ above
            · exact new high passed (.head owned above)
          dsimp only
          rw [if_neg fresh]
          obtain ⟨chain, top, last, free⟩ := ih seat.owner owned (seat.owner :: seen) later
          refine ⟨.cons_cons owned chain, top, ?_, free⟩
          rw [List.getLast?_cons_cons, last]

/-- In every workspace that edits lead to, links back, removals and ids used anew among them, the
ancestors of a block are its owners one above the other, up to one that has no seat. No id comes
twice among them and the block itself. -/
theorem ancestors_of_edited (run : Edited palette w) (id : BlockId) :
    (id :: w.ancestors id).IsChain w.OwnedBy ∧ (id :: w.ancestors id).Nodup ∧
      ∃ top, (id :: w.ancestors id).getLast? = some top ∧ w.seat? top = none := by
  have grounded := run.grounded
  obtain ⟨chain, ends⟩ := grounded.ancestorsFrom_spec id [] (by simp)
  refine ⟨chain, ?_, ends⟩
  have above := (chain.imp fun _ _ => Relation.TransGen.single).pairwise
  refine above.imp fun {low high} higher same => ?_
  exact grounded.irrefl low (same ▸ higher)

/-- A loop that was cut off from its chain outlives its owner. Once the owner's id is in use again,
going up leads there, and the new block is not taken into the loop. -/
theorem ancestors_of_edited_anew :
    let edits : List Edit := [
      .create (some ⟨"o"⟩) "process_instruction" [],
      .create (some ⟨"a"⟩) "controls_while" [],
      .create (some ⟨"b"⟩) "controls_while" [],
      .bind ⟨"o"⟩ "body" (.chain [⟨"a"⟩, ⟨"b"⟩]),
      .setNext ⟨"a"⟩ (some ⟨"a"⟩),
      .remove ⟨"o"⟩,
      .create (some ⟨"o"⟩) "controls_while" [],
      .bind ⟨"b"⟩ "do" (.chain [⟨"o"⟩])]
    let w : Workspace := edits.foldl (fun w edit => (w.apply edit).1) { palette := .standard }
    Edited .standard w ∧ w.ancestors ⟨"b"⟩ = [⟨"o"⟩] ∧ w.contains ⟨"o"⟩ = true ∧
      ([⟨"b"⟩, ⟨"o"⟩] : List BlockId).IsChain w.OwnedBy ∧ w.seat? ⟨"o"⟩ = none := by
  intro edits w
  have run : Edited .standard w :=
    .edit _ (.edit _ (.edit _ (.edit _ (.edit _ (.edit _ (.edit _ (.edit _ .empty)))))))
  have above : w.ancestors ⟨"b"⟩ = [⟨"o"⟩] := by decide +kernel
  obtain ⟨chain, -, top, last, free⟩ := ancestors_of_edited run ⟨"b"⟩
  rw [above] at chain last
  cases last
  exact ⟨run, above, by decide +kernel, chain, free⟩

end Workspace

end SolanaBlocks
