import SolanaBlocks.Proofs.Forest.Creation
import SolanaBlocks.Proofs.Forest.Moves
import SolanaBlocks.Proofs.Forest.Outcomes
import SolanaBlocks.Proofs.Forest.Removal
import SolanaBlocks.Proofs.Forest.Splice
import SolanaBlocks.Proofs.Trees.Counts

/-!
# Revisions

A workspace counts its changes. The small steps of an edit leave the count alone and its end adds
one; an edit that is refused changes nothing, but may have drawn a number for an id. So among the
workspaces that edits lead through, the revision tells what a workspace holds.
-/

namespace SolanaBlocks

namespace Workspace

variable (w : Workspace)

/-! ## Small steps -/

theorem revision_toTop (id : BlockId) : (w.toTop id).revision = w.revision := by
  unfold toTop
  dsimp only
  split <;> rfl

theorem revision_detach (id : BlockId) : (w.detach id).revision = w.revision := by
  unfold detach
  split
  · rfl
  · split
    · rfl
    · dsimp only
      split
      · rfl
      · split <;> rfl
      · split
        · rfl
        · split <;> rfl

/-- Steps that leave the count alone do so one after the other. -/
theorem revision_foldl {α : Type} {f : Workspace → α → Workspace}
    (keeps : ∀ w a, (f w a).revision = w.revision) (list : List α) :
    (list.foldl f w).revision = w.revision := by
  induction list generalizing w with
  | nil => rfl
  | cons a list ih => exact (ih (f w a)).trans (keeps w a)

theorem revision_release (owner : BlockId) (slot : String) :
    (w.release owner slot).1.revision = w.revision := by
  unfold release
  split
  · rfl
  · exact revision_foldl _ revision_toTop _

theorem revision_linkChain (ids : List BlockId) : (w.linkChain ids).revision = w.revision := by
  induction ids generalizing w with
  | nil => rfl
  | cons a rest ih =>
      cases rest with
      | nil => rfl
      | cons b rest => exact ih (w.modify a fun block => { block with next := some b })

theorem revision_seatMembers (owner : BlockId) (slot : String) (input : SlotInput) :
    (w.seatMembers owner slot input).revision = w.revision := by
  cases input with
  | single child => rfl
  | chain children =>
      cases children with
      | nil => rfl
      | cons head rest =>
          refine Eq.trans ?_ (w.revision_linkChain (head :: rest))
          exact revision_foldl (f := fun w child => w.modify child fun block =>
            { block with seat := some ⟨owner, slot⟩ }) _ (fun _ _ => rfl) (head :: rest)

theorem revision_cutAfter (seat : Seat) (id : BlockId) :
    (w.cutAfter seat id).revision = w.revision := by
  unfold cutAfter
  dsimp only
  split
  · rfl
  · exact revision_foldl _ revision_toTop _

theorem revision_removeAll (stack : List BlockId) :
    (w.removeAll stack).1.revision = w.revision := by
  induction w, stack using removeAll_induction with
  | done w stack dead removed => rw [removed]; rfl
  | step w dead id rest passed alive removed ih =>
      rw [removed]
      exact ih

/-! ## Edits -/

/-- From the first workspace to the second nothing has changed; at most a number has been drawn for
an id. -/
def Unchanged (w w' : Workspace) : Prop :=
  ∃ counter, w' = w.recount counter w.revision

/-- The second workspace is the first one or has come of it by changes, each of them counted. -/
def Onward (w w' : Workspace) : Prop :=
  w.revision < w'.revision ∨ w.Unchanged w'

variable {w} {w' w'' : Workspace}

namespace Unchanged

theorem refl (w : Workspace) : w.Unchanged w := ⟨w.counter, rfl⟩

theorem symm (h : w.Unchanged w') : w'.Unchanged w := by
  obtain ⟨counter, rfl⟩ := h
  exact ⟨w.counter, rfl⟩

theorem trans (h : w.Unchanged w') (h' : w'.Unchanged w'') : w.Unchanged w'' := by
  obtain ⟨counter, rfl⟩ := h
  obtain ⟨counter', rfl⟩ := h'
  exact ⟨counter', rfl⟩

theorem revision_eq (h : w.Unchanged w') : w'.revision = w.revision := by
  obtain ⟨counter, rfl⟩ := h
  rfl

end Unchanged

namespace Onward

theorem refl (w : Workspace) : w.Onward w := .inr (.refl w)

theorem trans (h : w.Onward w') (h' : w'.Onward w'') : w.Onward w'' := by
  rcases h with later | same <;> rcases h' with later' | same'
  · exact .inl (Nat.lt_trans later later')
  · exact .inl (same'.revision_eq ▸ later)
  · exact .inl (same.revision_eq ▸ later')
  · exact .inr (same.trans same')

/-- At one revision nothing has changed. -/
theorem unchanged (h : w.Onward w') (same : w'.revision = w.revision) : w.Unchanged w' := by
  rcases h with later | unchanged
  · exact absurd same (Nat.ne_of_gt later)
  · exact unchanged

end Onward

theorem revision_createAs {id : BlockId} {type : String} {given : List (String × FieldValue)}
    (ok : w.createAs id type given = .ok w') : w'.revision = w.revision + 1 := by
  obtain ⟨-, _, _, -, -, rfl⟩ := createAs_eq_ok_iff.1 ok
  rfl

theorem revision_bound (seat : Seat) (input : SlotInput) :
    (w.bound seat input).revision = w.revision + 1 := by
  refine congrArg (· + 1) ?_
  calc
    _ = ((input.members.foldl detach w).release seat.owner seat.slot).1.revision :=
      revision_seatMembers _ seat.owner seat.slot input
    _ = (input.members.foldl detach w).revision := revision_release _ seat.owner seat.slot
    _ = w.revision := revision_foldl w revision_detach input.members

theorem revision_setNext {id : BlockId} {next : Option BlockId} (ok : w.setNext id next = .ok w') :
    w'.revision = w.revision + 1 := by
  obtain ⟨seat, -, -, change⟩ := setNext_cases ok
  cases next with
  | none => exact change ▸ congrArg (· + 1) (w.revision_cutAfter seat id)
  | some target =>
      rw [change.2]
      split
      · rfl
      · exact congrArg (· + 1) (w.revision_detach target)

theorem revision_setField {id : BlockId} {name : String} {value : FieldValue}
    (ok : w.setField id name value = .ok w') : w'.revision = w.revision + 1 := by
  obtain ⟨_, -, -, rfl⟩ := setField_eq_ok_iff.1 ok
  rfl

theorem revision_unbind {owner : BlockId} {slot : String} {ids : List BlockId}
    (ok : w.unbind owner slot = .ok (w', ids)) : w'.revision = w.revision + 1 := by
  obtain ⟨-, rfl, -⟩ := unbind_eq_ok_iff.1 ok
  exact congrArg (· + 1) (w.revision_release owner slot)

theorem revision_remove {id : BlockId} {ids : List BlockId} (ok : w.remove id = .ok (w', ids)) :
    w'.revision = w.revision + 1 := by
  obtain ⟨-, rfl, -⟩ := remove_eq_ok_iff.1 ok
  exact congrArg (· + 1) ((revision_removeAll (w.detach id) [id]).trans (w.revision_detach id))

theorem revision_moveRoot {id : BlockId} {index : Nat} (ok : w.moveRoot id index = .ok w') :
    w'.revision = w.revision + 1 := by
  obtain ⟨-, rfl⟩ := moveRoot_eq_ok_iff.1 ok
  rfl

/-- An edit that changes something is counted once, and one that does not leaves everything as it
was. -/
theorem apply_counted (w : Workspace) (edit : Edit) :
    (w.apply edit).1.revision = w.revision + 1 ∨ w.Unchanged (w.apply edit).1 := by
  have outcome := outcome_apply w edit
  generalize (w.apply edit).1 = w' at outcome
  cases outcome with
  | refused => exact .inr (.refl w)
  | drawn => exact .inr ⟨_, rfl⟩
  | numbered ok => exact .inl ((revision_createAs ok).trans rfl)
  | created ok => exact .inl (revision_createAs ok)
  | fieldSet ok => exact .inl (revision_setField ok)
  | bound ok =>
      obtain ⟨-, rfl⟩ := bind_eq_ok_iff.1 ok
      exact .inl (revision_bound _ _)
  | unbound ok => exact .inl (revision_unbind ok)
  | linked ok => exact .inl (revision_setNext ok)
  | removed ok => exact .inl (revision_remove ok)
  | rootMoved ok => exact .inl (revision_moveRoot ok)

theorem onward_apply (w : Workspace) (edit : Edit) : w.Onward (w.apply edit).1 := by
  rcases apply_counted w edit with counted | same
  · exact .inl (Nat.lt_of_lt_of_eq (Nat.lt_succ_self w.revision) counted.symm)
  · exact .inr same

end Workspace

end SolanaBlocks
