import Mathlib.Data.List.TakeWhile
import SolanaBlocks.Proofs.Forest.Chain

/-!
# Walks along links that lead anywhere

A walk goes on as long as it meets new blocks. Where a chain has been bent it runs into a cycle or
into another chain, so a list that is linked one after the other is only how a walk begins. Whatever
a link leads to from a block of the walk belongs to the walk as well, and the same holds of the part
of the walk in front of the first block that is to stay.
-/

namespace SolanaBlocks

namespace Workspace

variable {w w' : Workspace} {id : BlockId} {seen rest : List BlockId} {stop : Option BlockId}

/-- A walk that starts with a list without repeats that is linked goes along the list first. -/
theorem members_walkFrom_of_linked (linked : Linked w.next? (id :: rest) stop)
    (distinct : (id :: rest).Nodup) (new : ∀ other ∈ id :: rest, other ∉ seen) :
    ∃ more, (w.walkFrom seen id).members = id :: rest ++ more := by
  induction rest generalizing seen id with
  | nil =>
      rw [walkFrom_eq, if_neg (new id List.mem_cons_self)]
      cases w.next? id with
      | none => exact ⟨[], rfl⟩
      | some next => exact ⟨_, rfl⟩
  | cons next rest ih =>
      obtain ⟨once, distinct⟩ := List.nodup_cons.1 distinct
      have later : ∀ other ∈ next :: rest, other ∉ id :: seen := by
        intro other ho
        rw [List.mem_cons, not_or]
        exact ⟨ne_of_mem_of_not_mem ho once, new other (List.mem_cons_of_mem id ho)⟩
      obtain ⟨more, tail⟩ := ih linked.2 distinct later
      have link : w.next? id = some next := linked.1
      rw [walkFrom_eq, if_neg (new id List.mem_cons_self), link]
      exact ⟨more, congrArg (id :: ·) tail⟩

theorem members_walkChain_of_linked (linked : Linked w.next? (id :: rest) stop)
    (distinct : (id :: rest).Nodup) : ∃ more, (w.walkChain id).members = id :: rest ++ more :=
  members_walkFrom_of_linked linked distinct fun _ _ => List.not_mem_nil

/-- A walk passes no block a second time. -/
theorem nodup_walkFrom (seen : List BlockId) (id : BlockId) :
    (w.walkFrom seen id).members.Nodup ∧ ∀ other ∈ (w.walkFrom seen id).members, other ∉ seen := by
  induction seen, id using walk_induction w with
  | again seen id passed => simp [walkFrom_eq, passed]
  | last seen id new none => simp [walkFrom_eq, new, none]
  | step seen id next new link ih =>
      rw [walkFrom_eq, if_neg new, link]
      obtain ⟨distinct, apart⟩ := ih
      refine ⟨List.nodup_cons.2 ⟨fun here => apart id here List.mem_cons_self, distinct⟩, ?_⟩
      refine List.forall_mem_cons.2 ⟨new, fun other ho => ?_⟩
      exact fun passed => apart other ho (List.mem_cons_of_mem id passed)

theorem nodup_walkChain (w : Workspace) (head : BlockId) : (w.walkChain head).members.Nodup :=
  (w.nodup_walkFrom [] head).1

/-- The members of a chain up to one of them, as a walk from its head meets them. -/
theorem chainPrefix_of_walk {seat : Seat} {head : BlockId} {before after : List BlockId}
    (held : w.content? seat = some (.chain head))
    (walk : (w.walkChain head).members = before ++ id :: after) :
    w.chainPrefix seat id = before ++ [id] := by
  have distinct := w.nodup_walkChain head
  rw [walk] at distinct
  have new : id ∉ before :=
    fun hb => (List.nodup_append.1 distinct).2.2 id hb id List.mem_cons_self rfl
  have slot : w.slot? seat.owner seat.slot = some (.chain head) := held
  have early : ∀ other ∈ before, other ≠ id := fun other ho => ne_of_mem_of_not_mem ho new
  have front : (before ++ id :: after).takeWhile (· != id) = before := by
    rw [List.takeWhile_append_of_pos (by simpa using early)]
    simp
  have found : (before ++ id :: after).find? (· == id) = some id := by
    rw [List.find?_append, List.find?_eq_none.2 (by simpa using early)]
    simp
  rw [chainPrefix, slot]
  dsimp only
  rw [walk, front, found]
  rfl

/-- The same for a linked list that begins with the head, wherever it leads. -/
theorem chainPrefix_of_linked {seat : Seat} {head : BlockId} {before after : List BlockId}
    (held : w.content? seat = some (.chain head))
    (starts : (before ++ id :: after).head? = some head)
    (linked : Linked w.next? (before ++ id :: after) stop)
    (distinct : (before ++ id :: after).Nodup) : w.chainPrefix seat id = before ++ [id] := by
  have walk : ∃ more, (w.walkChain head).members = before ++ id :: after ++ more := by
    generalize before ++ id :: after = list at starts linked distinct
    cases list with
    | nil => cases starts
    | cons first rest =>
        cases starts
        exact members_walkChain_of_linked linked distinct
  obtain ⟨more, walk⟩ := walk
  rw [List.append_assoc, List.cons_append] at walk
  exact chainPrefix_of_walk held walk

/-- The block a walk comes to belongs to its first part, if it may. -/
theorem head_mem_takeWhile_walkFrom {p : BlockId → Bool} (new : id ∉ seen) (may : p id = true) :
    id ∈ (w.walkFrom seen id).members.takeWhile p := by
  rw [walkFrom_eq, if_neg new]
  cases w.next? id with
  | none => rw [List.takeWhile_cons_of_pos may]; exact List.mem_cons_self
  | some next => rw [List.takeWhile_cons_of_pos may]; exact List.mem_cons_self

/-- So does everything in a linked list without repeats that begins with it. -/
theorem mem_takeWhile_walkChain {p : BlockId → Bool} (linked : Linked w.next? (id :: rest) stop)
    (distinct : (id :: rest).Nodup) (may : ∀ other ∈ id :: rest, p other = true) :
    ∀ other ∈ id :: rest, other ∈ (w.walkChain id).members.takeWhile p := by
  obtain ⟨more, walk⟩ := members_walkChain_of_linked linked distinct
  rw [walk, List.takeWhile_append_of_pos may]
  exact fun other ho => List.mem_append_left _ ho

/-- What a block in the first part of a walk links to belongs to that part, if it may, or has been
passed before. -/
theorem next_mem_takeWhile_walkFrom (p : BlockId → Bool) {a b : BlockId} (link : w.next? a = some b)
    (may : p b = true) :
    a ∈ (w.walkFrom seen id).members.takeWhile p →
      b ∈ seen ∨ b ∈ (w.walkFrom seen id).members.takeWhile p := by
  induction seen, id using walk_induction w with
  | again seen id passed => simp [walkFrom_eq, passed]
  | last seen id new none =>
      rw [walkFrom_eq, if_neg new, none]
      intro ha
      have same : a = id := List.mem_singleton.1 ((List.takeWhile_sublist p).subset ha)
      rw [same, none] at link
      cases link
  | step seen id next new step ih =>
      rw [walkFrom_eq, if_neg new, step]
      intro ha
      -- the walk passes `id` only if `id` may belong to the part that counts
      have mine : p id = true := by
        by_contra hp
        rw [List.takeWhile_cons_of_neg hp] at ha
        exact List.not_mem_nil ha
      rw [List.takeWhile_cons_of_pos mine] at ha ⊢
      rcases List.mem_cons.1 ha with rfl | later
      · cases link.symm.trans step
        by_cases passed : b ∈ a :: seen
        · rcases List.mem_cons.1 passed with rfl | earlier
          · exact .inr List.mem_cons_self
          · exact .inl earlier
        · exact .inr (List.mem_cons_of_mem a (head_mem_takeWhile_walkFrom passed may))
      · rcases ih later with passed | there
        · rcases List.mem_cons.1 passed with rfl | earlier
          · exact .inr List.mem_cons_self
          · exact .inl earlier
        · exact .inr (List.mem_cons_of_mem id there)

/-- What a block of a walk links to belongs to the walk or has been passed before. -/
theorem next_mem_walkFrom {a b : BlockId} (link : w.next? a = some b)
    (ha : a ∈ (w.walkFrom seen id).members) : b ∈ seen ∨ b ∈ (w.walkFrom seen id).members := by
  have all : (w.walkFrom seen id).members.takeWhile (fun _ => true) =
      (w.walkFrom seen id).members := List.takeWhile_eq_self_iff.2 fun _ _ => rfl
  rw [← all] at ha ⊢
  exact next_mem_takeWhile_walkFrom _ link rfl ha

/-- Every block of a walk is the first one or linked to. -/
theorem eq_or_linked_of_mem_walkFrom {other : BlockId} (ho : other ∈ (w.walkFrom seen id).members) :
    other = id ∨ ∃ a, w.next? a = some other := by
  induction seen, id using walk_induction w with
  | again seen id passed => simp [walkFrom_eq, passed] at ho
  | last seen id new none =>
      rw [walkFrom_eq, if_neg new, none] at ho
      exact .inl (List.mem_singleton.1 ho)
  | step seen id next new link ih =>
      rw [walkFrom_eq, if_neg new, link] at ho
      rcases List.mem_cons.1 ho with same | later
      · exact .inl same
      · rcases ih later with rfl | linked
        · exact .inr ⟨id, link⟩
        · exact .inr linked

/-- Walks are told by the links. -/
theorem walkFrom_congr (nexts : w'.next? = w.next?) (seen : List BlockId) (id : BlockId) :
    w'.walkFrom seen id = w.walkFrom seen id := by
  induction seen, id using walk_induction w with
  | again seen id passed => rw [walkFrom_eq, walkFrom_eq, if_pos passed, if_pos passed]
  | last seen id new none => rw [walkFrom_eq, walkFrom_eq, if_neg new, if_neg new, nexts, none]
  | step seen id next new link ih =>
      rw [walkFrom_eq, walkFrom_eq, if_neg new, if_neg new, nexts, link]
      dsimp only
      rw [ih]

theorem contentMembers_congr (nexts : w'.next? = w.next?) (content : SlotContent) :
    w'.contentMembers content = w.contentMembers content := by
  cases content with
  | single child => rfl
  | chain head => exact congrArg ChainWalk.members (walkFrom_congr nexts [] head)

theorem nodup_contentMembers (w : Workspace) (content : SlotContent) :
    (w.contentMembers content).Nodup := by
  cases content with
  | single child => simp [contentMembers]
  | chain head => exact w.nodup_walkChain head

end Workspace

end SolanaBlocks
