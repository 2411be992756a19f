import SolanaBlocks.Proofs.Forest.Forest

/-!
# What is in the work queue

A breadth-first walk takes what waits in its queue, and then the children of what it has taken. So
the work queue holds the ids that can be reached from the roots and no others, whatever links and
slots refer to. Ids that belong to no block are among them, but nothing is reached through them.
-/

namespace SolanaBlocks

namespace Workspace

variable {w : Workspace} {seen queue : List BlockId} {owner id : BlockId}

/-- What waits is taken sooner or later, if it has not been taken before. -/
theorem mem_breadthFirst_of_mem (waits : id ∈ queue) :
    id ∈ seen ∨ id ∈ w.breadthFirst seen queue := by
  induction seen, queue using breadthFirst.induct w with
  | case1 seen => cases waits
  | case2 seen first queue met ih =>
      rw [breadthFirst, dif_pos met]
      rcases List.mem_cons.1 waits with rfl | later
      · exact .inl met
      · exact ih later
  | case3 seen first queue new ih =>
      rw [breadthFirst, dif_neg new, List.mem_cons]
      rcases List.mem_cons.1 waits with same | later
      · exact .inr (.inl same)
      · rcases ih (List.mem_append_left _ later) with met | taken
        · exact (List.mem_cons.1 met).elim (fun same => .inr (.inl same)) .inl
        · exact .inr (.inr taken)

/-- The children of what is taken are taken too. -/
theorem child_mem_breadthFirst (taken : owner ∈ w.breadthFirst seen queue)
    (child : id ∈ w.children owner) : id ∈ seen ∨ id ∈ w.breadthFirst seen queue := by
  induction seen, queue using breadthFirst.induct w with
  | case1 seen => simp [breadthFirst] at taken
  | case2 seen first queue met ih =>
      rw [breadthFirst, dif_pos met] at taken ⊢
      exact ih taken
  | case3 seen first queue new ih =>
      rw [breadthFirst, dif_neg new, List.mem_cons] at taken
      rw [breadthFirst, dif_neg new, List.mem_cons]
      have later : id ∈ first :: seen ∨
          id ∈ w.breadthFirst (first :: seen) (queue ++ w.children first) := by
        rcases taken with rfl | taken
        · exact mem_breadthFirst_of_mem (List.mem_append_right queue child)
        · exact ih taken
      rcases later with met | taken
      · exact (List.mem_cons.1 met).elim (fun same => .inr (.inl same)) .inl
      · exact .inr (.inr taken)

/-- What is true of all that waits, and of children with their owners, is true of all that is
taken. -/
theorem forall_mem_breadthFirst {P : BlockId → Prop} (waits : ∀ id ∈ queue, P id)
    (children : ∀ owner id, P owner → id ∈ w.children owner → P id) :
    ∀ id ∈ w.breadthFirst seen queue, P id := by
  induction seen, queue using breadthFirst.induct w with
  | case1 seen => simp [breadthFirst]
  | case2 seen first queue met ih =>
      rw [breadthFirst, dif_pos met]
      exact ih (List.forall_mem_cons.1 waits).2
  | case3 seen first queue new ih =>
      obtain ⟨here, later⟩ := List.forall_mem_cons.1 waits
      rw [breadthFirst, dif_neg new]
      refine List.forall_mem_cons.2 ⟨here, ih (List.forall_mem_append.2 ⟨later, ?_⟩)⟩
      exact fun id child => children first id here child

/-- The work queue holds what can be reached from the roots. -/
theorem mem_workQueue_iff : id ∈ w.workQueue ↔ w.Reachable id := by
  constructor
  · exact forall_mem_breadthFirst (P := w.Reachable) (fun _ => .root) (fun _ _ => .child) id
  · intro reached
    induction reached with
    | root top => exact (mem_breadthFirst_of_mem top).resolve_left List.not_mem_nil
    | child _ child ih => exact (child_mem_breadthFirst ih child).resolve_left List.not_mem_nil

end Workspace

end SolanaBlocks
