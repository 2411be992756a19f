import SolanaBlocks.Palette.Standard
import SolanaBlocks.Proofs.Generation.Batches
import SolanaBlocks.Proofs.Generation.Queue

/-!
# Levels of the work queue

How far an id is from the roots is told by the least number of steps from an owner to a child that
lead there. The breadth-first walk takes ids level by level: while it is on its way through one
level, its queue holds the rest of this level and then children that belong to the next one, so it
never comes back to an id that is nearer than what it has taken before.
-/

namespace SolanaBlocks

namespace Workspace

variable {w : Workspace} {n : Nat} {seen now next queue rest : List BlockId} {first id : BlockId}

/-- The ids that a number of steps from owner to child leads to, starting at a root. -/
inductive InSteps (w : Workspace) : Nat → BlockId → Prop
  | root {id : BlockId} : id ∈ w.roots → InSteps w 0 id
  | child {n : Nat} {owner id : BlockId} : InSteps w n owner → id ∈ w.children owner →
    InSteps w (n + 1) id

/-- The distance of an id from the roots: the least number of steps that lead to it. -/
def Distance (w : Workspace) (id : BlockId) (n : Nat) : Prop :=
  w.InSteps n id ∧ ∀ m, w.InSteps m id → n ≤ m

theorem reachable_iff_exists_inSteps : w.Reachable id ↔ ∃ n, w.InSteps n id := by
  constructor
  · intro reached
    induction reached with
    | root top => exact ⟨0, .root top⟩
    | child _ child ih =>
        obtain ⟨n, steps⟩ := ih
        exact ⟨n + 1, .child steps child⟩
  · rintro ⟨n, steps⟩
    induction steps with
    | root top => exact .root top
    | child _ child ih => exact .child ih child

/-- What can be reached has a distance. -/
theorem Reachable.exists_distance (reached : w.Reachable id) : ∃ n, w.Distance id n := by
  obtain ⟨n, steps⟩ := reachable_iff_exists_inSteps.1 reached
  induction n using Nat.strongRecOn with
  | ind n ih =>
      by_cases nearer : ∃ m < n, w.InSteps m id
      · obtain ⟨m, less, steps⟩ := nearer
        exact ih m less steps
      · exact ⟨n, steps, fun m steps => not_lt.1 fun less => nearer ⟨m, less, steps⟩⟩

/-! ## A walk on its way through a level -/

/-- A breadth-first walk on its way through level `n`. What is in fewer steps has been taken; the
rest of the level waits in `now`, and what has been found behind it in `next`. -/
structure Layered (w : Workspace) (n : Nat) (seen now next : List BlockId) : Prop where
  waiting : ∀ id ∈ now, w.InSteps n id
  found : ∀ id ∈ next, w.InSteps (n + 1) id
  nearer : ∀ m id, m < n → w.InSteps m id → id ∈ seen
  level : ∀ id, w.InSteps n id → id ∈ seen ∨ id ∈ now
  children : ∀ owner ∈ seen, ∀ id ∈ w.children owner, id ∈ seen ∨ id ∈ now ∨ id ∈ next

namespace Layered

theorem start (w : Workspace) : Layered w 0 [] w.roots [] where
  waiting _ root := .root root
  found := by simp
  nearer _ _ less := absurd less (Nat.not_lt_zero _)
  level id steps := by
    cases steps with
    | root top => exact .inr top
  children := by simp

/-- Once a level has been taken, the walk is on its way through the next one. -/
theorem advance (h : Layered w n seen [] next) : Layered w (n + 1) seen next [] where
  waiting := h.found
  found := by simp
  nearer m id less steps := by
    rcases Nat.lt_succ_iff_lt_or_eq.1 less with less | rfl
    · exact h.nearer m id less steps
    · exact (h.level id steps).resolve_right List.not_mem_nil
  level id steps := by
    cases steps with
    | child steps child =>
        have taken := (h.level _ steps).resolve_right List.not_mem_nil
        rcases h.children _ taken id child with met | none | waits
        · exact .inl met
        · cases none
        · exact .inr waits
  children owner taken id child := by
    rcases h.children owner taken id child with met | none | waits
    · exact .inl met
    · cases none
    · exact .inr (.inl waits)

/-- The first id of the queue belongs to the level that the walk is on its way through. -/
theorem front (h : Layered w n seen now next) (split : now ++ next = first :: rest) :
    ∃ n now' next', Layered w n seen (first :: now') next' ∧ rest = now' ++ next' := by
  cases now with
  | nil =>
      rw [List.nil_append] at split
      exact ⟨n + 1, rest, [], split ▸ h.advance, (List.append_nil rest).symm⟩
  | cons id now =>
      obtain ⟨rfl, rfl⟩ := List.cons_eq_cons.1 split
      exact ⟨n, now, next, h, rfl⟩

/-- An id that has been met before is passed over. -/
theorem skip (h : Layered w n seen (id :: now) next) (met : id ∈ seen) :
    Layered w n seen now next where
  waiting other waits := h.waiting other (List.mem_cons_of_mem id waits)
  found := h.found
  nearer := h.nearer
  level other steps := by
    rcases h.level other steps with taken | waits
    · exact .inl taken
    · rcases List.mem_cons.1 waits with rfl | waits
      · exact .inl met
      · exact .inr waits
  children owner taken other child := by
    rcases h.children owner taken other child with taken | waits | found
    · exact .inl taken
    · rcases List.mem_cons.1 waits with rfl | waits
      · exact .inl met
      · exact .inr (.inl waits)
    · exact .inr (.inr found)

/-- An id that is taken leaves its children behind what has been found before. -/
theorem take (h : Layered w n seen (id :: now) next) :
    Layered w n (id :: seen) now (next ++ w.children id) where
  waiting other waits := h.waiting other (List.mem_cons_of_mem id waits)
  found := List.forall_mem_append.2
    ⟨h.found, fun _ child => .child (h.waiting id List.mem_cons_self) child⟩
  nearer m other less steps := List.mem_cons_of_mem id (h.nearer m other less steps)
  level other steps := by
    rcases h.level other steps with taken | waits
    · exact .inl (List.mem_cons_of_mem id taken)
    · rcases List.mem_cons.1 waits with rfl | waits
      · exact .inl List.mem_cons_self
      · exact .inr waits
  children owner taken other child := by
    rcases List.mem_cons.1 taken with rfl | taken
    · exact .inr (.inr (List.mem_append_right next child))
    · rcases h.children owner taken other child with taken | waits | found
      · exact .inl (List.mem_cons_of_mem id taken)
      · rcases List.mem_cons.1 waits with rfl | waits
        · exact .inl List.mem_cons_self
        · exact .inr (.inl waits)
      · exact .inr (.inr (List.mem_append_left _ found))

/-- No id that is still to be taken is nearer than the level. -/
theorem le_of_mem_breadthFirst (h : Layered w n seen now next)
    (later : id ∈ w.breadthFirst seen queue) {m : Nat} (steps : w.InSteps m id) : n ≤ m :=
  not_lt.1 fun less => notMem_of_mem_breadthFirst later (h.nearer m id less steps)

/-- From here on ids are taken in the order of their distances. -/
theorem pairwise_distance (h : Layered w n seen now next) :
    (w.breadthFirst seen (now ++ next)).Pairwise fun a b =>
      ∀ m k, w.Distance a m → w.Distance b k → m ≤ k := by
  generalize split : now ++ next = queue
  induction seen, queue using breadthFirst.induct w generalizing n now next with
  | case1 seen => simp [breadthFirst]
  | case2 seen first queue met ih =>
      obtain ⟨n, now', next', layered, rfl⟩ := h.front split
      rw [breadthFirst, dif_pos met]
      exact ih (layered.skip met) rfl
  | case3 seen first queue new ih =>
      obtain ⟨n, now', next', layered, rfl⟩ := h.front split
      have later := layered.take
      rw [breadthFirst, dif_neg new, List.pairwise_cons]
      refine ⟨fun other taken m k near far => ?_, ih later (List.append_assoc ..).symm⟩
      calc
        m ≤ n := near.2 n (layered.waiting first List.mem_cons_self)
        n ≤ k := later.le_of_mem_breadthFirst taken far.1

end Layered

/-! ## The work queue -/

theorem nodup_breadthFirst (seen queue : List BlockId) : (w.breadthFirst seen queue).Nodup := by
  induction seen, queue using breadthFirst.induct w with
  | case1 seen => simp [breadthFirst]
  | case2 seen first queue met ih => rwa [breadthFirst, dif_pos met]
  | case3 seen first queue new ih =>
      rw [breadthFirst, dif_neg new]
      refine List.nodup_cons.2 ⟨fun again => ?_, ih⟩
      exact notMem_of_mem_breadthFirst again List.mem_cons_self

/-- What waits first is taken first, without the ids that have been met before. -/
theorem eraseDups_prefix_breadthFirst (seen fresh queue : List BlockId) :
    (fresh.filter (· ∉ seen)).eraseDups <+: w.breadthFirst seen (fresh ++ queue) := by
  induction fresh generalizing seen queue with
  | nil => exact List.nil_prefix
  | cons first fresh ih =>
      rw [List.cons_append, breadthFirst]
      by_cases met : first ∈ seen
      · rw [dif_pos met, List.filter_cons_of_neg (by simpa using met)]
        exact ih seen queue
      · have others : (fresh.filter (· ∉ seen)).filter (fun other => !other == first) =
            fresh.filter (· ∉ first :: seen) := by
          rw [List.filter_filter]
          refine List.filter_congr fun other _ => ?_
          by_cases same : other = first <;> simp [same]
        rw [dif_neg met, List.filter_cons_of_pos (by simpa using met), List.eraseDups_cons, others,
          List.append_assoc, List.prefix_cons_inj]
        exact ih (first :: seen) (queue ++ w.children first)

/-- In a forest nothing can be reached but blocks. -/
theorem Forest.contains_of_reachable (h : Forest w) (reached : w.Reachable id) :
    w.contains id = true := by
  cases reached with
  | root top => exact ((h.mem_roots id).1 top).1
  | child _ child =>
      obtain ⟨slot, content, held, hid⟩ := mem_children_iff.1 child
      exact h.member_alive _ content held id hid

/-- Whatever the links and slots refer to, the work queue is in breadth-first order: it lists what
can be reached from the roots, each id once, the distinct roots first and in their order, and then
no id before one that is nearer to them. In a workspace that edits lead to, that is every block. -/
theorem workQueue_by_distance (w : Workspace) :
    w.workQueue.Nodup ∧ (∀ id, id ∈ w.workQueue ↔ w.Reachable id) ∧
      w.roots.eraseDups <+: w.workQueue ∧ (∀ id ∈ w.workQueue, ∃ n, w.Distance id n) ∧
      (w.workQueue.Pairwise fun a b => ∀ m n, w.Distance a m → w.Distance b n → m ≤ n) ∧
      ∀ palette, Reached palette w → w.workQueue.Perm w.ids := by
  have distinct : w.workQueue.Nodup := nodup_breadthFirst [] w.roots
  have first := eraseDups_prefix_breadthFirst (w := w) [] w.roots []
  have sorted := (Layered.start w).pairwise_distance
  rw [List.append_nil] at first sorted
  refine ⟨distinct, fun _ => mem_workQueue_iff, by simpa [workQueue] using first,
    fun id taken => (mem_workQueue_iff.1 taken).exists_distance, sorted, fun palette run => ?_⟩
  have forest := run.orderly.forest
  refine (List.perm_ext_iff_of_nodup distinct w.blocks.nodup_keys).2 fun id => ?_
  rw [mem_workQueue_iff]
  constructor
  · intro reached
    exact mem_ids.2 (contains_iff.1 (forest.contains_of_reachable reached))
  · intro alive
    exact forest.reachable id (contains_iff.2 (mem_ids.1 alive))

/-- A loop inside a loop comes after the block behind the outer one, and that after both
instructions. -/
theorem workQueue_by_distance_loops :
    let edits : List Edit := [
      .create (some ⟨"f"⟩) "process_instruction" [],
      .create (some ⟨"a"⟩) "controls_while" [],
      .create (some ⟨"b"⟩) "controls_while" [],
      .create (some ⟨"c"⟩) "controls_while" [],
      .bind ⟨"f"⟩ "body" (.chain [⟨"a"⟩, ⟨"b"⟩]),
      .bind ⟨"a"⟩ "do" (.chain [⟨"c"⟩]),
      .create (some ⟨"g"⟩) "process_instruction" []]
    let w : Workspace := edits.foldl (fun w edit => (w.apply edit).1) { palette := .standard }
    Reached .standard w ∧ w.workQueue = [⟨"f"⟩, ⟨"g"⟩, ⟨"a"⟩, ⟨"b"⟩, ⟨"c"⟩] ∧
      w.workQueue.Perm w.ids := by
  intro edits w
  have run : Reached .standard w := Reached.empty.foldl (by decide)
  obtain ⟨-, -, -, -, -, all⟩ := workQueue_by_distance w
  exact ⟨run, by decide +kernel, all .standard run⟩

end Workspace

end SolanaBlocks
