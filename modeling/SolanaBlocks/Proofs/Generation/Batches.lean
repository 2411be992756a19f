import SolanaBlocks.Generation

/-!
# Batches leave no trace

A generation walks a queue of all blocks that can be reached, cut into batches, and renders the
roots among them. The breadth-first queue holds every root once and in order, before anything that
is not a root comes up a second time, so what a generation renders is what one pass over the roots
renders. The size of the batches and the pauses between them do not matter.
-/

namespace SolanaBlocks

/-- Cutting a list into batches loses nothing. -/
theorem flatten_cutBatches {α : Type} (size : Nat) (list : List α) :
    (cutBatches size list).flatten = list := by
  induction list using cutBatches.induct size with
  | case1 => rw [cutBatches, List.flatten_nil]
  | case2 a rest ih =>
      rw [cutBatches, List.flatten_cons, ih, List.cons_append, List.take_append_drop]

namespace Workspace

variable {w : Workspace}

/-- A breadth-first walk never takes an id a second time. -/
theorem notMem_of_mem_breadthFirst {seen queue : List BlockId} {id : BlockId}
    (h : id ∈ w.breadthFirst seen queue) : id ∉ seen := by
  induction seen, queue using breadthFirst.induct w with
  | case1 seen => simp [breadthFirst] at h
  | case2 seen first queue met ih =>
      rw [breadthFirst, dif_pos met] at h
      exact ih h
  | case3 seen first queue new ih =>
      rw [breadthFirst, dif_neg new, List.mem_cons] at h
      rcases h with rfl | h
      · exact new
      · exact fun hs => ih h (List.mem_cons_of_mem first hs)

/-- A walk that starts with the roots not met so far takes exactly these among the roots, whatever
comes behind them in the queue. -/
theorem filter_isRoot_breadthFirst (seen fresh queue : List BlockId)
    (covered : ∀ root ∈ w.roots, root ∈ seen ∨ root ∈ fresh)
    (roots : ∀ id ∈ fresh, id ∈ w.roots) (new : ∀ id ∈ fresh, id ∉ seen) (distinct : fresh.Nodup) :
    (w.breadthFirst seen (fresh ++ queue)).filter w.isRoot = fresh := by
  induction fresh generalizing seen queue with
  | nil =>
      apply List.filter_eq_nil_iff.2
      intro id hid
      have met : id ∈ w.roots → id ∈ seen := by simpa using covered id
      simpa [isRoot] using fun root => notMem_of_mem_breadthFirst hid (met root)
  | cons first fresh ih =>
      obtain ⟨once, distinct⟩ := List.nodup_cons.1 distinct
      have isRoot_first : w.isRoot first = true := by
        simpa [isRoot] using roots first List.mem_cons_self
      rw [List.cons_append, breadthFirst, dif_neg (new first List.mem_cons_self),
        List.filter_cons_of_pos isRoot_first, List.append_assoc, ih]
      · intro root hroot
        rcases covered root hroot with h | h
        · exact .inl (List.mem_cons_of_mem first h)
        · rcases List.mem_cons.1 h with rfl | h
          · exact .inl List.mem_cons_self
          · exact .inr h
      · exact fun id hid => roots id (List.mem_cons_of_mem first hid)
      · intro id hid hseen
        rcases List.mem_cons.1 hseen with rfl | h
        · exact once hid
        · exact new id (List.mem_cons_of_mem first hid) h
      · exact distinct

/-- The roots stand in the work queue once each and in their order. -/
theorem filter_isRoot_workQueue (distinct : w.roots.Nodup) :
    w.workQueue.filter w.isRoot = w.roots := by
  have h := filter_isRoot_breadthFirst (w := w) [] w.roots []
    (fun _ h => .inr h) (fun _ h => h) (fun _ _ => List.not_mem_nil) distinct
  rwa [List.append_nil] at h

end Workspace

namespace Emitter

variable (e : Emitter) (w : Workspace)

/-- A pass over some roots and then over more of them goes on only if nothing has failed. -/
theorem renderRoots_append (ids more : List BlockId) :
    e.renderRoots w (ids ++ more) =
      match e.renderRoots w ids with
      | (rendered, some failure) => (rendered, some failure)
      | (rendered, none) =>
        (rendered ++ (e.renderRoots w more).1, (e.renderRoots w more).2) := by
  induction ids with
  | nil => rfl
  | cons id rest ih =>
      rw [List.cons_append, renderRoots, renderRoots, ih]
      cases e.emit w id with
      | error failure => rfl
      | ok fragment => rcases e.renderRoots w rest with ⟨rendered, _ | failure⟩ <;> rfl

/-- Batches render what a single pass over the roots in them renders. -/
theorem runBatches_eq_renderRoots (count done : Nat) (batches : List (List BlockId)) :
    let run := e.runBatches w count done batches
    (run.rendered, run.failure) = e.renderRoots w (batches.flatten.filter w.isRoot) := by
  induction batches generalizing done with
  | nil => rfl
  | cons batch rest ih =>
      rw [List.flatten_cons, List.filter_append, renderRoots_append, ← ih (done + 1), runBatches]
      rcases e.renderRoots w (batch.filter w.isRoot) with ⟨rendered, _ | failure⟩
      · cases rest with
        | nil => simp [runBatches]
        | cons next rest => rfl
      · rfl

/-- A pass over blocks fails exactly where one of them fails after others that did not. -/
theorem mapM_emitRoot_eq_error_iff (ids : List BlockId) {failure : EmitError} :
    ids.mapM (e.emitRoot w) = .error failure ↔
      ∃ before root after, ids = before ++ root :: after ∧
        (∀ earlier ∈ before, ∃ code, e.emitRoot w earlier = .ok code) ∧
        e.emitRoot w root = .error failure := by
  induction ids with
  | nil => simp [pure, Except.pure]
  | cons id rest ih =>
      rw [List.mapM_cons]
      constructor
      · intro h
        cases first : e.emitRoot w id with
        | error other =>
            rw [first] at h
            cases h
            exact ⟨[], id, rest, rfl, by simp, first⟩
        | ok code =>
            rw [first] at h
            cases later : rest.mapM (e.emitRoot w) with
            | error other =>
                rw [later] at h
                cases h
                obtain ⟨before, root, after, rfl, ok, fails⟩ := ih.1 later
                refine ⟨id :: before, root, after, rfl, ?_, fails⟩
                exact List.forall_mem_cons.2 ⟨⟨code, first⟩, ok⟩
            | ok codes =>
                rw [later] at h
                cases h
      · rintro ⟨before, root, after, split, ok, fails⟩
        cases before with
        | nil =>
            cases split
            rw [fails]
            rfl
        | cons earlier before =>
            cases split
            obtain ⟨⟨code, first⟩, ok⟩ := List.forall_mem_cons.1 ok
            rw [first, ih.2 ⟨before, root, after, rfl, ok, fails⟩]
            rfl

theorem emitDocument_eq_error_iff {failure : EmitError} :
    e.emitDocument w = .error failure ↔
      ∃ before root after, w.roots = before ++ root :: after ∧
        (∀ earlier ∈ before, ∃ code, e.emitRoot w earlier = .ok code) ∧
        e.emitRoot w root = .error failure := by
  rw [← mapM_emitRoot_eq_error_iff, emitDocument]
  cases w.roots.mapM (e.emitRoot w) <;> simp [Except.map]

/-- The code of a generation as its batches leave it, before the last pass that an empty document
asks for. -/
theorem code_generate_eq (pacing : Pacing) :
    let batches := cutBatches pacing.batchSize w.workQueue
    let run := e.runBatches w batches.length 0 batches
    (e.generate pacing w).code =
      match run.failure with
      | some failure => .error failure
      | none =>
        let code := assemble (run.rendered.map fun (_, fragment) => fragment.asRoot)
        if code.isEmpty then e.emitDocument w else .ok code := by
  intro batches run
  unfold generate
  dsimp only
  cases failed : run.failure with
  | some failure => rfl
  | none =>
      dsimp only
      split
      · cases e.emitDocument w <;> rfl
      · simp only [Generation.code, Except.map, run, batches]

/-- A generation gives what one pass over the roots gives: the same document, or the failure of the
first root that fails. -/
theorem code_generate (pacing : Pacing) (distinct : w.roots.Nodup) :
    (e.generate pacing w).code = e.emitDocument w ∧
      ∀ failure, (e.generate pacing w).code = .error failure ↔
        ∃ before root after, w.roots = before ++ root :: after ∧
          (∀ earlier ∈ before, ∃ code, e.emitRoot w earlier = .ok code) ∧
          e.emitRoot w root = .error failure := by
  have same : (e.generate pacing w).code = e.emitDocument w := by
    have rendered := e.runBatches_eq_renderRoots w (cutBatches pacing.batchSize w.workQueue).length 0
      (cutBatches pacing.batchSize w.workQueue)
    rw [flatten_cutBatches, Workspace.filter_isRoot_workQueue distinct] at rendered
    have pass := e.mapM_emitRoot w w.roots
    rw [← rendered] at pass
    have code := e.code_generate_eq w pacing
    dsimp only at code
    generalize e.runBatches w _ 0 _ = run at pass code
    rw [code, emitDocument, pass]
    cases run.failure with
    | some failure => rfl
    | none => exact ite_self _
  refine ⟨same, fun failure => ?_⟩
  rw [same]
  exact e.emitDocument_eq_error_iff w

/-- A number, and a negation that has been put into itself: the second root fails, also when every
batch is meant to have no blocks. -/
theorem code_generate_cyclic :
    let number : Block := { type := "math_number", fields := ∅ }
    let negation : Block :=
      { type := "logic_negate", fields := ∅, slots := Std.ExtTreeMap.insert ∅ "bool" (.single ⟨"b"⟩) }
    let w : Workspace :=
      { palette := .standard
        blocks := Std.ExtTreeMap.insert (Std.ExtTreeMap.insert ∅ ⟨"a"⟩ number) ⟨"b"⟩ negation
        roots := [⟨"a"⟩, ⟨"b"⟩] }
    let e : Emitter := { palette := .standard }
    w.roots.Nodup ∧ (e.generate { batchSize := 0 } w).code = e.emitDocument w := by
  intro number negation w e
  have distinct : w.roots.Nodup := by decide
  exact ⟨distinct, (code_generate e w { batchSize := 0 } distinct).1⟩

end Emitter

end SolanaBlocks
