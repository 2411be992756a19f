import Mathlib.Algebra.Order.Floor.Div
import SolanaBlocks.Proofs.Generation.Batches
import SolanaBlocks.Proofs.Generation.Levels

/-!
# The accounts of a generation

What a generation reports, and how long it takes, can be told without running it: from the length of
the work queue, the size of the batches, and how many roots come before the first that fails. There is
a pause between any two batches and none behind the last. As the roots stand at the front of the queue,
the place of a root among the roots says which batch it is in.
-/

namespace SolanaBlocks

/-! ## Batches -/

theorem cutBatches_eq {α : Type} (size : Nat) {list : List α} (some : list ≠ []) :
    cutBatches size list =
      list.take (max size 1) :: cutBatches size (list.drop (max size 1)) := by
  obtain ⟨a, rest, rfl⟩ := List.exists_cons_of_ne_nil some
  have size_eq : max size 1 = size - 1 + 1 := by omega
  rw [cutBatches, size_eq, List.take_succ_cons, List.drop_succ_cons]

/-- One batch less is needed for what the first one leaves. -/
theorem sub_ceilDiv_add_one {n size : Nat} (some : 0 < n) (positive : 0 < size) :
    (n - size) ⌈/⌉ size + 1 = n ⌈/⌉ size := by
  refine eq_of_forall_ge_iff fun c => ?_
  rw [ceilDiv_le_iff_le_mul positive]
  cases c with
  | zero => omega
  | succ c =>
      rw [Nat.add_le_add_iff_right, ceilDiv_le_iff_le_mul positive, Nat.mul_succ,
        Nat.sub_le_iff_le_add]

theorem length_cutBatches {α : Type} (size : Nat) (list : List α) :
    (cutBatches size list).length = list.length ⌈/⌉ max size 1 := by
  induction list using cutBatches.induct size with
  | case1 => simp [cutBatches]
  | case2 a rest ih =>
      have size_eq : max size 1 = size - 1 + 1 := by omega
      have some : 0 < (a :: rest).length := Nat.succ_pos _
      rw [cutBatches, List.length_cons, ih, List.length_drop,
        ← sub_ceilDiv_add_one some (by omega), List.length_cons, size_eq, Nat.add_sub_add_right]

namespace Workspace

variable {w : Workspace}

/-- What waits first is taken first, if it has not been met before. -/
theorem prefix_breadthFirst {seen fresh : List BlockId} (queue : List BlockId)
    (distinct : fresh.Nodup) (new : ∀ id ∈ fresh, id ∉ seen) :
    fresh <+: w.breadthFirst seen (fresh ++ queue) := by
  induction fresh generalizing seen queue with
  | nil => exact List.nil_prefix
  | cons first fresh ih =>
      obtain ⟨once, distinct⟩ := List.nodup_cons.1 distinct
      rw [List.cons_append, breadthFirst, dif_neg (new first List.mem_cons_self),
        List.append_assoc, List.prefix_cons_inj]
      refine ih _ distinct fun id later met => ?_
      rcases List.mem_cons.1 met with rfl | met
      · exact once later
      · exact new id (List.mem_cons_of_mem first later) met

/-- The roots stand at the front of the work queue. -/
theorem roots_prefix_workQueue (distinct : w.roots.Nodup) : w.roots <+: w.workQueue := by
  have new : ∀ root ∈ w.roots, root ∉ ([] : List BlockId) := fun _ _ => List.not_mem_nil
  have front := w.prefix_breadthFirst [] distinct new
  rwa [List.append_nil] at front

end Workspace

namespace Emitter

variable (e : Emitter) (w : Workspace)

/-! ## Runs -/

/-- A pass over roots that comes to its end has rendered all of them. -/
theorem renderRoots_ok {ids : List BlockId} (ok : (e.renderRoots w ids).2 = none) :
    (e.renderRoots w ids).1.map Prod.fst = ids := by
  induction ids with
  | nil => rfl
  | cons id rest ih =>
      rw [renderRoots] at ok ⊢
      cases emitted : e.emit w id with
      | error failure =>
          rw [emitted] at ok
          cases ok
      | ok fragment =>
          rw [emitted] at ok
          exact congrArg (id :: ·) (ih ok)

theorem renderRoots_ok_iff (ids : List BlockId) :
    (e.renderRoots w ids).2 = none ↔ ∀ id ∈ ids, ∃ fragment, e.emit w id = .ok fragment := by
  induction ids with
  | nil => simp [renderRoots]
  | cons id rest ih =>
      rw [renderRoots, List.forall_mem_cons, ← ih]
      cases e.emit w id <;> simp

/-- A pass over roots fails at the first root that fails. -/
theorem renderRoots_error {ids : List BlockId} {failure : EmitError}
    (failed : (e.renderRoots w ids).2 = some failure) :
    ∃ before root after, ids = before ++ root :: after ∧
      (e.renderRoots w before).2 = none ∧ e.emit w root = .error failure := by
  induction ids with
  | nil => cases failed
  | cons id rest ih =>
      rw [renderRoots] at failed
      cases emitted : e.emit w id with
      | error other =>
          rw [emitted] at failed
          cases failed
          exact ⟨[], id, rest, rfl, rfl, emitted⟩
      | ok fragment =>
          rw [emitted] at failed
          obtain ⟨before, root, after, rfl, ok, fails⟩ := ih failed
          refine ⟨id :: before, root, after, rfl, ?_, fails⟩
          rw [renderRoots, emitted]
          exact ok

/-- A pass over some roots and then over more comes to its end if both parts do. -/
theorem renderRoots_append_ok_iff (ids more : List BlockId) :
    (e.renderRoots w (ids ++ more)).2 = none ↔
      (e.renderRoots w ids).2 = none ∧ (e.renderRoots w more).2 = none := by
  rw [renderRoots_append]
  rcases e.renderRoots w ids with ⟨rendered, _ | failure⟩ <;> simp

variable {e w} {count done : Nat} {batch : List BlockId} {rest : List (List BlockId)}

theorem runBatches_cons_error {failure : EmitError}
    (failed : (e.renderRoots w (batch.filter w.isRoot)).2 = some failure) :
    (e.runBatches w count done (batch :: rest)).pauses = done ∧
      (e.runBatches w count done (batch :: rest)).failure = some failure := by
  rw [runBatches]
  generalize e.renderRoots w (batch.filter w.isRoot) = pass at failed
  obtain ⟨rendered, _⟩ := pass
  cases failed
  exact ⟨rfl, rfl⟩

/-- There is a pause behind a batch if another one follows. -/
theorem runBatches_cons_ok (ok : (e.renderRoots w (batch.filter w.isRoot)).2 = none) :
    (e.runBatches w count done (batch :: rest)).pauses =
        (if rest = [] then done else (e.runBatches w count (done + 1) rest).pauses) ∧
      (e.runBatches w count done (batch :: rest)).failure =
        (e.runBatches w count (done + 1) rest).failure := by
  rw [runBatches]
  generalize e.renderRoots w (batch.filter w.isRoot) = pass at ok
  obtain ⟨rendered, _⟩ := pass
  cases ok
  cases rest with
  | nil => exact ⟨rfl, rfl⟩
  | cons next rest => exact ⟨rfl, rfl⟩

theorem pauses_runBatches_ok {batches : List (List BlockId)} (some : batches ≠ [])
    (ok : (e.runBatches w count done batches).failure = none) :
    (e.runBatches w count done batches).pauses = done + (batches.length - 1) := by
  induction batches generalizing done with
  | nil => exact absurd rfl some
  | cons batch rest ih =>
      cases pass : (e.renderRoots w (batch.filter w.isRoot)).2 with
      | some failure =>
          rw [(runBatches_cons_error pass).2] at ok
          cases ok
      | none =>
          rw [(runBatches_cons_ok pass).2] at ok
          rw [(runBatches_cons_ok pass).1]
          cases rest with
          | nil => rfl
          | cons next rest =>
              rw [if_neg (List.cons_ne_nil next rest), ih (List.cons_ne_nil next rest) ok]
              simp only [List.length_cons]
              omega

/-- A failure comes after the pauses behind the batches that are full before it. -/
theorem pauses_runBatches_error (size : Nat) {before after : List BlockId} {root : BlockId}
    {failure : EmitError} (top : w.isRoot root = true)
    (ok : (e.renderRoots w (before.filter w.isRoot)).2 = none)
    (fails : e.emit w root = .error failure) :
    (e.runBatches w count done (cutBatches size (before ++ root :: after))).pauses =
      done + before.length / max size 1 := by
  induction length : before.length using Nat.strongRecOn generalizing before done with
  | _ n ih =>
      subst length
      have some : before ++ root :: after ≠ [] := by simp
      rw [cutBatches_eq size some]
      rcases Nat.lt_or_ge before.length (max size 1) with here | later
      · -- the root is in the first batch
        obtain ⟨others, batch⟩ : ∃ others,
            (before ++ root :: after).take (max size 1) = before ++ root :: others := by
          obtain ⟨more, size_eq⟩ := Nat.exists_eq_add_of_lt here
          refine ⟨after.take more, ?_⟩
          rw [size_eq, Nat.add_assoc, List.take_length_add_append, List.take_succ_cons]
        have failed : (e.renderRoots w ((before ++ root :: others).filter w.isRoot)).2 =
            .some failure := by
          rw [List.filter_append, List.filter_cons_of_pos top, renderRoots_append]
          generalize e.renderRoots w (before.filter w.isRoot) = pass at ok
          obtain ⟨rendered, _⟩ := pass
          cases ok
          simp only [renderRoots, fails]
        rw [batch, (runBatches_cons_error failed).1, Nat.div_eq_of_lt here, Nat.add_zero]
      · -- the first batch is full before the root comes
        have batch : (before ++ root :: after).take (max size 1) = before.take (max size 1) :=
          List.take_append_of_le_length later
        have others : (before ++ root :: after).drop (max size 1) =
            before.drop (max size 1) ++ root :: after := List.drop_append_of_le_length later
        rw [← List.take_append_drop (max size 1) before, List.filter_append,
          renderRoots_append_ok_iff] at ok
        have more : cutBatches size (before.drop (max size 1) ++ root :: after) ≠ [] := by
          rw [cutBatches_eq size (by simp)]
          exact List.cons_ne_nil _ _
        have positive : 0 < max size 1 := by omega
        rw [batch, others, (runBatches_cons_ok ok.1).1, if_neg more,
          ih (before.length - max size 1) (by omega) ok.2 (List.length_drop ..), Nat.add_assoc,
          Nat.add_comm 1, ← Nat.div_eq_sub_div positive later]

/-! ## Generations -/

variable (e w) (pacing : Pacing)

/-- The batches of a generation, run to their end or to the first failure. -/
def batchRun : BatchRun :=
  let batches := cutBatches pacing.batchSize w.workQueue
  e.runBatches w batches.length 0 batches

/-- The batches render what one pass over the roots renders. -/
theorem batchRun_eq (distinct : w.roots.Nodup) :
    ((e.batchRun w pacing).rendered, (e.batchRun w pacing).failure) = e.renderRoots w w.roots := by
  have rendered := e.runBatches_eq_renderRoots w (cutBatches pacing.batchSize w.workQueue).length 0
    (cutBatches pacing.batchSize w.workQueue)
  rwa [flatten_cutBatches, Workspace.filter_isRoot_workQueue distinct] at rendered

/-- A document that is empty after the batches stays so, as the last pass gives the same. -/
theorem emitDocument_of_batchRun (distinct : w.roots.Nodup)
    (ok : (e.batchRun w pacing).failure = none) :
    e.emitDocument w =
      .ok (assemble ((e.batchRun w pacing).rendered.map fun (_, fragment) => fragment.asRoot)) := by
  have pass := e.mapM_emitRoot w w.roots
  rw [← e.batchRun_eq w pacing distinct, ok] at pass
  rw [emitDocument, pass]
  rfl

variable {e w pacing}

theorem generate_of_failure {failure : EmitError}
    (failed : (e.batchRun w pacing).failure = some failure) :
    (e.generate pacing w).outcome = .error failure ∧
      (e.generate pacing w).pauses = (e.batchRun w pacing).pauses := by
  unfold batchRun at failed ⊢
  unfold generate
  dsimp only at failed ⊢
  rw [failed]
  exact ⟨rfl, rfl⟩

/-- A generation without a failure takes the last pass over the roots exactly if the document is
empty, and that pass leaves it empty. -/
theorem generate_of_ok (distinct : w.roots.Nodup) (ok : (e.batchRun w pacing).failure = none) :
    ∃ code, (e.generate pacing w).outcome =
        .ok (code,
          { blocks := w.workQueue.length
            batches := (cutBatches pacing.batchSize w.workQueue).length
            roots := w.roots.length
            usedFallback := code.isEmpty }) ∧
      (e.generate pacing w).pauses = (e.batchRun w pacing).pauses := by
  have document := e.emitDocument_of_batchRun w pacing distinct ok
  have all : (e.batchRun w pacing).rendered.length = w.roots.length := by
    have pass := e.batchRun_eq w pacing distinct
    rw [ok] at pass
    have fine : (e.renderRoots w w.roots).2 = none := by rw [← pass]
    rw [← e.renderRoots_ok w fine, ← pass, List.length_map]
  generalize hrun : e.batchRun w pacing = run at ok document all ⊢
  unfold batchRun at hrun
  unfold generate
  dsimp only at hrun ⊢
  rw [hrun, ok]
  dsimp only
  split
  · next empty =>
      rw [document]
      exact ⟨_, by rw [all, empty], rfl⟩
  · next filled =>
      have filled := Bool.eq_false_iff.2 filled
      exact ⟨_, by rw [all, filled], rfl⟩

theorem pauses_batchRun_ok (ok : (e.batchRun w pacing).failure = none) :
    (e.batchRun w pacing).pauses = (cutBatches pacing.batchSize w.workQueue).length - 1 := by
  unfold batchRun at ok ⊢
  dsimp only at ok ⊢
  generalize cutBatches pacing.batchSize w.workQueue = batches at ok ⊢
  cases batches with
  | nil => rfl
  | cons batch rest => rw [pauses_runBatches_ok (List.cons_ne_nil batch rest) ok, Nat.zero_add]

/-- The place of the first root that fails, among the roots, is its place in the queue. -/
theorem pauses_batchRun_error (distinct : w.roots.Nodup) {before after : List BlockId}
    {root : BlockId} {failure : EmitError} (split : w.roots = before ++ root :: after)
    (ok : (e.renderRoots w before).2 = none) (fails : e.emit w root = .error failure) :
    (e.batchRun w pacing).pauses = before.length / max pacing.batchSize 1 := by
  obtain ⟨rest, queue⟩ := Workspace.roots_prefix_workQueue distinct
  have tops : ∀ id ∈ before ++ root :: after, w.isRoot id = true :=
    fun id top => by simpa [Workspace.isRoot, split] using top
  obtain ⟨above, others⟩ := List.forall_mem_append.1 tops
  have top := others root List.mem_cons_self
  rw [← List.filter_eq_self.2 above] at ok
  rw [batchRun, ← queue, split, List.append_assoc, List.cons_append,
    pauses_runBatches_error pacing.batchSize top ok fails, Nat.zero_add]

/-- The report of a generation and the time it takes can be told beforehand. A generation that
succeeds reports the length of the work queue, as many batches as it takes to hold the queue, and all
roots; it has gone over the roots once more exactly if the document is empty; and there is a pause
between any two batches. One that fails does so at the first root that fails, after the pauses behind
the batches that are full before this root comes. A batch size of zero counts as one, and no single
pause takes more than thirty years. -/
theorem generate_adds_up (e : Emitter) (pacing : Pacing) (w : Workspace) (distinct : w.roots.Nodup) :
    let size := max pacing.batchSize 1
    let pause := min pacing.batchDelay (30 * 365 * 24 * 60 * 60 * 1000)
    (∀ code report, (e.generate pacing w).outcome = .ok (code, report) →
      report.blocks = w.workQueue.length ∧
      report.batches = w.workQueue.length ⌈/⌉ size ∧
      report.roots = w.roots.length ∧
      (report.usedFallback = true ↔ code = "") ∧
      (e.generate pacing w).duration pacing = pause * (report.batches - 1)) ∧
    ∀ failure, (e.generate pacing w).outcome = .error failure →
      ∃ before root after, w.roots = before ++ root :: after ∧
        (∀ earlier ∈ before, ∃ fragment, e.emit w earlier = .ok fragment) ∧
        e.emit w root = .error failure ∧
        (e.generate pacing w).duration pacing = pause * (before.length / size) := by
  intro size pause
  have duration : (e.generate pacing w).duration pacing = pause * (e.generate pacing w).pauses :=
    Nat.mul_comm _ _
  rw [duration]
  cases failed : (e.batchRun w pacing).failure with
  | none =>
      obtain ⟨code, outcome, pauses⟩ := generate_of_ok distinct failed
      rw [outcome, pauses]
      refine ⟨fun code' report same => ?_, fun failure wrong => nomatch wrong⟩
      cases same
      exact ⟨rfl, length_cutBatches _ _, rfl, String.isEmpty_iff,
        congrArg (pause * ·) (pauses_batchRun_ok failed)⟩
  | some failure =>
      obtain ⟨outcome, pauses⟩ := generate_of_failure failed
      rw [outcome, pauses]
      refine ⟨fun code report wrong => (nomatch wrong), fun failure' same => ?_⟩
      cases same
      have pass : (e.renderRoots w w.roots).2 = some failure := by
        rw [← e.batchRun_eq w pacing distinct, failed]
      obtain ⟨before, root, after, split, ok, fails⟩ := e.renderRoots_error w pass
      exact ⟨before, root, after, split, (e.renderRoots_ok_iff w before).1 ok, fails,
        congrArg (pause * ·) (pauses_batchRun_error distinct split ok fails)⟩

/-- Three numbers, and a negation that has been put into itself, in batches of two: the fourth root
fails, in the second batch. -/
theorem generate_adds_up_cyclic :
    let number : Block := { type := "math_number", fields := ∅ }
    let negation : Block :=
      { type := "logic_negate", fields := ∅, slots := Std.ExtTreeMap.insert ∅ "bool" (.single ⟨"d"⟩) }
    let w : Workspace :=
      { palette := .standard
        blocks := ((Std.ExtTreeMap.insert ∅ ⟨"a"⟩ number).insert ⟨"b"⟩ number |>.insert ⟨"c"⟩ number)
          |>.insert ⟨"d"⟩ negation
        roots := [⟨"a"⟩, ⟨"b"⟩, ⟨"c"⟩, ⟨"d"⟩] }
    let e : Emitter := { palette := .standard }
    let pacing : Pacing := { batchSize := 2, batchDelay := 10 }
    w.roots.Nodup ∧ (e.generate pacing w).outcome = .error (.cyclic ⟨"d"⟩) ∧
      (e.generate pacing w).duration pacing = 10 ∧
      ∃ before root after, w.roots = before ++ root :: after ∧
        (∀ earlier ∈ before, ∃ fragment, e.emit w earlier = .ok fragment) ∧
        e.emit w root = .error (.cyclic ⟨"d"⟩) ∧
        (e.generate pacing w).duration pacing = 10 * (before.length / 2) := by
  intro number negation w e pacing
  have distinct : w.roots.Nodup := by decide
  have outcome : (e.generate pacing w).outcome = .error (.cyclic ⟨"d"⟩) := by decide +kernel
  have duration : (e.generate pacing w).duration pacing = 10 := by decide +kernel
  exact ⟨distinct, outcome, duration, (generate_adds_up e pacing w distinct).2 _ outcome⟩

/-- A pause that is meant to take a moment longer than thirty years does not. -/
theorem duration_generate_lt :
    let w : Workspace :=
      { palette := .standard
        blocks := (Std.ExtTreeMap.insert ∅ ⟨"a"⟩ { type := "text", fields := ∅ }).insert ⟨"b"⟩
          { type := "text", fields := ∅ }
        roots := [⟨"a"⟩, ⟨"b"⟩] }
    let e : Emitter := { palette := .standard }
    let pacing : Pacing := { batchSize := 1, batchDelay := 946080000001 }
    w.roots.Nodup ∧ ∃ code report, (e.generate pacing w).outcome = .ok (code, report) ∧
      (e.generate pacing w).duration pacing < pacing.batchDelay * (report.batches - 1) := by
  intro w e pacing
  have outcome : (e.generate pacing w).outcome =
      .ok ("\"\";\n\"\";\n", { blocks := 2, batches := 2, roots := 2 }) := by decide +kernel
  exact ⟨by decide, _, _, outcome, by decide +kernel⟩

end Emitter

end SolanaBlocks
