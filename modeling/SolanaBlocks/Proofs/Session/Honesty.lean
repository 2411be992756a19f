import SolanaBlocks.Proofs.Session.Interleaving

/-!
# What generated code belongs to

A generation on its way has its copy from a time when no edit was going on, and what it hands in is
the code of this copy under the revision of the copy. What comes on show has been handed in. So the
generated code on show is the code of the workspace as it stood between edits at the revision on
show, however generations, refinements and edits come between each other.
-/

namespace SolanaBlocks

/-- A page of generated code has been brought by a generation. -/
theorem Display.eq_generation_of_page? {step : Step} {p : Page} (brings : step.page? = some p)
    (generated : p.source = .generated) : step = .generation p.revision (.ok p.code) := by
  match step, brings with
  | .generation revision (.ok code), rfl => rfl
  | .refinement revision (.ok code), rfl => cases generated

namespace Interleaving

variable {e : Emitter} {pacing : Pacing} {w : Workspace} {s s' : State} {states : List State}

/-- The generation that a watcher is in the middle of. -/
def Phase.draft? : Phase → Option Draft
  | .generating draft => some draft
  | _ => none

/-- The generation that a task is in the middle of. -/
def Task.draft? : Task → Option Draft
  | .generation draft => some draft
  | .background watcher => watcher.phase.draft?
  | _ => none

/-! ## Turns -/

section Turns

variable {revision : Nat} {made : Except EmitError String} {news : List Display.Step}

theorem Draft.Turn.copy_eq {draft next : Draft} (turn : draft.Turn e pacing (some next) news) :
    next.copy = draft.copy := by
  cases turn
  rfl

theorem Draft.Turn.outcome {draft : Draft} {next : Option Draft}
    (turn : draft.Turn e pacing next news) (new : .generation revision made ∈ news) :
    draft.copy.revision = revision ∧ (e.generate pacing draft.copy).code = made := by
  cases turn with
  | pause copy pauses => cases new
  | publish copy =>
      cases List.mem_singleton.1 new
      exact ⟨rfl, rfl⟩

theorem Watcher.Turn.draft {watcher watcher' : Watcher}
    (turn : watcher.Turn e pacing s watcher' news) {draft : Draft}
    (drafting : watcher'.phase.draft? = some draft) :
    (∃ earlier, watcher.phase.draft? = some earlier ∧ draft.copy = earlier.copy) ∨
      s.lock = .free ∧ draft.copy = s.workspace := by
  cases turn with
  | begin settled free =>
      cases drafting
      exact .inr ⟨free, rfl⟩
  | @generate earlier next _ generating turn =>
      cases next with
      | none => cases drafting
      | some next =>
          cases drafting
          exact .inl ⟨earlier, congrArg Phase.draft? generating, turn.copy_eq⟩
  | _ => cases drafting

theorem Watcher.Turn.outcome {watcher watcher' : Watcher}
    (turn : watcher.Turn e pacing s watcher' news) (new : .generation revision made ∈ news) :
    ∃ draft, watcher.phase.draft? = some draft ∧ draft.copy.revision = revision ∧
      (e.generate pacing draft.copy).code = made := by
  cases turn with
  | @generate draft _ _ generating turn =>
      exact ⟨draft, congrArg Phase.draft? generating, turn.outcome new⟩
  | _ => cases new

/-- A generation in the middle of which a turn leaves a task was there before, or it begins on the
workspace as it stands. -/
theorem Task.Turn.draft {task : Task} {next : List Task} (turn : task.Turn e pacing s next news)
    {task' : Task} (left : task' ∈ next) {draft : Draft} (drafting : task'.draft? = some draft) :
    (∃ earlier, task.draft? = some earlier ∧ draft.copy = earlier.copy) ∨
      s.lock = .free ∧ draft.copy = s.workspace := by
  cases turn with
  | @generate earlier next _ turn =>
      cases next with
      | none => cases left
      | some next =>
          cases List.mem_singleton.1 left
          cases drafting
          exact .inl ⟨earlier, rfl, turn.copy_eq⟩
  | ask copy settings service instruction =>
      cases List.mem_singleton.1 left
      cases drafting
  | answer revision refinement => cases left
  | watch turn =>
      cases List.mem_singleton.1 left
      exact turn.draft drafting

/-- A generation hands in the code of its copy under the revision of its copy. -/
theorem Task.Turn.outcome {task : Task} {next : List Task} (turn : task.Turn e pacing s next news)
    (new : .generation revision made ∈ news) :
    ∃ draft, task.draft? = some draft ∧ draft.copy.revision = revision ∧
      (e.generate pacing draft.copy).code = made := by
  cases turn with
  | @generate draft _ _ turn => exact ⟨draft, rfl, turn.outcome new⟩
  | ask copy settings service instruction => cases new
  | answer revision refinement => cases List.mem_singleton.1 new
  | watch turn => exact turn.outcome new

end Turns

/-! ## Runs -/

/-- A workspace as it has stood at some time when no edit was going on. -/
def Stood (states : List State) (copy : Workspace) : Prop :=
  ∃ t ∈ states, t.lock = .free ∧ t.workspace = copy

variable (e pacing)

/-- An outcome of a generation belongs to a workspace that has stood at the revision. -/
def Belongs (states : List State) (revision : Nat) (outcome : Except EmitError String) : Prop :=
  ∃ copy, Stood states copy ∧ copy.revision = revision ∧ (e.generate pacing copy).code = outcome

/-- Every generation works on a copy of what has stood at some time, and what generations have
handed in belongs to such copies. -/
structure Faithful (states : List State) (s : State) : Prop where
  drafts : ∀ task ∈ s.tasks, ∀ draft, task.draft? = some draft → Stood states draft.copy
  outcomes : ∀ revision outcome, .generation revision outcome ∈ s.outcomes →
    Belongs e pacing states revision outcome

variable {e pacing}

theorem Stood.later {copy : Workspace} (stood : Stood states copy) (s : State) :
    Stood (s :: states) copy := by
  obtain ⟨t, known, free⟩ := stood
  exact ⟨t, List.mem_cons_of_mem s known, free⟩

theorem Belongs.later {revision : Nat} {outcome : Except EmitError String}
    (belongs : Belongs e pacing states revision outcome) (s : State) :
    Belongs e pacing (s :: states) revision outcome := by
  obtain ⟨copy, stood, same⟩ := belongs
  exact ⟨copy, stood.later s, same⟩

/-- What neither adds to the tasks nor to the outcomes breaks nothing. -/
theorem Faithful.later (faithful : Faithful e pacing states s) (tasks : s'.tasks = s.tasks)
    (outcomes : s'.outcomes = s.outcomes) : Faithful e pacing (s' :: states) s' where
  drafts task present draft drafting :=
    (faithful.drafts task (tasks ▸ present) draft drafting).later s'
  outcomes revision outcome present :=
    (faithful.outcomes revision outcome (outcomes ▸ present)).later s'

theorem Faithful.step (faithful : Faithful e pacing states s) (known : s ∈ states)
    (step : Step e pacing s s') : Faithful e pacing (s' :: states) s' := by
  have now (free : s.lock = .free) : Stood states s.workspace := ⟨s, known, free, rfl⟩
  cases step with
  | @begin task living begins =>
      constructor
      · intro other present draft drafting
        refine Stood.later ?_ _
        rcases List.mem_append.1 present with before | new
        · exact faithful.drafts other before draft drafting
        · cases List.mem_singleton.1 new
          cases begins with
          | generation free =>
              cases drafting
              exact now free
          | refinement free settings service instruction => cases drafting
          | background => cases drafting
      · exact fun revision outcome present =>
          (faithful.outcomes revision outcome present).later _
  | @turn before after next task news here turn =>
      have acting : task ∈ s.tasks := here ▸ List.mem_append_right before List.mem_cons_self
      constructor
      · intro other present draft drafting
        refine Stood.later ?_ _
        rcases mem_tasks_of_turn here present with before | left
        · exact faithful.drafts other before draft drafting
        · rcases turn.draft left drafting with ⟨earlier, drafting, same⟩ | ⟨free, same⟩
          · exact same ▸ faithful.drafts task acting earlier drafting
          · exact same ▸ now free
      · intro revision outcome present
        refine Belongs.later ?_ _
        rcases List.mem_append.1 present with before | new
        · exact faithful.outcomes revision outcome before
        · obtain ⟨draft, drafting, same⟩ := turn.outcome new
          exact ⟨draft.copy, faithful.drafts task acting draft drafting, same⟩
  | _ => exact faithful.later rfl rfl

theorem Run.faithful {past : List State} (run : Run e pacing w (s :: past)) :
    Faithful e pacing (s :: past) s :=
  run.invariant
    ⟨fun _ present => (List.not_mem_nil present).elim,
      fun _ _ present => (List.not_mem_nil present).elim⟩
    fun _ _ _ known faithful step => faithful.step known step

/-- As soon as there is a success, generated code on show belongs to a workspace that has stood at
the revision on show. -/
theorem Run.exists_stood {past : List State} (run : Run e pacing w (s :: past))
    (successes : Display.pages s.outcomes ≠ []) (generated : s.display.source = .generated) :
    ∃ t ∈ s :: past, t.lock = .free ∧ t.workspace.revision = s.display.revision ∧
      (e.generate pacing t.workspace).code = .ok s.display.code := by
  obtain ⟨step, handedIn, brings⟩ :=
    List.mem_filterMap.1 (Display.page_foldl_mem {} Display.page_new_yieldsTo successes)
  have shown : step = .generation s.display.revision (.ok s.display.code) :=
    Display.eq_generation_of_page? brings generated
  obtain ⟨_, ⟨t, known, free, rfl⟩, same, made⟩ :=
    run.faithful.outcomes _ _ (shown ▸ handedIn)
  exact ⟨t, known, free, same, made⟩

/-- Once a generation has succeeded, generated code on show is what a generation gives for the
workspace as it stood at the revision on show, at a time when no edit was going on; and whenever the
workspace is at this revision, in the middle of an edit or not, it holds the same. -/
theorem Run.code_of_generated {past : List State} (run : Run e pacing w (s :: past))
    {revision : Nat} {code : String} (success : .generation revision (.ok code) ∈ s.outcomes)
    (generated : s.display.source = .generated) :
    ∃ t ∈ s :: past, t.lock = .free ∧ t.workspace.revision = s.display.revision ∧
      (e.generate pacing t.workspace).code = .ok s.display.code ∧
      ∀ t' ∈ s :: past, t'.workspace.revision = s.display.revision →
        t.workspace.Unchanged t'.workspace := by
  have successes : Display.pages s.outcomes ≠ [] :=
    List.ne_nil_of_mem (List.mem_filterMap.2 ⟨_, success, rfl⟩)
  obtain ⟨t, known, free, same, made⟩ := run.exists_stood successes generated
  refine ⟨t, known, free, same, made, fun t' known' same' => ?_⟩
  exact run.unchanged known known' (same.trans same'.symm)

/-- While a generation pauses between two roots, an edit puts the second root first. What comes on
show is the code of the workspace before the edit. -/
theorem Run.code_of_generated_overtaken :
    let block (value : String) : Block :=
      { type := "logic_boolean", fields := Std.ExtTreeMap.insert ∅ "bool" (.text value) }
    let w : Workspace :=
      { palette := .standard
        blocks := Std.ExtTreeMap.insert (Std.ExtTreeMap.insert ∅ ⟨"a"⟩ (block "TRUE")) ⟨"b"⟩
          (block "FALSE")
        roots := [⟨"a"⟩, ⟨"b"⟩] }
    let e : Emitter := { palette := .standard }
    let pacing : Pacing := { batchSize := 1 }
    ∃ s past, Run e pacing w (s :: past) ∧ s.workspace.roots = [⟨"b"⟩, ⟨"a"⟩] ∧
      s.display.code = "true;\nfalse;\n" ∧
      ∃ t ∈ s :: past, t.lock = .free ∧ t.workspace.revision = s.display.revision ∧
        (e.generate pacing t.workspace).code = .ok s.display.code := by
  intro block w e pacing
  let swap : List Edit := [.moveRoot ⟨"b"⟩ 0]
  have made : (e.generate pacing w).code = .ok "true;\nfalse;\n" := by decide +kernel
  have pauses : draft e pacing w = ⟨w, 1⟩ := congrArg (Draft.mk w) (by decide +kernel)
  have changed : (afterEdits w swap).revision ≠ w.revision := by decide +kernel
  have swapped : (afterEdits w swap).roots = [⟨"b"⟩, ⟨"a"⟩] := by decide +kernel
  have copied : Run e pacing w
      [{ workspace := w, announced := 0, tasks := [.generation ⟨w, 1⟩] }, .start w] :=
    pauses ▸ .step .start (.begin rfl (.generation rfl))
  obtain ⟨past, edited⟩ := copied.edit_changed rfl rfl swap changed
  have paused := edited.step (.turn [] [] rfl (.generate (.pause w 0)))
  have run := paused.step (.turn [] [] rfl (.generate (.publish w)))
  have outcome : Display.Step.generation 0 (.ok "true;\nfalse;\n") =
      .generation w.revision (e.generate pacing w).code := by rw [made]
  have shown : Display.run [.generation w.revision (e.generate pacing w).code] =
      .showCode .generated 0 "true;\nfalse;\n" := by rw [made]; rfl
  obtain ⟨t, known, free, same, code, -⟩ :=
    code_of_generated run (List.mem_singleton.2 outcome) (congrArg Display.source shown)
  exact ⟨_, _, run, swapped, congrArg Display.code shown, t, known, free, same, code⟩

end Interleaving

end SolanaBlocks
