import SolanaBlocks.Proofs.Session.Honesty

/-!
# What refined code belongs to

A refinement copies the workspace when it is called for, and takes the code on display when it asks.
Its outcome goes under the revision of the copy. The blocks in a request are thus those of the
revision that the outcome goes under, while the code may lag behind: the display has not come to this
revision yet if the workspace has been edited and no generation has ended since.

The display never goes back. So if the outcome is accepted, the code was not ahead of the blocks, and
it belonged to the same revision if the display had come to it when the refinement was called for.
-/

namespace SolanaBlocks

/-- A page of refined code has been brought by a refinement. -/
theorem Display.eq_refinement_of_page? {step : Step} {p : Page} (brings : step.page? = some p)
    (refined : p.source = .refined) : step = .refinement p.revision (.ok p.code) := by
  match step, brings with
  | .generation revision (.ok code), rfl => cases refined
  | .refinement revision (.ok code), rfl => rfl

namespace Interleaving

variable {e : Emitter} {pacing : Pacing} {w : Workspace} {s s' : State} {states past : List State}
  {revision : Nat} {refinement : Refinement}

/-- A refinement was called for at one time and asked for at the same time or later: its request has
the blocks of the workspace from when it was called for, at a revision, when no edit was going on,
and the code that was on display when it asked. -/
structure Origin (states : List State) (revision : Nat) (refinement : Refinement)
    (called asked : State) : Prop where
  order : ∃ earlier, asked :: earlier <:+ states ∧ called ∈ asked :: earlier
  free : called.lock = .free
  revision : called.workspace.revision = revision
  request : ∃ settings service instruction, refinement =
    refine settings service called.workspace.exportRoots.1 (some asked.display.code) instruction

/-- A refinement that has been asked for in the course of a run. -/
def Asked (states : List State) (revision : Nat) (refinement : Refinement) : Prop :=
  ∃ called asked, Origin states revision refinement called asked

theorem Asked.later (asked : Asked states revision refinement) (s : State) :
    Asked (s :: states) revision refinement := by
  obtain ⟨called, asked, origin⟩ := asked
  obtain ⟨earlier, since, before⟩ := origin.order
  exact ⟨called, asked, { origin with
    order := ⟨earlier, since.trans (List.suffix_cons s states), before⟩ }⟩

/-- An outcome of a refinement that has been asked for. -/
def Refined (states : List State) (revision : Nat) (outcome : Except RefinementError String) :
    Prop :=
  ∃ refinement, refinement.outcome = outcome ∧ Asked states revision refinement

theorem Refined.later {outcome : Except RefinementError String}
    (refined : Refined states revision outcome) (s : State) :
    Refined (s :: states) revision outcome := by
  obtain ⟨refinement, same, asked⟩ := refined
  exact ⟨refinement, same, asked.later s⟩

/-! ## Tasks -/

/-- Every refinement that has not asked yet has a copy of what has stood at some time, and what has
been answered, or handed in, has been asked for. -/
structure Traced (states : List State) (s : State) : Prop where
  refinements : ∀ copy settings service instruction,
    .refinement copy settings service instruction ∈ s.tasks → Stood states copy
  answers : ∀ revision refinement, .answer revision refinement ∈ s.tasks →
    Asked states revision refinement
  outcomes : ∀ revision outcome, .refinement revision outcome ∈ s.outcomes →
    Refined states revision outcome

section Turns

variable {task : Task} {next : List Task} {news : List Display.Step}

theorem Draft.Turn.not_refinement {draft : Draft} {next : Option Draft}
    (turn : draft.Turn e pacing next news) (outcome : Except RefinementError String) :
    .refinement revision outcome ∉ news := by
  cases turn <;> simp

theorem Watcher.Turn.not_refinement {watcher watcher' : Watcher}
    (turn : watcher.Turn e pacing s watcher' news) (outcome : Except RefinementError String) :
    .refinement revision outcome ∉ news := by
  cases turn with
  | generate generating turn => exact turn.not_refinement outcome
  | _ => exact List.not_mem_nil

/-- No turn leaves a refinement that has yet to ask. -/
theorem Task.Turn.not_refinement (turn : task.Turn e pacing s next news) (copy : Workspace)
    (settings : RefinementSettings) (service : Service) (instruction : String) :
    .refinement copy settings service instruction ∉ next := by
  cases turn <;> simp

/-- A refinement that asks takes the code on display. -/
theorem Task.Turn.asked (turn : task.Turn e pacing s next news)
    (left : .answer revision refinement ∈ next) :
    ∃ copy settings service instruction, task = .refinement copy settings service instruction ∧
      copy.revision = revision ∧ refinement =
        refine settings service copy.exportRoots.1 (some s.display.code) instruction := by
  cases turn with
  | generate turn => simp at left
  | ask copy settings service instruction =>
      cases List.mem_singleton.1 left
      exact ⟨copy, settings, service, instruction, rfl, rfl, rfl⟩
  | answer revision refinement => cases left
  | watch turn => cases List.mem_singleton.1 left

/-- A refinement hands in what it has been answered. -/
theorem Task.Turn.refined (turn : task.Turn e pacing s next news)
    {outcome : Except RefinementError String} (new : .refinement revision outcome ∈ news) :
    ∃ refinement, refinement.outcome = outcome ∧ task = .answer revision refinement := by
  cases turn with
  | generate turn => exact (turn.not_refinement outcome new).elim
  | ask copy settings service instruction => cases new
  | answer revision refinement =>
      cases List.mem_singleton.1 new
      exact ⟨refinement, rfl, rfl⟩
  | watch turn => exact (turn.not_refinement outcome new).elim

end Turns

/-- What neither adds to the tasks nor to the outcomes breaks nothing. -/
theorem Traced.later (traced : Traced states s) (tasks : s'.tasks = s.tasks)
    (outcomes : s'.outcomes = s.outcomes) : Traced (s' :: states) s' where
  refinements copy settings service instruction present :=
    (traced.refinements copy settings service instruction (tasks ▸ present)).later s'
  answers revision refinement present :=
    (traced.answers revision refinement (tasks ▸ present)).later s'
  outcomes revision outcome present :=
    (traced.outcomes revision outcome (outcomes ▸ present)).later s'

theorem Traced.step (traced : Traced (s :: past) s) (step : Step e pacing s s') :
    Traced (s' :: s :: past) s' := by
  cases step with
  | @begin task living begins =>
      constructor
      · intro copy settings service instruction present
        rcases List.mem_append.1 present with before | new
        · exact (traced.refinements copy settings service instruction before).later _
        · cases List.mem_singleton.1 new
          cases begins with
          | refinement free =>
              exact ⟨s, List.mem_cons_of_mem _ List.mem_cons_self, free, rfl⟩
      · intro revision refinement present
        rcases List.mem_append.1 present with before | new
        · exact (traced.answers revision refinement before).later _
        · cases List.mem_singleton.1 new
          cases begins
      · exact fun revision outcome present => (traced.outcomes revision outcome present).later _
  | @turn before after next task news here turn =>
      have acting : task ∈ s.tasks := here ▸ List.mem_append_right before List.mem_cons_self
      constructor
      · intro copy settings service instruction present
        refine Stood.later ?_ _
        rcases mem_tasks_of_turn here present with before | left
        · exact traced.refinements copy settings service instruction before
        · exact (turn.not_refinement copy settings service instruction left).elim
      · intro revision refinement present
        refine Asked.later ?_ _
        rcases mem_tasks_of_turn here present with before | left
        · exact traced.answers revision refinement before
        · -- the copy is older than this turn, and the code is what is on display at it
          obtain ⟨copy, settings, service, instruction, rfl, same, request⟩ := turn.asked left
          obtain ⟨called, known, free, rfl⟩ :=
            traced.refinements copy settings service instruction acting
          exact ⟨called, s, ⟨past, List.suffix_refl _, known⟩, free, same,
            settings, service, instruction, request⟩
      · intro revision outcome present
        refine Refined.later ?_ _
        rcases List.mem_append.1 present with before | new
        · exact traced.outcomes revision outcome before
        · obtain ⟨refinement, same, rfl⟩ := turn.refined new
          exact ⟨refinement, same, traced.answers revision refinement acting⟩
  | _ => exact traced.later rfl rfl

theorem Run.traced (run : Run e pacing w (s :: past)) : Traced (s :: past) s := by
  generalize reached : s :: past = states at run
  induction run generalizing s past with
  | start =>
      cases reached
      constructor <;> intros <;> contradiction
  | step run step ih =>
      cases reached
      exact (ih rfl).step step

/-! ## The display -/

theorem Step.outcomes_grow (step : Step e pacing s s') : s.outcomes <+: s'.outcomes := by
  cases step with
  | turn => exact List.prefix_append _ _
  | _ => exact List.prefix_refl _

/-- Later states have the outcomes of earlier ones, and possibly more. -/
def Grow (states : List State) : Prop :=
  states.Pairwise fun later earlier => earlier.outcomes <+: later.outcomes

theorem Grow.latest (grow : Grow (s :: past)) {t : State} (known : t ∈ s :: past) :
    t.outcomes <+: s.outcomes := by
  rcases List.mem_cons.1 known with rfl | earlier
  · exact List.prefix_refl _
  · exact (List.pairwise_cons.1 grow).1 t earlier

theorem Run.grow (run : Run e pacing w states) : Grow states := by
  induction run with
  | start => exact List.pairwise_singleton _ _
  | @step s s' past run step ih =>
      exact List.pairwise_cons.2 ⟨fun t known => (ih.latest known).trans step.outcomes_grow, ih⟩

theorem State.display_yieldsTo {later earlier : State}
    (grown : earlier.outcomes <+: later.outcomes) :
    earlier.display.page.YieldsTo later.display.page := by
  obtain ⟨more, whole⟩ := grown
  rw [State.display, State.display, ← whole, Display.run_append]
  exact Display.page_yieldsTo_foldl _ more

/-! ## Runs without delay -/

/-- A generation without a pause, from its begin to its end. -/
theorem Run.generated (run : Run e pacing w (s :: past)) (living : s.closed = false)
    (free : s.lock = .free) (idle : s.tasks = [])
    (quick : (e.generate pacing s.workspace).pauses = 0) :
    ∃ past', Run e pacing w
      ({ s with
          outcomes := s.outcomes ++
            [.generation s.workspace.revision (e.generate pacing s.workspace).code] } :: past') := by
  obtain ⟨workspace, lock, announced, announcements, outcomes, tasks, closed⟩ := s
  cases idle
  have drafted : draft e pacing workspace = ⟨workspace, 0⟩ := congrArg (Draft.mk workspace) quick
  have begun := run.step (.begin living (.generation free))
  rw [drafted] at begun
  exact ⟨_, begun.step (.turn [] [] rfl (.generate (.publish workspace)))⟩

/-- A refinement asks as soon as it is called for. -/
theorem Run.refined (run : Run e pacing w (s :: past)) (living : s.closed = false)
    (free : s.lock = .free) (idle : s.tasks = []) (settings : RefinementSettings)
    (service : Service) (instruction : String) :
    let refinement :=
      refine settings service s.workspace.exportRoots.1 (some s.display.code) instruction
    let answered := { s with tasks := [.answer s.workspace.revision refinement] }
    ∃ past', Run e pacing w (answered :: past') ∧
      ∃ asked, asked.display = s.display ∧
        Origin (answered :: past') s.workspace.revision refinement s asked := by
  intro refinement answered
  obtain ⟨workspace, lock, announced, announcements, outcomes, tasks, closed⟩ := s
  cases idle
  have begun := run.step (.begin living (.refinement free settings service instruction))
  have asked := begun.step (.turn [] [] rfl (.ask workspace settings service instruction))
  rw [List.append_nil outcomes] at asked
  refine ⟨_, asked, _, ?_,
    ⟨_, List.suffix_cons _ _, List.mem_cons_of_mem _ List.mem_cons_self⟩, free, rfl,
    settings, service, instruction, rfl⟩
  rfl

/-! ## Requests -/

/-- How the code in a request stands to the revision of its blocks: it is not ahead, and it is of
this revision if the display had come to it when the refinement was called for. It is not the empty
text of a new display if there had been a success by then. -/
structure KeepsUp (revision : Nat) (called asked : State) : Prop where
  notAhead : asked.display.revision ≤ revision
  caughtUp : revision ≤ called.display.revision → asked.display.revision = revision
  success : Display.pages called.outcomes ≠ [] → asked.display.page ∈ Display.pages asked.outcomes

/-- The code in a request is not ahead if the display is not even ahead later. -/
theorem Origin.keepsUp (run : Run e pacing w (s :: past)) {called asked : State}
    (origin : Origin (s :: past) revision refinement called asked)
    (counts : s.display.revision ≤ revision) : KeepsUp revision called asked := by
  obtain ⟨earlier, since, before⟩ := origin.order
  have called_asked : called.outcomes <+: asked.outcomes :=
    Grow.latest (run.grow.sublist since.sublist) before
  have asked_now : asked.outcomes <+: s.outcomes :=
    run.grow.latest (since.subset List.mem_cons_self)
  have notAhead : asked.display.revision ≤ revision :=
    Nat.le_trans (State.display_yieldsTo asked_now).revision_le counts
  refine ⟨notAhead, fun caughtUp => Nat.le_antisymm notAhead ?_, fun success => ?_⟩
  · exact Nat.le_trans caughtUp (State.display_yieldsTo called_asked).revision_le
  · obtain ⟨p, brought⟩ := List.exists_mem_of_ne_nil _ success
    have still : p ∈ Display.pages asked.outcomes :=
      (called_asked.sublist.filterMap _).subset brought
    exact Display.page_foldl_mem {} Display.page_new_yieldsTo (List.ne_nil_of_mem still)

/-- A refinement whose outcome is accepted has been asked for with the blocks of the workspace as it
stood at the revision that the outcome goes under. The code in its request was on display when it
asked, for this revision or an earlier one, and for this one if the display had come to it when the
refinement was called for. Refined code on show has come from such a refinement of the revision on
show. -/
theorem Run.refinement_of_revision (run : Run e pacing w (s :: past)) :
    (∀ revision refinement, .answer revision refinement ∈ s.tasks →
      s.display.accepts (.refinement revision refinement.outcome) = true →
        Asked (s :: past) revision refinement ∧
          ∀ called asked, Origin (s :: past) revision refinement called asked →
            KeepsUp revision called asked) ∧
    (s.display.source = .refined → ∃ refinement, refinement.outcome = .ok s.display.code ∧
      Asked (s :: past) s.display.revision refinement ∧
        ∀ called asked, Origin (s :: past) s.display.revision refinement called asked →
          KeepsUp s.display.revision called asked) := by
  refine ⟨fun revision refinement answered accepted => ?_, fun refined => ?_⟩
  · have counts : s.display.revision ≤ revision := of_decide_eq_true accepted
    exact ⟨run.traced.answers revision refinement answered,
      fun called asked origin => origin.keepsUp run counts⟩
  · have brought : s.display.page ∈ Display.pages s.outcomes := by
      refine (Display.page_foldl_cases {} s.outcomes).resolve_left fun new => ?_
      cases refined.symm.trans (congrArg Display.Page.source new)
    obtain ⟨step, handedIn, brings⟩ := List.mem_filterMap.1 brought
    have shown : step = .refinement s.display.revision (.ok s.display.code) :=
      Display.eq_refinement_of_page? brings refined
    obtain ⟨refinement, outcome, asked⟩ := run.traced.outcomes _ _ (shown ▸ handedIn)
    exact ⟨refinement, outcome, asked,
      fun called asked origin => origin.keepsUp run (Nat.le_refl _)⟩

/-- After an edit there is a generation, and then a refinement. The code in the request is that of
the edited workspace. -/
theorem Run.refinement_of_revision_edited :
    let w : Workspace :=
      { palette := .standard
        blocks := Std.ExtTreeMap.insert ∅ ⟨"a"⟩
          { type := "logic_boolean", fields := Std.ExtTreeMap.insert ∅ "bool" (.text "TRUE") }
        roots := [⟨"a"⟩] }
    let e : Emitter := { palette := .standard }
    ∃ s past revision refinement, Run e {} w (s :: past) ∧ .answer revision refinement ∈ s.tasks ∧
      s.display.accepts (.refinement revision refinement.outcome) = true ∧
      (∃ called asked, Origin (s :: past) revision refinement called asked ∧
        asked.display.revision = revision ∧ KeepsUp revision called asked) ∧
      ∃ s', Run e {} w (s' :: s :: past) ∧ s'.display.source = .refined ∧
        s'.display.revision = revision ∧ ∃ refinement, refinement.outcome = .ok s'.display.code ∧
          Asked (s' :: s :: past) s'.display.revision refinement := by
  intro w e
  let flip : List Edit := [.setField ⟨"a"⟩ "bool" (.text "FALSE")]
  let edited := afterEdits w flip
  have made : (e.generate {} edited).code = .ok "false;\n" := by decide +kernel
  have changed : edited.revision ≠ w.revision := by decide +kernel
  have shown : Display.run [.generation edited.revision (e.generate {} edited).code] =
      .showCode .generated edited.revision "false;\n" := by
    rw [made]
    rfl
  have answered : (Service.respond { answer := .ok "refined" } 60).bind Service.codeOf =
      .ok "refined" := by decide +kernel
  have replaced : Display.run ([.generation edited.revision (e.generate {} edited).code] ++
      [.refinement edited.revision ((Service.respond { answer := .ok "refined" } 60).bind
        Service.codeOf)]) = .showCode .refined edited.revision "refined" := by
    have counts : (Display.showCode .generated edited.revision "false;\n").takesRefinement
        edited.revision = true := decide_eq_true (Nat.le_refl _)
    rw [Display.run_append, shown, answered]
    simp [Display.take, Display.applyRefinement, counts]
  have begun : Run e {} w [.start w] := .start
  obtain ⟨past, run⟩ := begun.edit_changed rfl rfl flip changed
  obtain ⟨past, run⟩ := run.generated rfl rfl rfl (by decide +kernel)
  obtain ⟨past, run, asked, still, origin⟩ :=
    run.refined rfl rfl rfl {} { answer := .ok "refined" } "Refine"
  have accepted := decide_eq_true (Nat.le_of_eq (congrArg Display.revision shown))
  have same := congrArg Display.revision (still.trans shown)
  have keepsUp := (run.refinement_of_revision.1 _ _ (List.mem_singleton_self _) accepted).2
  have handedIn := run.step (.turn [] [] rfl (.answer _ _))
  have source := congrArg Display.source replaced
  obtain ⟨refinement, outcome, asked', -⟩ := handedIn.refinement_of_revision.2 source
  exact ⟨_, past, _, _, run, List.mem_singleton_self _, accepted,
    ⟨_, asked, origin, same, keepsUp _ _ origin⟩,
    _, handedIn, source, congrArg Display.revision replaced, refinement, outcome, asked'⟩

/-- An edit comes between a generation and a refinement. The code in the request is that of the
revision before the edit, and at no time has code of the edited revision been on display. -/
theorem Run.refinement_of_older_code :
    let w : Workspace :=
      { palette := .standard
        blocks := Std.ExtTreeMap.insert ∅ ⟨"a"⟩
          { type := "logic_boolean", fields := Std.ExtTreeMap.insert ∅ "bool" (.text "TRUE") }
        roots := [⟨"a"⟩] }
    let e : Emitter := { palette := .standard }
    ∃ s past revision refinement called asked, Run e {} w (s :: past) ∧
      .answer revision refinement ∈ s.tasks ∧
      s.display.accepts (.refinement revision refinement.outcome) = true ∧
      Origin (s :: past) revision refinement called asked ∧ Display.pages called.outcomes ≠ [] ∧
      asked.display.code = "true;\n" ∧ (e.generate {} called.workspace).code = .ok "false;\n" ∧
      ∀ t ∈ s :: past, t.display.revision < revision := by
  intro w e
  let flip : List Edit := [.setField ⟨"a"⟩ "bool" (.text "FALSE")]
  have made : (e.generate {} w).code = .ok "true;\n" := by decide +kernel
  have made' : (e.generate {} (afterEdits w flip)).code = .ok "false;\n" := by decide +kernel
  have edited : 0 < (afterEdits w flip).revision := by decide +kernel
  have shown : Display.run [.generation w.revision (e.generate {} w).code] =
      .showCode .generated 0 "true;\n" := by rw [made]; rfl
  have success : Display.pages [.generation w.revision (e.generate {} w).code] ≠ [] := by
    rw [made]
    decide
  have begun : Run e {} w [.start w] := .start
  obtain ⟨past, run⟩ := begun.generated rfl rfl rfl (by decide +kernel)
  obtain ⟨past, run⟩ := run.edit_changed rfl rfl flip (Nat.ne_of_gt edited)
  obtain ⟨past, run, asked, still, origin⟩ :=
    run.refined rfl rfl rfl {} { answer := .ok "refined" } "Refine"
  refine ⟨_, past, _, _, _, asked, run, List.mem_singleton_self _, ?_, origin, success, ?_, made', ?_⟩
  · exact decide_eq_true (congrArg Display.revision shown ▸ Nat.zero_le _)
  · exact (congrArg Display.code still).trans (congrArg Display.code shown)
  · intro t known
    have early := (State.display_yieldsTo (run.grow.latest known)).revision_le
    exact Nat.lt_of_le_of_lt (early.trans (Nat.le_of_eq (congrArg Display.revision shown))) edited

end Interleaving

end SolanaBlocks
