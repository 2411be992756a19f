import SolanaBlocks.Proofs.Forest.Revisions
import SolanaBlocks.Proofs.Session.Display
import SolanaBlocks.Session.Basic

/-!
# Interleavings

What may happen in a session whose users act at once. An edit has the workspace to itself: it takes
the lock, makes its changes one by one, whether they are refused or not, and if the revision has
moved it announces the new one before it lets the lock go. A generation or a refinement copies the
workspace when the lock is free, works on its copy, and hands in its outcome in the end, under the
revision of the copy; the display takes in one outcome after the other.

A watcher generates in the background. It waits for an announcement that it has not seen, then for
announcements to rest, and then it generates.

There is no clock. A window of rest may be over at any time, a pause may take any time, and whoever
can act may be the next to do so; a schedule by a clock is one of the interleavings.
-/

namespace SolanaBlocks.Interleaving

/-- Who has the workspace: nobody, an edit that found it in some state, or an edit that has
announced what it has done. -/
inductive Lock where
  | free
  | held (found : Workspace)
  | told

/-- A generation on its way: the copy that it works on, and the pauses that it has yet to make. -/
structure Draft where
  copy : Workspace
  pauses : Nat

/-- What a watcher is doing: it waits for a change; it waits for changes to rest; they have rested;
it generates; or it has come to its end. -/
inductive Phase where
  | waiting
  | resting
  | settled
  | generating (draft : Draft)
  | stopped

/-- A background generator. `seen` is the number of the last announcement that it has looked at,
`begun` the workspace that it was started on, and `last` the copy that it generated from last. -/
structure Watcher where
  phase : Phase := .waiting
  seen : Nat
  begun : Workspace
  last : Option Workspace := none

/-- What goes on beside edits: a generation; a refinement before it has looked at the code on
display, and after that; and a watcher. -/
inductive Task where
  | generation (draft : Draft)
  | refinement (copy : Workspace) (settings : RefinementSettings) (service : Service)
    (instruction : String)
  | answer (revision : Nat) (refinement : Refinement)
  | background (watcher : Watcher)

/-- A session at some point of an interleaving. `announced` is the revision that was announced last
and `announcements` counts how often this has been done; `outcomes` has come in so far. -/
structure State where
  workspace : Workspace
  lock : Lock := .free
  announced : Nat
  announcements : Nat := 0
  outcomes : List Display.Step := []
  tasks : List Task := []
  closed : Bool := false

namespace State

/-- A session at its beginning. -/
def start (w : Workspace) : State where
  workspace := w
  announced := w.revision

/-- What is on display. -/
def display (s : State) : Display := Display.run s.outcomes

/-- The workspace without the changes that have not been announced yet. -/
def rest (s : State) : Workspace :=
  match s.lock with
  | .held found => found
  | _ => s.workspace

end State

section Steps

variable (e : Emitter) (pacing : Pacing)

/-- A generation that begins on a copy. -/
def draft (copy : Workspace) : Draft := ⟨copy, (e.generate pacing copy).pauses⟩

/-- A generation goes on: it makes a pause, or there are none left and it hands in its outcome. -/
inductive Draft.Turn : Draft → Option Draft → List Display.Step → Prop
  | pause (copy : Workspace) (pauses : Nat) :
    Draft.Turn ⟨copy, pauses + 1⟩ (some ⟨copy, pauses⟩) []
  | publish (copy : Workspace) :
    Draft.Turn ⟨copy, 0⟩ none [.generation copy.revision (e.generate pacing copy).code]

/-- A watcher goes on. While it waits it may notice what it has not seen, and when changes have
rested it has seen them all. It stops when the session is closed and nothing is left to see. -/
inductive Watcher.Turn (s : State) : Watcher → Watcher → List Display.Step → Prop
  | notice {watcher : Watcher} (attends : watcher.phase = .waiting ∨ watcher.phase = .resting)
    (unseen : watcher.seen ≠ s.announcements) :
    Watcher.Turn s watcher { watcher with phase := .resting, seen := s.announcements } []
  | settle {watcher : Watcher} (resting : watcher.phase = .resting) :
    Watcher.Turn s watcher { watcher with phase := .settled, seen := s.announcements } []
  | begin {watcher : Watcher} (settled : watcher.phase = .settled) (free : s.lock = .free) :
    Watcher.Turn s watcher
      { watcher with phase := .generating (draft e pacing s.workspace), last := some s.workspace }
      []
  | generate {watcher : Watcher} {draft : Draft} {next : Option Draft} {news : List Display.Step}
    (generating : watcher.phase = .generating draft) (turn : draft.Turn e pacing next news) :
    Watcher.Turn s watcher { watcher with phase := next.elim .waiting .generating } news
  | stop {watcher : Watcher} (waiting : watcher.phase = .waiting)
    (seen : watcher.seen = s.announcements) (closed : s.closed = true) :
    Watcher.Turn s watcher { watcher with phase := .stopped } []

/-- A task goes on: what is left of it, and what it hands in. -/
inductive Task.Turn (s : State) : Task → List Task → List Display.Step → Prop
  | generate {draft : Draft} {next : Option Draft} {news : List Display.Step}
    (turn : draft.Turn e pacing next news) :
    Task.Turn s (.generation draft) (next.toList.map .generation) news
  | ask (copy : Workspace) (settings : RefinementSettings) (service : Service)
    (instruction : String) :
    Task.Turn s (.refinement copy settings service instruction)
      [.answer copy.revision
        (refine settings service copy.exportRoots.1 (some s.display.code) instruction)] []
  | answer (revision : Nat) (refinement : Refinement) :
    Task.Turn s (.answer revision refinement) [] [.refinement revision refinement.outcome]
  | watch {watcher watcher' : Watcher} {news : List Display.Step}
    (turn : watcher.Turn e pacing s watcher' news) :
    Task.Turn s (.background watcher) [.background watcher'] news

/-- What can be begun. Copies are made when the lock is free; to start a watcher takes no lock. -/
inductive Begins (s : State) : Task → Prop
  | generation (free : s.lock = .free) : Begins s (.generation (draft e pacing s.workspace))
  | refinement (free : s.lock = .free) (settings : RefinementSettings) (service : Service)
    (instruction : String) : Begins s (.refinement s.workspace settings service instruction)
  | background : Begins s (.background { seen := s.announcements, begun := s.rest })

/-- What may happen next. -/
inductive Step : State → State → Prop
  | lock {s : State} (living : s.closed = false) (free : s.lock = .free) :
    Step s { s with lock := .held s.workspace }
  | edit {s : State} {found : Workspace} (held : s.lock = .held found) (edit : Edit) :
    Step s { s with workspace := (s.workspace.apply edit).1 }
  | announce {s : State} {found : Workspace} (held : s.lock = .held found)
    (changed : s.workspace.revision ≠ found.revision) :
    Step s { s with
      lock := .told, announced := s.workspace.revision, announcements := s.announcements + 1 }
  | pass {s : State} {found : Workspace} (held : s.lock = .held found)
    (same : s.workspace.revision = found.revision) : Step s { s with lock := .free }
  | unlock {s : State} (told : s.lock = .told) : Step s { s with lock := .free }
  | begin {s : State} {task : Task} (living : s.closed = false) (begins : Begins e pacing s task) :
    Step s { s with tasks := s.tasks ++ [task] }
  | turn {s : State} (before after : List Task) {next : List Task} {task : Task}
    {news : List Display.Step}
    (here : s.tasks = before ++ task :: after) (turn : task.Turn e pacing s next news) :
    Step s { s with tasks := before ++ next ++ after, outcomes := s.outcomes ++ news }
  | close {s : State} (free : s.lock = .free) : Step s { s with closed := true }

/-- The states that a session has gone through from its beginning on a workspace, the latest
first. -/
inductive Run (w : Workspace) : List State → Prop
  | start : Run w [.start w]
  | step {s s' : State} {past : List State} (run : Run w (s :: past)) (step : Step e pacing s s') :
    Run w (s' :: s :: past)

end Steps

variable {e : Emitter} {pacing : Pacing} {w : Workspace} {s s' : State} {states : List State}

theorem Step.onward (step : Step e pacing s s') : s.workspace.Onward s'.workspace := by
  cases step with
  | edit _ edit => exact s.workspace.onward_apply edit
  | _ => exact .refl s.workspace

/-- Earlier workspaces lead to later ones. -/
theorem Run.onward (run : Run e pacing w states) :
    states.Pairwise fun later earlier => earlier.workspace.Onward later.workspace := by
  induction run with
  | start => exact List.pairwise_singleton _ _
  | @step s s' past run step ih =>
      refine List.pairwise_cons.2 ⟨fun t known => ?_, ih⟩
      rcases List.mem_cons.1 known with rfl | earlier
      · exact step.onward
      · exact ((List.pairwise_cons.1 ih).1 t earlier).trans step.onward

/-- A revision stands for one content, whenever the session comes by it. -/
theorem Run.unchanged (run : Run e pacing w states) {t t' : State} (known : t ∈ states)
    (known' : t' ∈ states) (same : t.workspace.revision = t'.workspace.revision) :
    t.workspace.Unchanged t'.workspace := by
  have one : states.Pairwise fun t t' : State =>
      t.workspace.revision = t'.workspace.revision → t.workspace.Unchanged t'.workspace :=
    run.onward.imp fun onward same => (onward.unchanged same).symm
  exact one.forall_of_forall_of_flip (fun t _ _ => .refl t.workspace)
    (one.imp fun h same => (h same.symm).symm) known known' same

/-- What holds at the beginning and is kept by every step holds of the latest state of a run. It may
speak of the states that the run has gone through. -/
theorem Run.invariant {good : List State → State → Prop} (start : good [.start w] (.start w))
    (kept : ∀ states s s', s ∈ states → good states s → Step e pacing s s' → good (s' :: states) s')
    {past : List State} (run : Run e pacing w (s :: past)) : good (s :: past) s := by
  generalize reached : s :: past = states at run
  induction run generalizing s past with
  | start =>
      cases reached
      exact start
  | step run step ih =>
      cases reached
      exact kept _ _ _ List.mem_cons_self (ih rfl) step

/-- After a turn there are the tasks that were there before, and what is left of the one that had
its turn. -/
theorem mem_tasks_of_turn {before after next : List Task} {task other : Task}
    (here : s.tasks = before ++ task :: after) (present : other ∈ before ++ next ++ after) :
    other ∈ s.tasks ∨ other ∈ next := by
  rw [here]
  rcases List.mem_append.1 present with present | behind
  · rcases List.mem_append.1 present with ahead | left
    · exact .inl (List.mem_append_left _ ahead)
    · exact .inr left
  · exact .inl (List.mem_append_right before (List.mem_cons_of_mem task behind))

/-! ## Whole edits -/

/-- The workspace after some edits, where those that are refused are passed over. -/
def afterEdits (w : Workspace) (edits : List Edit) : Workspace :=
  edits.foldl (fun w edit => (w.apply edit).1) w

/-- An edit may make any changes while it holds the lock. -/
theorem Run.edits {past : List State} (run : Run e pacing w (s :: past)) {found : Workspace}
    (held : s.lock = .held found) (edits : List Edit) :
    ∃ past', Run e pacing w ({ s with workspace := afterEdits s.workspace edits } :: past') := by
  induction edits generalizing s past with
  | nil => exact ⟨past, run⟩
  | cons edit edits ih => exact ih (run.step (.edit held edit)) held

/-- An edit that changes the workspace, from the lock being taken until it is free again. -/
theorem Run.edit_changed {past : List State} (run : Run e pacing w (s :: past))
    (living : s.closed = false) (free : s.lock = .free) (edits : List Edit)
    (changed : (afterEdits s.workspace edits).revision ≠ s.workspace.revision) :
    ∃ past', Run e pacing w
      ({ s with
          workspace := afterEdits s.workspace edits
          announced := (afterEdits s.workspace edits).revision
          announcements := s.announcements + 1 } :: past') := by
  obtain ⟨past', edited⟩ := (run.step (.lock living free)).edits rfl edits
  have told := edited.step (.announce rfl changed)
  exact ⟨_, free ▸ told.step (.unlock rfl)⟩

/-- An edit that changes nothing. -/
theorem Run.edit_unchanged {past : List State} (run : Run e pacing w (s :: past))
    (living : s.closed = false) (free : s.lock = .free) (edits : List Edit)
    (same : (afterEdits s.workspace edits).revision = s.workspace.revision) :
    ∃ past', Run e pacing w ({ s with workspace := afterEdits s.workspace edits } :: past') := by
  obtain ⟨past', edited⟩ := (run.step (.lock living free)).edits rfl edits
  exact ⟨_, free ▸ edited.step (.pass rfl same)⟩

end SolanaBlocks.Interleaving
