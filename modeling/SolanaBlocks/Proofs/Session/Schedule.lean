import Mathlib.Data.List.Perm.Basic
import SolanaBlocks.Proofs.Session.Honesty
import SolanaBlocks.Session.Timeline

/-!
# The timeline is an interleaving

A script that is played on the clock goes through a session in one of the ways in which it may go.
At every moment at which the timeline looks at its session, the workspace, the revision announced
last and the display are those of some state of an interleaving; the jobs that are on their way are
its tasks, and the background generator is its watcher. What the timeline does in one go, an edit or
the end of a generation with all its pauses, takes several steps there.
-/

namespace SolanaBlocks.Interleaving

variable {e : Emitter} {pacing : Pacing} {w : Workspace} {s : State} {past : List State}
  {session : Session} {jobs jobs' : List Job} {watchers : List Watcher} {tasks : List Task}

/-! ## Turns in any order of tasks -/

/-- Any task may go on, wherever it stands among the tasks. -/
theorem Run.act (run : Run e pacing w (s :: past)) {task : Task} {rest next : List Task}
    {news : List Display.Step} (order : s.tasks.Perm (task :: rest))
    (turn : task.Turn e pacing s next news) :
    ∃ tasks past', tasks.Perm (next ++ rest) ∧
      Run e pacing w ({ s with tasks := tasks, outcomes := s.outcomes ++ news } :: past') := by
  obtain ⟨before, after, here⟩ := List.append_of_mem (order.mem_iff.2 List.mem_cons_self)
  refine ⟨_, _, ?_, run.step (.turn before after here turn)⟩
  rw [here] at order
  have others : (before ++ after).Perm rest := (List.perm_middle.symm.trans order).cons_inv
  calc before ++ next ++ after
    _ = before ++ (next ++ after) := List.append_assoc before next after
    List.Perm _ (next ++ (before ++ after)) := List.perm_append_comm_assoc before next after
    List.Perm _ (next ++ rest) := others.append_left next

/-- A task in the middle of a generation makes its pauses and hands in the outcome. -/
theorem Run.publish (run : Run e pacing w (s :: past)) (task : Draft → Task) (done : List Task)
    {rest : List Task} {draft : Draft} (order : s.tasks.Perm (task draft :: rest))
    (turns : ∀ s draft next news, draft.Turn e pacing next news →
      (task draft).Turn e pacing s (next.elim done fun draft => [task draft]) news) :
    ∃ tasks past', tasks.Perm (done ++ rest) ∧
      Run e pacing w ({ s with
        tasks := tasks
        outcomes := s.outcomes ++
          [.generation draft.copy.revision (e.generate pacing draft.copy).code] } :: past') := by
  obtain ⟨copy, pauses⟩ := draft
  induction pauses generalizing s past with
  | zero => exact run.act order (turns s _ _ _ (.publish copy))
  | succ pauses ih =>
      obtain ⟨tasks, past', order', run'⟩ := run.act order (turns s _ _ _ (.pause copy pauses))
      rw [List.append_nil] at run'
      have published := ih run' order'
      exact published

/-! ## Sessions -/

/-- A job on the clock is a task: a generation that has yet to make some pauses, or a refinement
that has been asked for. -/
inductive IsTask (e : Emitter) (pacing : Pacing) : Job → Task → Prop
  | generation (reports : List (Moment × Event)) (draft : Draft) :
    IsTask e pacing
      (.generation reports draft.copy.revision (e.generate pacing draft.copy).code)
      (.generation draft)
  | refinement (revision : Nat) (refinement : Refinement) :
    IsTask e pacing (.refinement revision refinement) (.answer revision refinement)

/-- The generator on the clock is a watcher. It knows if there is something that the watcher has not
seen, and if changes have to rest first, the watcher may still have to notice them. -/
inductive IsWatcher (e : Emitter) (pacing : Pacing) (announcements : Nat) :
    Generator → Watcher → Prop
  | idle {watcher : Watcher} (waiting : watcher.phase = .waiting)
    (seen : watcher.seen = announcements) : IsWatcher e pacing announcements .idle watcher
  | settling {watcher : Watcher} (due : Moment)
    (attends : watcher.phase = .resting ∨
      watcher.phase = .waiting ∧ watcher.seen < announcements) :
    IsWatcher e pacing announcements (.settling due) watcher
  | generating {watcher : Watcher} {unseen : Bool} (due : Moment) (draft : Draft)
    (generating : watcher.phase = .generating draft)
    (seen : watcher.seen ≤ announcements) (knows : unseen = true ↔ watcher.seen < announcements) :
    IsWatcher e pacing announcements
      (.generating due draft.copy.revision (e.generate pacing draft.copy).code unseen) watcher

theorem IsWatcher.notice {announcements : Nat} {generator : Generator} {watcher : Watcher}
    (drives : IsWatcher e pacing announcements generator watcher) (window : Nat) (now : Moment) :
    IsWatcher e pacing (announcements + 1) (generator.notice window now) watcher := by
  cases drives with
  | idle waiting seen => exact .settling _ (.inr ⟨waiting, Nat.lt_succ_of_le (Nat.le_of_eq seen)⟩)
  | settling due attends =>
      exact .settling _ (attends.imp_right fun unseen => ⟨unseen.1, Nat.lt_succ_of_lt unseen.2⟩)
  | generating due draft generating seen knows =>
      have new : watcher.seen < announcements + 1 := Nat.lt_succ_of_le seen
      exact .generating due draft generating (Nat.le_of_lt new) (iff_of_true rfl new)

/-- A session with its jobs looks like a state of an interleaving with its watchers and its other
tasks. -/
structure LooksLike (e : Emitter) (pacing : Pacing) (session : Session) (jobs : List Job)
    (s : State) (watchers : List Watcher) (tasks : List Task) : Prop where
  ofEmitter : session.emitter = e
  ofPacing : session.pacing = pacing
  workspace : s.workspace = session.workspace
  announced : s.announced = session.announced
  display : s.display = session.display
  free : s.lock = .free
  living : s.closed = false
  generator :
    List.Forall₂ (IsWatcher e pacing s.announcements) session.generator.toList watchers
  underway : List.Forall₂ (IsTask e pacing) jobs tasks
  order : s.tasks.Perm (watchers.map .background ++ tasks)

theorem LooksLike.display_concat (looks : LooksLike e pacing session jobs s watchers tasks)
    (step : Display.Step) (tasks' : List Task) :
    State.display { s with tasks := tasks', outcomes := s.outcomes ++ [step] } =
      session.display.take step :=
  looks.display ▸ Display.run_append s.outcomes [step]

theorem LooksLike.watcher (looks : LooksLike e pacing session jobs s watchers tasks)
    {generator : Generator} (running : session.generator = some generator) :
    ∃ watcher, watchers = [watcher] ∧ IsWatcher e pacing s.announcements generator watcher := by
  have only := looks.generator
  rw [running] at only
  obtain ⟨watcher, rest, drives, none, rfl⟩ := List.forall₂_cons_left_iff.1 only
  cases none
  exact ⟨watcher, rfl, drives⟩

/-- A session with its jobs is at some point of an interleaving. -/
def Follows (e : Emitter) (pacing : Pacing) (w : Workspace) (session : Session) (jobs : List Job) :
    Prop :=
  ∃ s past watchers tasks, Run e pacing w (s :: past) ∧
    LooksLike e pacing session jobs s watchers tasks

namespace Follows

/-- The order of the jobs does not matter. -/
theorem perm (follows : Follows e pacing w session jobs) (order : jobs.Perm jobs') :
    Follows e pacing w session jobs' := by
  obtain ⟨s, past, watchers, tasks, run, looks⟩ := follows
  obtain ⟨tasks', done, order'⟩ := List.perm_comp_forall₂ order.symm looks.underway
  refine ⟨s, past, watchers, tasks', run, { looks with underway := done, order := ?_ }⟩
  exact looks.order.trans (order'.symm.append_left _)

theorem start (e : Emitter) (pacing : Pacing) (w : Workspace) (background : Bool) :
    Follows e pacing w (.start e pacing w background) [] := by
  cases background with
  | false =>
      exact ⟨_, _, [], [], .start, rfl, rfl, rfl, rfl, rfl, rfl, rfl, .nil, .nil, .refl _⟩
  | true =>
      have started : Run e pacing w _ := .step .start (.begin rfl .background)
      exact ⟨_, _, [_], [], started, rfl, rfl, rfl, rfl, rfl, rfl, rfl, .cons (.idle rfl rfl) .nil,
        .nil, .refl _⟩

/-- A task that begins is a job on its way. -/
theorem begin (run : Run e pacing w (s :: past))
    (looks : LooksLike e pacing session jobs s watchers tasks) {task : Task}
    (begins : Begins e pacing s task) {job : Job} (done : IsTask e pacing job task) :
    Follows e pacing w session (job :: jobs) := by
  refine ⟨_, _, watchers, task :: tasks, run.step (.begin looks.living begins),
    { looks with underway := .cons done looks.underway, order := ?_ }⟩
  calc s.tasks ++ [task]
    List.Perm _ (watchers.map .background ++ tasks ++ [task]) := looks.order.append_right [task]
    _ = watchers.map .background ++ (tasks ++ [task]) := List.append_assoc _ tasks [task]
    List.Perm _ (watchers.map .background ++ task :: tasks) :=
      (List.perm_append_singleton task tasks).append_left _

/-! ### Jobs -/

theorem beginGeneration (follows : Follows e pacing w session jobs)
    (reports : List (Moment × Event)) :
    Follows e pacing w session
      (.generation reports session.workspace.revision session.generation.code :: jobs) := by
  obtain ⟨s, past, watchers, tasks, run, looks⟩ := follows
  have job : IsTask e pacing
      (.generation reports session.workspace.revision session.generation.code)
      (.generation (draft e pacing s.workspace)) := by
    rw [Session.generation, looks.ofEmitter, looks.ofPacing, ← looks.workspace]
    exact .generation reports (draft e pacing s.workspace)
  exact begin run looks (.generation looks.free) job

theorem beginRefinement (follows : Follows e pacing w session jobs)
    (settings : RefinementSettings) (service : Service) (instruction : String) :
    Follows e pacing w session
      (.refinement session.workspace.revision
        (session.refinement settings service instruction).1 :: jobs) := by
  obtain ⟨s, past, watchers, tasks, run, looks⟩ := follows
  have job : IsTask e pacing
      (.refinement session.workspace.revision
        (session.refinement settings service instruction).1)
      (.answer s.workspace.revision
        (refine settings service s.workspace.exportRoots.1 (some s.display.code) instruction)) := by
    rw [looks.workspace, looks.display]
    exact .refinement _ _
  have copied :=
    run.step (.begin looks.living (.refinement looks.free settings service instruction))
  obtain ⟨tasks', past', order, asked⟩ :=
    copied.act (List.perm_append_singleton _ s.tasks) (.ask _ settings service instruction)
  rw [List.append_nil] at asked
  refine ⟨_, past', watchers, _ :: tasks, asked,
    { looks with underway := .cons job looks.underway, order := ?_ }⟩
  exact (order.trans (looks.order.cons _)).trans List.perm_middle.symm

/-- What a generation has yet to report makes no difference. -/
theorem report {reports : List (Moment × Event)} {revision : Nat}
    {outcome : Except EmitError String}
    (follows : Follows e pacing w session (.generation reports revision outcome :: jobs))
    (reports' : List (Moment × Event)) :
    Follows e pacing w session (.generation reports' revision outcome :: jobs) := by
  obtain ⟨s, past, watchers, _, run, looks⟩ := follows
  obtain ⟨_, tasks, done, underway, rfl⟩ := List.forall₂_cons_left_iff.1 looks.underway
  cases done with
  | generation _ draft =>
      exact ⟨s, past, watchers, _, run,
        { looks with underway := .cons (.generation reports' draft) underway }⟩

theorem finishGeneration {reports : List (Moment × Event)} {revision : Nat}
    {outcome : Except EmitError String}
    (follows : Follows e pacing w session (.generation reports revision outcome :: jobs)) :
    Follows e pacing w (session.publishGeneration revision outcome) jobs := by
  obtain ⟨s, past, watchers, _, run, looks⟩ := follows
  obtain ⟨_, tasks, done, underway, rfl⟩ := List.forall₂_cons_left_iff.1 looks.underway
  cases done with
  | generation _ draft =>
      obtain ⟨tasks', past', order, published⟩ :=
        run.publish Task.generation [] (looks.order.trans List.perm_middle)
          fun _ _ next _ turn => by cases next <;> exact .generate turn
      exact ⟨_, past', watchers, tasks, published,
        { looks with
          underway := underway
          order := order
          display := looks.display_concat _ tasks' }⟩

theorem finishRefinement {revision : Nat} {refinement : Refinement}
    (follows : Follows e pacing w session (.refinement revision refinement :: jobs)) :
    Follows e pacing w (session.publishRefinement revision refinement.outcome) jobs := by
  obtain ⟨s, past, watchers, _, run, looks⟩ := follows
  obtain ⟨_, tasks, done, underway, rfl⟩ := List.forall₂_cons_left_iff.1 looks.underway
  cases done
  obtain ⟨tasks', past', order, published⟩ :=
    run.act (looks.order.trans List.perm_middle) (.answer revision refinement)
  exact ⟨_, past', watchers, tasks, published,
    { looks with
      underway := underway
      order := order
      display := looks.display_concat _ tasks' }⟩

/-! ### Edits -/

theorem exists_afterEdits (w : Workspace) (edits : List Edit) :
    ∃ done, afterEdits w done = (w.applyAll edits).1 := by
  induction edits generalizing w with
  | nil => exact ⟨[], rfl⟩
  | cons edit rest ih =>
      rw [Workspace.applyAll]
      rcases made : w.apply edit with ⟨w', error | result⟩
      · exact ⟨[edit], congrArg Prod.fst made⟩
      · obtain ⟨done, same⟩ := ih w'
        refine ⟨edit :: done, Eq.trans ?_ same⟩
        exact congrArg (afterEdits · done) (congrArg Prod.fst made)

theorem edit (follows : Follows e pacing w session jobs) (now : Moment) (edits : List Edit) :
    Follows e pacing w (session.edit now edits).1 jobs := by
  obtain ⟨s, past, watchers, tasks, run, looks⟩ := follows
  obtain ⟨done, made⟩ := exists_afterEdits s.workspace edits
  have same : afterEdits s.workspace done = (session.workspace.applyAll edits).1 :=
    looks.workspace ▸ made
  unfold Session.edit
  dsimp only
  split
  next still =>
    rw [← same, ← looks.workspace] at still
    obtain ⟨past', edited⟩ := run.edit_unchanged looks.living looks.free done still
    exact ⟨_, past', watchers, tasks, edited, { looks with workspace := same }⟩
  next changed =>
    rw [← same, ← looks.workspace] at changed
    obtain ⟨past', edited⟩ := run.edit_changed looks.living looks.free done changed
    exact ⟨_, past', watchers, tasks, edited,
      { looks with
        workspace := same
        announced := congrArg Workspace.revision same
        generator := by
          rw [Option.toList_map, List.forall₂_map_left_iff]
          exact looks.generator.imp fun _ _ drives => drives.notice _ now }⟩

/-! ### The background generator -/

theorem beginBackground {due : Moment} (follows : Follows e pacing w session jobs)
    (settling : session.generator = some (.settling due)) (due' : Moment) :
    Follows e pacing w
      { session with
        generator :=
          some (.generating due' session.workspace.revision session.generation.code false) }
      jobs := by
  obtain ⟨s, past, watchers, tasks, run, looks⟩ := follows
  obtain ⟨watcher, rfl, drives⟩ := looks.watcher settling
  cases drives with
  | settling _ attends =>
      obtain ⟨watcher', tasks₁, past₁, resting, order₁, rested⟩ :
          ∃ watcher' tasks₁ past₁, watcher'.phase = .resting ∧
            tasks₁.Perm (.background watcher' :: tasks) ∧
            Run e pacing w ({ s with tasks := tasks₁ } :: past₁) := by
        rcases attends with resting | ⟨waiting, unseen⟩
        · exact ⟨watcher, s.tasks, past, resting, looks.order, run⟩
        · obtain ⟨tasks₁, past₁, order₁, noticed⟩ :=
            run.act looks.order (.watch (.notice (.inl waiting) (Nat.ne_of_lt unseen)))
          rw [List.append_nil] at noticed
          exact ⟨_, tasks₁, past₁, rfl, order₁, noticed⟩
      obtain ⟨tasks₂, past₂, order₂, settled⟩ := rested.act order₁ (.watch (.settle resting))
      obtain ⟨tasks₃, past₃, order₃, begun⟩ := settled.act order₂ (.watch (.begin rfl looks.free))
      rw [List.append_nil, List.append_nil] at begun
      refine ⟨_, past₃, [_], tasks, begun,
        { looks with generator := .cons ?_ .nil, order := order₃ }⟩
      rw [Session.generation, looks.ofEmitter, looks.ofPacing, ← looks.workspace]
      exact .generating due' (draft e pacing s.workspace) rfl (Nat.le_refl _)
        (iff_of_false Bool.false_ne_true (Nat.lt_irrefl _))

theorem finishBackground {due : Moment} {revision : Nat} {outcome : Except EmitError String}
    {unseen : Bool} (follows : Follows e pacing w session jobs)
    (generating : session.generator = some (.generating due revision outcome unseen))
    (window : Nat) (now : Moment) :
    Follows e pacing w
      { session.publishGeneration revision outcome with
        generator := some (Generator.resume window now unseen) }
      jobs := by
  obtain ⟨s, past, watchers, tasks, run, looks⟩ := follows
  obtain ⟨watcher, rfl, drives⟩ := looks.watcher generating
  cases drives with
  | generating _ draft drafting seen knows =>
      have order : s.tasks.Perm
          (.background { watcher with phase := .generating draft } :: tasks) := by
        rw [← drafting]
        exact looks.order
      obtain ⟨tasks', past', order', published⟩ :=
        run.publish (fun draft => .background { watcher with phase := .generating draft })
          [.background { watcher with phase := .waiting }] order
          fun _ _ next _ turn => by
            cases next <;> exact .watch (.generate rfl turn)
      refine ⟨_, past', [_], tasks, published,
        { looks with
          generator := .cons ?_ .nil
          order := order'
          display := looks.display_concat _ tasks' }⟩
      cases unseen with
      | true => exact .settling _ (.inr ⟨rfl, knows.1 rfl⟩)
      | false =>
          refine .idle rfl (Nat.le_antisymm seen (Nat.le_of_not_lt fun later => ?_))
          cases knows.2 later

theorem advance {world : World} (follows : Follows e pacing w world.session jobs) (window : Nat)
    (limit : Option Nat) : Follows e pacing w (world.advance window limit).session jobs := by
  fun_induction World.advance world window limit with
  | case1 world due settling isDue ih => exact ih (follows.beginBackground settling _)
  | case2 world due settling later => exact follows
  | case3 world due revision outcome unseen generating isDue ih =>
      exact ih (follows.finishBackground generating window due)
  | case4 world due revision outcome unseen generating later => exact follows
  | case5 world notSettling notGenerating => exact follows

/-- Closing a session puts an end to the rest, so the watcher may do what is left at once. -/
theorem close {world : World} (follows : Follows e pacing w world.session jobs) (now : Moment) :
    Follows e pacing w (world.close now).session jobs := by
  unfold World.close
  split
  next => exact follows
  next generator running =>
    refine advance ?_ 0 none
    obtain ⟨s, past, watchers, tasks, run, looks⟩ := follows
    obtain ⟨watcher, rfl, drives⟩ := looks.watcher running
    refine ⟨s, past, [watcher], tasks, run, { looks with generator := .cons ?_ .nil }⟩
    cases drives with
    | idle waiting seen => exact .idle waiting seen
    | settling due attends => exact .settling now attends
    | generating due draft drafting seen knows => exact .generating due draft drafting seen knows

end Follows

/-! ## Scripts -/

/-- The jobs of an action that has begun. -/
def workJobs : Work → List Job
  | .pending _ .pause => []
  | .pending _ job => [job]
  | .done _ => []

/-- The jobs of a sequence of steps that is being taken. -/
def strandJobs : Strand → List Job
  | .finished _ => []
  | .busy _ work beside _ => workJobs work ++ strandJobs beside

namespace Follows

variable {others : List Job}

theorem poll (world : World) (work : Work)
    (follows : Follows e pacing w world.session (workJobs work ++ others)) (now : Moment) :
    Follows e pacing w (work.poll world now).1.session
      (workJobs (work.poll world now).2 ++ others) := by
  cases work with
  | done reply => exact follows
  | pending due job =>
      unfold Work.poll
      dsimp only
      split
      · cases job with
        | generation reports revision outcome => exact follows.finishGeneration
        | refinement revision refinement => exact follows.finishRefinement
        | pause => exact follows
      · cases job with
        | generation reports revision outcome => exact follows.report _
        | refinement revision refinement => exact follows
        | pause => exact follows

theorem beginAction {world : World} (follows : Follows e pacing w world.session others)
    (now : Moment) (action : Action) :
    Follows e pacing w (action.begin world now).1.session
      (workJobs (action.begin world now).2 ++ others) := by
  cases action with
  | edit edits => exact follows.edit now edits
  | generate =>
      have begun := follows.beginGeneration
        (world.session.generation.reports world.session.pacing now)
      exact poll world (.pending _ (.generation _ _ _)) begun now
  | refine settings service instruction =>
      have begun := follows.beginRefinement settings service instruction
      exact poll (world.report now _) (.pending _ (.refinement _ _)) begun now
  | sleep milliseconds => exact poll world (.pending _ .pause) follows now
  | look => exact follows

mutual

theorem takeAll {world : World} {others : List Job}
    (follows : Follows e pacing w world.session others) (now : Moment) (answers : List Answer)
    (steps : List SolanaBlocks.Step) :
    Follows e pacing w (SolanaBlocks.Step.takeAll world now answers steps).1.session
      (strandJobs (SolanaBlocks.Step.takeAll world now answers steps).2 ++ others) := by
  cases steps with
  | nil =>
      rw [SolanaBlocks.Step.takeAll]
      exact follows
  | cons step steps =>
      have taken := follows.take now step
      rw [SolanaBlocks.Step.takeAll]
      generalize step.take world now = result at taken
      match result, taken with
      | (world, .done reply, .finished beside), taken => exact takeAll taken now _ steps
      | (world, .done reply, .busy ..), taken => exact taken
      | (world, .pending .., beside), taken => exact taken

theorem take {world : World} {others : List Job}
    (follows : Follows e pacing w world.session others) (now : Moment) (step : SolanaBlocks.Step) :
    Follows e pacing w (step.take world now).1.session
      (workJobs (step.take world now).2.1 ++ strandJobs (step.take world now).2.2 ++ others) := by
  cases step with
  | mk action beside =>
      have begun := follows.beginAction now action
      have taken := takeAll begun now [] beside
      rw [SolanaBlocks.Step.take, List.append_assoc]
      exact taken.perm (List.perm_append_comm_assoc _ _ _)

end

theorem pollAll {world : World} {strand : Strand}
    (follows : Follows e pacing w world.session (strandJobs strand ++ others)) (now : Moment) :
    Follows e pacing w (strand.poll world now).1.session
      (strandJobs (strand.poll world now).2 ++ others) := by
  induction strand generalizing world others with
  | finished answers => exact follows
  | busy answers work beside steps ih =>
      rw [strandJobs, List.append_assoc] at follows
      have polled := ih ((poll world work follows now).perm (List.perm_append_comm_assoc _ _ _))
      have polled := polled.perm (List.perm_append_comm_assoc _ _ _)
      rw [Strand.poll]
      generalize work.poll world now = result at polled ⊢
      obtain ⟨world, work⟩ := result
      dsimp only at polled ⊢
      generalize beside.poll world now = result at polled ⊢
      obtain ⟨world, beside⟩ := result
      match work, beside, polled with
      | .done reply, .finished others', polled => exact polled.takeAll now _ steps
      | .done reply, .busy .., polled => rw [strandJobs, List.append_assoc]; exact polled
      | .pending .., beside, polled => rw [strandJobs, List.append_assoc]; exact polled

theorem run {world : World} {strand : Strand}
    (follows : Follows e pacing w world.session (strandJobs strand)) (now : Moment)
    (moments : Nat) :
    Follows e pacing w (strand.run world now moments).1.session
      (strandJobs (strand.run world now moments).2.2) := by
  induction moments generalizing world strand now with
  | zero => exact follows
  | succ moments ih =>
      rw [Strand.run]
      split
      · exact follows
      next moment due =>
        have advanced := follows.advance world.session.pacing.debounce (some moment.time)
        rw [← List.append_nil (strandJobs strand)] at advanced
        have polled := advanced.pollAll moment
        rw [List.append_nil] at polled
        exact ih polled moment

end Follows

/-- Whatever script is played on a session, with a background generator or without, at every moment
the session is at some point of an interleaving that begins on its workspace, and so it is when it
is closed then. -/
theorem follows_script (e : Emitter) (pacing : Pacing) (w : Workspace) (background : Bool)
    (script : List SolanaBlocks.Step) (moments : Nat) :
    let taken := SolanaBlocks.Step.takeAll { session := .start e pacing w background } ⟨0, 0⟩ []
      script
    let played := taken.2.run taken.1 ⟨0, 0⟩ moments
    Follows e pacing w played.1.session (strandJobs played.2.2) ∧
      Follows e pacing w (played.1.close played.2.1).session (strandJobs played.2.2) := by
  intro taken played
  have begun : Follows e pacing w taken.1.session (strandJobs taken.2 ++ []) :=
    (Follows.start e pacing w background).takeAll ⟨0, 0⟩ [] script
  rw [List.append_nil] at begun
  have follows := begun.run ⟨0, 0⟩ moments
  exact ⟨follows, follows.close played.2.1⟩

end SolanaBlocks.Interleaving
