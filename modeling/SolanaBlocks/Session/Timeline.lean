import SolanaBlocks.Session.Basic

/-!
# Sessions in time

What happens in a session when its user acts by a script. The clock stands still while something can
be done and then jumps to the next instant at which something is due. Several parts of a script may
run side by side; within one instant they take turns, the outermost first.

What the background generator has to do before an instant is done when this instant comes.
-/

namespace SolanaBlocks

/-- What a generation reports that begins at some moment, each event with its moment. -/
def Generation.reports (g : Generation) (pacing : Pacing) (start : Moment) :
    List (Moment × Event) :=
  g.journal.map fun (pauses, event) => (start.afterPauses pacing.batchDelay pauses, event)

/-- A session and what it has reported, each event with its moment. -/
structure World where
  session : Session
  journal : List (Moment × Event) := []

namespace World

/-- Adds events at one moment to the journal. -/
def report (world : World) (moment : Moment) (events : List Event) : World :=
  { world with journal := world.journal ++ events.map (moment, ·) }

/-- Adds events at moments of their own to the journal. -/
def reportEntries (world : World) (entries : List (Moment × Event)) : World :=
  { world with journal := world.journal ++ entries }

/-- The world with the background generator in another state. -/
def withGenerator (world : World) (generator : Generator) : World :=
  { world with session := { world.session with generator := some generator } }

/-! ## The background generator -/

/-- Edits have rested: begins a generation. -/
def beginBackground (world : World) (now : Moment) : World :=
  let session := world.session
  let g := session.generation
  let world := world.report now [.editsSettled session.announced]
  let world := world.reportEntries (g.reports session.pacing now)
  world.withGenerator (.generating (now.afterPauses session.pacing.batchDelay g.pauses)
    session.workspace.revision g.code false)

/-- Hands in the outcome of a generation in the background. -/
def finishBackground (world : World) (window : Nat) (now : Moment) (revision : Nat)
    (outcome : Except EmitError String) (unseen : Bool) : World :=
  let world := world.report now [Session.generationEvent revision outcome]
  let world := { world with session := world.session.publishGeneration revision outcome }
  world.withGenerator (Generator.resume window now unseen)

/-- How many steps the generator has to take until it is idle. -/
def backgroundWork (world : World) : Nat :=
  match world.session.generator with
  | none | some .idle => 0
  | some (.generating _ _ _ false) => 1
  | some (.settling _) => 2
  | some (.generating _ _ _ true) => 3

/-- Does all background work that is due before the time `limit`, or all there is, where edits have
to rest for `window`. -/
def advance (world : World) (window : Nat) (limit : Option Nat) : World :=
  match _ : world.session.generator with
  | some (.settling due) =>
    if limit.all (due.time < ·) then (world.beginBackground due).advance window limit else world
  | some (.generating due revision outcome unseen) =>
    if limit.all (due.time < ·) then
      (world.finishBackground window due revision outcome unseen).advance window limit
    else world
  | _ => world
termination_by world.backgroundWork
decreasing_by
  · simp [backgroundWork, beginBackground, withGenerator, *]
  · cases unseen <;>
      simp [backgroundWork, finishBackground, withGenerator, Generator.resume, *]

/-- Closes the session. Nothing more can be edited, so nobody waits for edits to rest; the generator
does what it has to do and stops. -/
def close (world : World) (now : Moment) : World :=
  match world.session.generator with
  | none => world
  | some generator =>
    let hurried : Generator :=
      match generator with
      | .settling _ => .settling now
      | other => other
    let world := (world.withGenerator hurried).advance 0 none
    let last := world.journal.foldl (fun last (moment, _) => last.latest moment) now
    world.report last [.generatorStopped]

end World

/-! ## Scripts -/

/-- What a user can do. -/
inductive Action where
  | edit (edits : List Edit)
  | generate
  | refine (settings : RefinementSettings) (service : Service) (instruction : String)
  | sleep (milliseconds : Nat)
  | look

/-- An action, and steps to be taken beside it. The whole is done when both are. -/
inductive Step where
  | mk (action : Action) (beside : List Step)

instance : Inhabited Step := ⟨.mk .look []⟩

/-- What came of an action. -/
inductive Reply where
  | edited (results : List EditResult) (refusal : Option EditError)
  | generated (outcome : Except EmitError String)
  | refined (refinement : Refinement)
  | slept
  | saw (session : Session)

/-- What came of a step: the reply to its action, the time and the display when the step was done,
and what came of the steps beside it. -/
inductive Answer where
  | mk (reply : Reply) (time : Nat) (display : Display) (beside : List Answer)

/-- What remains of an action that takes time: what a generation has yet to report, and what is to
be done at the end. -/
inductive Job where
  | generation (reports : List (Moment × Event)) (revision : Nat)
    (outcome : Except EmitError String)
  | refinement (revision : Nat) (refinement : Refinement)
  | pause

/-- An action that has begun: it waits for a moment, or it is done. -/
inductive Work where
  | pending (due : Moment) (job : Job)
  | done (reply : Reply)

/-- A sequence of steps that is being taken: the answers so far, the work on the present step and
the steps beside it, and the steps to come. -/
inductive Strand where
  | finished (answers : List Answer)
  | busy (answers : List Answer) (work : Work) (beside : Strand) (steps : List Step)

/-- Reports what an action has done by now. -/
def Job.progress (world : World) (now : Moment) : Job → World × Job
  | .generation reports revision outcome =>
    let (past, future) := reports.partition fun (moment, _) => moment.isAtMost now
    (world.reportEntries past, .generation future revision outcome)
  | job => (world, job)

/-- Brings an action to its end. -/
def Job.finish (world : World) (now : Moment) : Job → World × Reply
  | .pause => (world, .slept)
  | .generation reports revision outcome =>
    let world := world.reportEntries reports
    let world := world.report now [Session.generationEvent revision outcome]
    ({ world with session := world.session.publishGeneration revision outcome }, .generated outcome)
  | .refinement revision answered =>
    let failed : List Event :=
      match answered.outcome with
      | .ok _ => []
      | .error error => [.refinementFailed error]
    let world := world.report now (answered.closing ++ failed)
    let session := world.session.publishRefinement revision answered.outcome
    ({ world with session := session }, .refined answered)

/-- Work that is finished if it is due, and goes on if not. -/
def Work.poll (world : World) (now : Moment) : Work → World × Work
  | .pending due job =>
    if due.isAtMost now then
      let (world, reply) := job.finish world now
      (world, .done reply)
    else
      let (world, job) := job.progress world now
      (world, .pending due job)
  | .done reply => (world, .done reply)

/-- Begins an action, which may be done at once. -/
def Action.begin (world : World) (now : Moment) (action : Action) : World × Work :=
  let session := world.session
  let revision := session.workspace.revision
  match action with
  | .edit edits =>
    let (session, results, refusal) := session.edit now edits
    ({ world with session := session }, .done (.edited results refusal))
  | .generate =>
    let g := session.generation
    let due := now.afterPauses session.pacing.batchDelay g.pauses
    (Work.pending due (.generation (g.reports session.pacing now) revision g.code)).poll world now
  | .refine settings service instruction =>
    let (refinement, again) := session.refinement settings service instruction
    let world := world.report now (again.map .metAgain ++ refinement.opening)
    (Work.pending (now.afterTime refinement.duration) (.refinement revision refinement)).poll
      world now
  | .sleep milliseconds => (Work.pending (now.afterTime milliseconds) .pause).poll world now
  | .look => (world, .done (.saw session))

mutual

/-- Takes steps as far as they can be taken now. -/
def Step.takeAll (world : World) (now : Moment) (answers : List Answer) :
    List Step → World × Strand
  | [] => (world, .finished answers)
  | step :: steps =>
    match step.take world now with
    | (world, .done reply, .finished beside) =>
      let answer : Answer := .mk reply now.time world.session.display beside
      Step.takeAll world now (answers ++ [answer]) steps
    | (world, work, beside) => (world, .busy answers work beside steps)

/-- Begins a step and what is beside it. -/
def Step.take (world : World) (now : Moment) : Step → World × Work × Strand
  | .mk action beside =>
    let (world, work) := action.begin world now
    let (world, strand) := Step.takeAll world now [] beside
    (world, work, strand)

end

mutual

/-- The number of steps, those beside others included. -/
def Step.countAll : List Step → Nat
  | [] => 0
  | step :: steps => step.count + Step.countAll steps

/-- The number of steps that a step consists of. -/
def Step.count : Step → Nat
  | .mk _ beside => 1 + Step.countAll beside

end

namespace Strand

/-- The next moment at which something is due. -/
def due? : Strand → Option Moment
  | finished _ => none
  | busy _ work beside _ =>
    match work with
    | .pending due _ => Moment.earliest (some due) beside.due?
    | .done _ => beside.due?

/-- Finishes what is due and goes on from there. -/
def poll (world : World) (now : Moment) : Strand → World × Strand
  | finished answers => (world, finished answers)
  | busy answers work beside steps =>
    let (world, work) := work.poll world now
    let (world, beside) := beside.poll world now
    match work, beside with
    | .done reply, finished others =>
      let answer : Answer := .mk reply now.time world.session.display others
      Step.takeAll world now (answers ++ [answer]) steps
    | work, beside => (world, busy answers work beside steps)

/-- The answers there are. -/
def answers : Strand → List Answer
  | finished answers | busy answers _ _ _ => answers

/-- Lets time pass until everything is done, from one moment at which something is due to the next,
at most `moments` times. -/
def run (world : World) (now : Moment) (strand : Strand) :
    (moments : Nat) → World × Moment × Strand
  | 0 => (world, now, strand)
  | moments + 1 =>
    match strand.due? with
    | none => (world, now, strand)
    | some moment =>
      let world := world.advance world.session.pacing.debounce (some moment.time)
      let (world, strand) := strand.poll world moment
      strand.run world moment moments

end Strand

/-- A session that has been played through: the answers to the script, and the journal in the order
of time. -/
structure Playback where
  answers : List Answer
  journal : List (Moment × Event)

/-- Plays a script from the beginning of a session to its end. At every moment but the first at
least one step is finished. -/
def Session.play (session : Session) (script : List Step) : Playback :=
  let start : Moment := { time := 0 }
  let (world, strand) := Step.takeAll { session := session } start [] script
  let (world, now, strand) := strand.run world start (Step.countAll script)
  let world := world.close now
  { answers := strand.answers
    journal := world.journal.mergeSort fun a b => a.1.isAtMost b.1 }

end SolanaBlocks
