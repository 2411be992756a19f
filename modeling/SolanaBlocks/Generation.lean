import SolanaBlocks.Emission.Document
import SolanaBlocks.Journal
import SolanaBlocks.Wait

/-!
# Generation

A generation makes the document of a workspace in batches, so that others get a turn in between. It
goes through every block that can be reached from the roots; a root is rendered when its batch comes
up, and everything below a root is covered by it. After each batch but the last there is a pause.

A generation is described by its outcome, by the number of its pauses and by what it reports, each
entry with the number of pauses before it. How long a pause takes is left to the clock.
-/

namespace SolanaBlocks

/-- How generations are spread over time: the blocks in one batch, the pause after a batch, and how
long edits have to rest before a generation follows them; times are in milliseconds. -/
structure Pacing where
  batchSize : Nat := 25
  batchDelay : Nat := 10
  debounce : Nat := 300
deriving DecidableEq, Repr

/-- What a successful generation did. -/
structure Report where
  blocks : Nat
  batches : Nat
  roots : Nat
  usedFallback : Bool := false
deriving DecidableEq, Repr

/-- A generation from its start to its end. -/
structure Generation where
  outcome : Except EmitError (String × Report)
  pauses : Nat
  journal : List (Nat × Event)

/-- A list cut into batches of `size` elements, the last one holding what is left. A size of zero
counts as one. -/
def cutBatches {α : Type} (size : Nat) (list : List α) : List (List α) :=
  match list with
  | [] => []
  | a :: rest => (a :: rest.take (size - 1)) :: cutBatches size (rest.drop (size - 1))
termination_by list.length
decreasing_by
  simp only [List.length_drop, List.length_cons]
  omega

/-- The batches of a generation as far as they came: the fragments of the roots, the pauses, the
entries in the journal, and the failure if there was one. -/
structure BatchRun where
  rendered : List (BlockId × Fragment) := []
  pauses : Nat := 0
  journal : List (Nat × Event) := []
  failure : Option EmitError := none

namespace Emitter

/-- The reports about rendered roots. -/
def rootEvents (rendered : List (BlockId × Fragment)) : List Event :=
  rendered.map fun (id, fragment) => .renderedRoot id fragment.code.utf8ByteSize

/-- The reports of a pass over all roots. -/
def documentEvents (e : Emitter) (w : Workspace) : List Event :=
  rootEvents (e.renderRoots w w.roots).1

/-- Runs batches of which `done` have been run before, out of `count`. -/
def runBatches (e : Emitter) (w : Workspace) (count : Nat) : Nat → List (List BlockId) → BatchRun
  | _, [] => {}
  | done, batch :: rest =>
    let (rendered, failure) := e.renderRoots w (batch.filter w.isRoot)
    let reports := rootEvents rendered
    match failure with
    | some _ => ⟨rendered, done, reports.map (done, ·), failure⟩
    | none =>
      let entries :=
        (reports ++ [Event.processedBatch (done + 1) count batch.length]).map (done, ·)
      if rest.isEmpty then ⟨rendered, done, entries, none⟩
      else
        let later := e.runBatches w count (done + 1) rest
        { later with rendered := rendered ++ later.rendered, journal := entries ++ later.journal }

/-- Generates the document of a workspace. A failure discards what was rendered before it. When the
batches have given no code, one more pass over the roots is made. -/
def generate (e : Emitter) (pacing : Pacing) (w : Workspace) : Generation :=
  let queue := w.workQueue
  let batches := cutBatches pacing.batchSize queue
  let run := e.runBatches w batches.length 0 batches
  match run.failure with
  | some failure => ⟨.error failure, run.pauses, run.journal⟩
  | none =>
    let code := assemble (run.rendered.map fun (_, fragment) => fragment.asRoot)
    let finish (code : String) (usedFallback : Bool) (extra : List Event) : Generation :=
      let report : Report := ⟨queue.length, batches.length, run.rendered.length, usedFallback⟩
      let last : Event :=
        .generatedDocument w.revision report.roots report.batches code.utf8ByteSize
      ⟨.ok (code, report), run.pauses,
        run.journal ++ (extra ++ [last]).map (run.pauses, ·)⟩
    if code.isEmpty then
      let extra := .foundNoOutput queue.length :: e.documentEvents w
      match e.emitDocument w with
      | .error failure =>
        ⟨.error failure, run.pauses, run.journal ++ extra.map (run.pauses, ·)⟩
      | .ok code => finish code true extra
    else finish code false []

end Emitter

namespace Generation

/-- The time that the pauses take. -/
def duration (g : Generation) (pacing : Pacing) : Nat :=
  g.pauses * waitTime pacing.batchDelay

/-- The code, or why there is none. -/
def code (g : Generation) : Except EmitError String :=
  g.outcome.map Prod.fst

end Generation

end SolanaBlocks
