import SolanaBlocks.BlockTree.Export
import SolanaBlocks.Refinement.Basic
import SolanaBlocks.Session.Display
import SolanaBlocks.Session.Moment
import SolanaBlocks.Workspace.Edit

/-!
# Editing sessions

A session is a workspace under edit together with the code on display. Generations and refinements
work on the workspace as it is when they begin and hand in their outcome later, under the revision
they began with, so edits made meanwhile do not touch them.

A session may have a background generator, which regenerates once edits have come to rest. It is
told of every change. While it generates it only notes that something has changed, and looks at it
when it is done.
-/

namespace SolanaBlocks

/-- What the background generator is doing: it waits for a change; it waits for edits to rest until
some moment; or it is generating and will hand in the outcome for a revision at some moment, having
noted or not that something has changed since. -/
inductive Generator where
  | idle
  | settling (due : Moment)
  | generating (due : Moment) (revision : Nat) (outcome : Except EmitError String) (unseen : Bool)

namespace Generator

/-- The generator after it has been told of a change, where edits have to rest for `window`. -/
def notice (window : Nat) (now : Moment) : Generator → Generator
  | idle | settling _ => settling (now.afterTime window)
  | generating due revision outcome _ => generating due revision outcome true

/-- The generator after it has handed in an outcome. -/
def resume (window : Nat) (now : Moment) (unseen : Bool) : Generator :=
  if unseen then settling (now.afterTime window) else idle

end Generator

/-- A workspace under edit and what is on display. `announced` is the revision that was last made
known, and `published` says whether an outcome has ever been handed in. -/
structure Session where
  emitter : Emitter
  pacing : Pacing
  workspace : Workspace
  announced : Nat
  display : Display := {}
  published : Bool := false
  generator : Option Generator := none

namespace Session

/-- A session at its beginning. -/
def start (emitter : Emitter) (pacing : Pacing) (w : Workspace) (background : Bool) : Session where
  emitter := emitter
  pacing := pacing
  workspace := w
  announced := w.revision
  generator := if background then some .idle else none

/-- Carries out edits up to the first that is refused, and makes the new revision known if there is
one. -/
def edit (s : Session) (now : Moment) (edits : List Edit) :
    Session × List EditResult × Option EditError :=
  let (w, results, refusal) := s.workspace.applyAll edits
  let s' :=
    if w.revision = s.workspace.revision then { s with workspace := w }
    else
      { s with
        workspace := w
        announced := w.revision
        generator := s.generator.map (Generator.notice s.pacing.debounce now) }
  (s', results, refusal)

/-- A generation of the workspace as it is now. -/
def generation (s : Session) : Generation :=
  s.emitter.generate s.pacing s.workspace

/-- Hands in the outcome of a generation. -/
def publishGeneration (s : Session) (revision : Nat) (outcome : Except EmitError String) :
    Session :=
  { s with display := s.display.applyGeneration revision outcome, published := true }

/-- The report about an outcome that is handed in. -/
def generationEvent (revision : Nat) : Except EmitError String → Event
  | .ok code => .publishedCode revision code.utf8ByteSize
  | .error error => .generationFailed revision error

/-- A refinement of the code on display for the workspace as it is now, and the blocks that the
export of the workspace met again. -/
def refinement (s : Session) (settings : RefinementSettings) (service : Service)
    (instruction : String) : Refinement × List BlockId :=
  let (trees, again) := s.workspace.exportRoots
  (refine settings service trees (some s.display.code) instruction, again)

/-- Hands in the outcome of a refinement. -/
def publishRefinement (s : Session) (revision : Nat) (outcome : Except RefinementError String) :
    Session :=
  { s with display := s.display.applyRefinement revision outcome, published := true }

end Session

end SolanaBlocks
