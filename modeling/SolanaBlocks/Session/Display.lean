import SolanaBlocks.Emission.Error
import SolanaBlocks.Refinement.Error

/-!
# What is on display

The display shows the last good code, the revision it belongs to, and a banner if something went
wrong since. Outcomes may come in late: one that is older than the code on show is dropped, and
generated code only takes the place of refined code if it is of a later revision.
-/

namespace SolanaBlocks

/-- Where the code on display comes from. -/
inductive Source where
  | generated
  | refined
deriving DecidableEq, Repr

/-- A note about a failure. It points at a block if the blocks are to blame. -/
inductive Banner where
  | generation (error : EmitError)
  | refinement (error : RefinementError)
deriving DecidableEq, Repr

namespace Banner

/-- The text of a note. -/
def message : Banner → String
  | generation error => error.message
  | refinement error => error.message

/-- The block to point at. -/
def block? : Banner → Option BlockId
  | generation error => some error.block
  | refinement _ => none

end Banner

/-- What is on display. -/
structure Display where
  code : String := ""
  source : Source := .generated
  revision : Nat := 0
  banner : Option Banner := none
deriving DecidableEq, Repr

namespace Display

/-- Whether the outcome of generating a revision still counts. -/
def takesGeneration (d : Display) (revision : Nat) : Bool :=
  match d.source with
  | .generated => d.revision ≤ revision
  | .refined => d.revision < revision

/-- Whether the outcome of refining a revision still counts. -/
def takesRefinement (d : Display) (revision : Nat) : Bool :=
  d.revision ≤ revision

/-- Puts new code on display. -/
def showCode (source : Source) (revision : Nat) (code : String) : Display where
  code := code
  source := source
  revision := revision

/-- Puts a banner beside the code. -/
def showBanner (d : Display) (banner : Banner) : Display :=
  { d with banner := some banner }

/-- Takes in the outcome of generating a revision, unless it comes too late. -/
def applyGeneration (d : Display) (revision : Nat) (outcome : Except EmitError String) : Display :=
  if d.takesGeneration revision then
    match outcome with
    | .ok code => showCode .generated revision code
    | .error error => d.showBanner (.generation error)
  else d

/-- Takes in the outcome of refining a revision, unless it comes too late. -/
def applyRefinement (d : Display) (revision : Nat) (outcome : Except RefinementError String) :
    Display :=
  if d.takesRefinement revision then
    match outcome with
    | .ok code => showCode .refined revision code
    | .error error => d.showBanner (.refinement error)
  else d

/-- Removes the banner. -/
def dismiss (d : Display) : Display :=
  { d with banner := none }

end Display

end SolanaBlocks
