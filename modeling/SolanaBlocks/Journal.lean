import SolanaBlocks.Emission.Error
import SolanaBlocks.Refinement.Error

/-!
# The journal

What the program reports about its own work, as it happens. An event has a level, a message and
named details, and is written on one line.
-/

namespace SolanaBlocks

/-- How much an event matters. -/
inductive Level where
  | debug
  | info
  | warn
deriving DecidableEq, Repr

/-- The level as it is written. -/
def Level.label : Level → String
  | debug => "DEBUG"
  | info => "INFO"
  | warn => "WARN"

/-- Something worth reporting. Lengths of code are in bytes. -/
inductive Event where
  | renderedRoot (block : BlockId) (bytes : Nat)
  | processedBatch (number count blocks : Nat)
  | foundNoOutput (blocks : Nat)
  | generatedDocument (revision roots batches bytes : Nat)
  | editsSettled (revision : Nat)
  | generatorStopped
  | publishedCode (revision bytes : Nat)
  | generationFailed (revision : Nat) (error : EmitError)
  | requestedRefinement (model : String) (blocks : Nat)
  | receivedResponse (response : String)
  | acceptedRefinement (bytes : Nat)
  | refinementFailed (error : RefinementError)
  | metAgain (block : BlockId)
deriving DecidableEq, Repr

namespace Event

/-- How much an event matters. -/
def level : Event → Level
  | renderedRoot .. | processedBatch .. | editsSettled .. | generatorStopped
  | receivedResponse .. => .debug
  | generatedDocument .. | publishedCode .. | requestedRefinement .. | acceptedRefinement .. =>
    .info
  | foundNoOutput .. | generationFailed .. | refinementFailed .. | metAgain .. => .warn

/-- What happened. -/
def message : Event → String
  | renderedRoot .. => "rendered root"
  | processedBatch .. => "processed batch"
  | foundNoOutput .. => "batched generation produced no output, falling back to a full pass"
  | generatedDocument .. => "generated document"
  | editsSettled .. => "edits settled"
  | generatorStopped => "session closed, generator stopping"
  | publishedCode .. => "published generated code"
  | generationFailed .. => "generation failed"
  | requestedRefinement .. => "requesting refinement"
  | receivedResponse .. => "refinement response"
  | acceptedRefinement .. => "refinement accepted"
  | refinementFailed .. => "refinement failed"
  | metAgain .. => "node reached twice during serialization, emitting a stub"

/-- The number of characters of a response that are reported. -/
def reportedLength : Nat := 4000

/-- A response as far as it is reported. -/
def shorten (response : String) : String :=
  let characters := response.toList
  if reportedLength < characters.length then
    String.ofList (characters.take reportedLength) ++ "...<truncated>"
  else response

/-- The details of an event by name. -/
def details : Event → List (String × String)
  | renderedRoot block bytes => [("node", block.text), ("bytes", toString bytes)]
  | processedBatch number count blocks =>
    [("batch", toString number), ("of", toString count), ("nodes", toString blocks)]
  | foundNoOutput blocks => [("nodes", toString blocks)]
  | generatedDocument revision roots batches bytes =>
    [("revision", toString revision), ("roots", toString roots), ("batches", toString batches),
      ("bytes", toString bytes)]
  | editsSettled revision => [("revision", toString revision)]
  | generatorStopped => []
  | publishedCode revision bytes => [("revision", toString revision), ("bytes", toString bytes)]
  | generationFailed revision error =>
    [("revision", toString revision), ("node", error.block.text), ("error", error.message)]
  | requestedRefinement model blocks => [("model", model), ("blocks", toString blocks)]
  | receivedResponse response => [("response", shorten response)]
  | acceptedRefinement bytes => [("bytes", toString bytes)]
  | refinementFailed error => [("error", error.message)]
  | metAgain block => [("node", block.text)]

/-- The line of an event: level, message and details. -/
def line (event : Event) : String :=
  event.level.label ++ " message=" ++ event.message ++
    String.join (event.details.map fun (name, value) => " " ++ name ++ "=" ++ value)

end Event

end SolanaBlocks
