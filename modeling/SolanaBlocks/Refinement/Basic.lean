import SolanaBlocks.BlockTree.Prompt
import SolanaBlocks.Settings.Basic
import SolanaBlocks.Text.Fenced
import SolanaBlocks.Wait

/-!
# Refinements

A refinement sends a prompt to a service and takes the code out of its answer. The service is given
by what it answers and by the time it takes; an answer that comes after the time limit is not waited
for.
-/

namespace SolanaBlocks

/-- What is sent to the service. -/
structure RefinementRequest where
  prompt : Prompt
  model : String
  temperature : Float32

/-- What a service does with a request: its answer, and the milliseconds until it comes. -/
structure Service where
  answer : Except RefinementError String
  delay : Nat := 0

/-- A refinement from its start to its end: what was sent, what came of it, the milliseconds it
took, and what it reports at its start and at its end. -/
structure Refinement where
  request : RefinementRequest
  outcome : Except RefinementError String
  duration : Nat
  opening : List Event
  closing : List Event

/-- The code in an answer. Without any code the answer is no use. -/
def Service.codeOf (answer : String) : Except RefinementError String :=
  let code := Text.codeIn answer
  if code.isEmpty then .error .emptyResponse else .ok code

/-- What comes of a request under a time limit in seconds. -/
def Service.respond (service : Service) (limit : Nat) : Except RefinementError String :=
  if waitTime service.delay ≤ 1000 * limit then service.answer else .error (.timeout limit)

/-- The refinement of some code that was generated for some blocks. -/
def refine (settings : RefinementSettings) (service : Service) (trees : List BlockTree)
    (code : Option String) (instruction : String) : Refinement :=
  let response := service.respond settings.timeout
  let outcome := response.bind Service.codeOf
  { request := ⟨Prompt.ofBlocks trees code instruction, settings.model, settings.temperature⟩
    outcome := outcome
    duration := min (waitTime service.delay) (1000 * settings.timeout)
    opening := [.requestedRefinement settings.model trees.length]
    closing :=
      match response, outcome with
      | .ok answer, .ok code => [.receivedResponse answer, .acceptedRefinement code.utf8ByteSize]
      | .ok answer, .error _ => [.receivedResponse answer]
      | .error _, _ => [] }

end SolanaBlocks
