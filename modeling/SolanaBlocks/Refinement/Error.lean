/-!
# Why a refinement fails

A refinement asks an outside service to improve generated code. Its failures say nothing about the
blocks.
-/

namespace SolanaBlocks

/-- Why a refinement fails. -/
inductive RefinementError where
  | http (reason : String)
  | response (reason : String)
  | serialization (reason : String)
  | timeout (seconds : Nat)
  | emptyResponse
  | missingApiKey (variable_ : String)
deriving DecidableEq, Repr

/-- The wording of a failure. -/
def RefinementError.message : RefinementError → String
  | http reason => "http error: " ++ reason
  | response reason => "response error: " ++ reason
  | serialization reason => "serialization error: " ++ reason
  | timeout seconds => s!"refinement request timed out after {seconds} seconds"
  | emptyResponse => "refinement response contained no code"
  | missingApiKey variable_ =>
    s!"missing API key: environment variable '{variable_}' is not set"

end SolanaBlocks
