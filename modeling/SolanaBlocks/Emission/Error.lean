import SolanaBlocks.Workspace.Basic

/-!
# Why a workspace has no code

The causes for which a block cannot be turned into code. Every cause names the block that an editor
should point at.
-/

namespace SolanaBlocks

/-- What is wrong with the value of a field. A renderer of one's own may state its own reason. -/
inductive FieldFault where
  | notAnIdentifier
  | notAmong (options : List String)
  | notFinite
  | notAnIndex
  | unclosedSeed
  | stated (reason : String)
deriving DecidableEq, Repr

/-- The fault in words. -/
def FieldFault.describe : FieldFault → String
  | notAnIdentifier => "is not a valid Rust identifier"
  | notAmong options => "expected one of " ++ ", ".intercalate options
  | notFinite => "is not a finite number"
  | notAnIndex => "must be a non-negative integer"
  | unclosedSeed => "string seed is missing its closing quote"
  | stated reason => reason

/-- How the content of a slot differs from what the slot should hold. -/
inductive ContentFault where
  | chainAsValue
  | statementAsValue
  | singleAsChain
  | valueAsStatement
  | stated (reason : String)
deriving DecidableEq, Repr

/-- The fault in words that follow the name of the content. -/
def ContentFault.describe : ContentFault → String
  | chainAsValue => "is a statement chain where an expression is expected"
  | statementAsValue => "is a statement and does not produce a value"
  | singleAsChain => "is a single block where a statement chain is expected"
  | valueAsStatement => "produces a value and cannot be used as a statement"
  | stated reason => reason

/-- Why a block may not stand where it does: its type asks for another place, or something else is
said against it. -/
inductive PlacementFault where
  | against (placement : Placement)
  | stated (reason : String)
deriving DecidableEq, Repr

/-- What a placement asks for, in words. -/
def Placement.demand : Placement → String
  | anywhere => "may be placed anywhere"
  | topLevel => "must be placed at the top level"
  | within types => "must be placed inside one of: " ++ ", ".intercalate types
  | topLevelOr types =>
    "must be placed at the top level or inside one of: " ++ ", ".intercalate types

/-- The fault in words. -/
def PlacementFault.describe : PlacementFault → String
  | against placement => placement.demand
  | stated reason => reason

/-- Why a block has no code. -/
inductive EmitError where
  | unknownType (block : BlockId) (type : String)
  | noRenderer (block : BlockId) (type : String)
  | missingField (block : BlockId) (field : String)
  | missingSlot (block : BlockId) (slot : String)
  | invalidField (block : BlockId) (field value : String) (fault : FieldFault)
  | misplaced (block : BlockId) (type : String) (fault : PlacementFault)
  | wrongContent (block : BlockId) (slot : String) (child : BlockId) (fault : ContentFault)
  | cyclic (block : BlockId)
  | dangling (block : BlockId)
deriving DecidableEq, Repr

namespace EmitError

/-- The block to point at. -/
def block : EmitError → BlockId
  | unknownType block _ | noRenderer block _ | missingField block _ | missingSlot block _
  | invalidField block _ _ _ | misplaced block _ _ | wrongContent block _ _ _ | cyclic block
  | dangling block => block

/-- The wording of an error. -/
def message : EmitError → String
  | unknownType block type => s!"Node '{block.text}' references unregistered block type '{type}'"
  | noRenderer block type =>
    s!"No renderer is registered for block type '{type}' (node '{block.text}')"
  | missingField block field => s!"Node '{block.text}' is missing required field '{field}'"
  | missingSlot block slot => s!"Node '{block.text}' is missing required slot '{slot}'"
  | invalidField block field value fault =>
    s!"Field '{field}' on node '{block.text}' has invalid value '{value}': {fault.describe}"
  | misplaced block type fault =>
    s!"Node '{block.text}' of type '{type}' cannot be placed here: {fault.describe}"
  | wrongContent block slot child fault =>
    s!"Slot '{slot}' on node '{block.text}' holds node '{child.text}', which {fault.describe}"
  | cyclic block =>
    s!"Node '{block.text}' was reached twice while walking the graph; the chain is cyclic"
  | dangling block => s!"Node '{block.text}' is referenced by the graph but does not exist"

end EmitError

end SolanaBlocks
