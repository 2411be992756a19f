import SolanaBlocks.Workspace.Basic

/-!
# Why an edit is refused

The causes for which a change to a workspace is turned down, and their wording.
-/

namespace SolanaBlocks

/-- How a block fails to fit the kind of a slot. -/
inductive KindMismatch where
  | statementAsValue
  | valueAsStatement
deriving DecidableEq, Repr

/-- What is wrong with the block, in words that follow its name. -/
def KindMismatch.describe : KindMismatch → String
  | statementAsValue => "is a statement and does not produce a value"
  | valueAsStatement => "is an expression and cannot be chained as a statement"

/-- Why an edit is refused. -/
inductive EditError where
  | unknownType (type : String)
  | noSuchBlock (id : BlockId)
  | duplicateId (id : BlockId)
  | unknownField (type field : String)
  | unknownSlot (type slot : String)
  | wrongArity (owner : BlockId) (slot : String) (expected : SlotArity)
  | wrongKind (owner : BlockId) (slot : String) (child : BlockId) (childType : String)
      (mismatch : KindMismatch)
  | ownAncestor (owner child : BlockId)
  | notInChain (id : BlockId)
deriving DecidableEq, Repr

namespace EditError

/-- What was offered to a slot that expects something else. -/
def offeredInstead : SlotArity → String
  | .expression => "a list of nodes"
  | .chain => "a single node"

/-- The wording of a refusal. -/
def message : EditError → String
  | unknownType type => s!"Block type '{type}' is not registered"
  | noSuchBlock id => s!"Node '{id.text}' does not exist in the graph"
  | duplicateId id => s!"A node with id '{id.text}' already exists in the graph"
  | unknownField type field => s!"Block type '{type}' has no field named '{field}'"
  | unknownSlot type slot => s!"Block type '{type}' has no slot named '{slot}'"
  | wrongArity owner slot expected =>
    s!"Slot '{slot}' on node '{owner.text}' expects {expected.describe}, " ++
      s!"but was given {offeredInstead expected}"
  | wrongKind owner slot child childType mismatch =>
    s!"Node '{child.text}' of type '{childType}' cannot be placed in slot '{slot}' " ++
      s!"of node '{owner.text}': {mismatch.describe}"
  | ownAncestor owner child =>
    s!"Binding node '{child.text}' under '{owner.text}' would make it its own ancestor"
  | notInChain id => s!"Node '{id.text}' is not a member of a statement chain"

end EditError

end SolanaBlocks
