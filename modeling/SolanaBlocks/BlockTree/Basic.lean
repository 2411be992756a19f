import SolanaBlocks.Workspace.Basic

/-!
# Block trees

The nested form of blocks: a block with its fields, and in each slot the blocks that sit there. This
is the form in which a workspace is saved and shown to others. Fields and inputs stand in the order
of their names.

A block that has been given in full somewhere before is only named: such a stub is marked as
revisited and holds nothing else.
-/

namespace SolanaBlocks

mutual

/-- A block with everything below it. `next` names its successor in a chain. -/
inductive BlockTree where
  | mk (id : BlockId) (type : String) (fields : NameTable FieldValue) (inputs : List TreeInput)
      (next : Option BlockId) (revisited : Bool)

/-- What a slot holds, together with the name of the slot. -/
inductive TreeInput where
  | empty (slot : String)
  | single (slot : String) (child : BlockTree)
  | chain (slot : String) (members : List BlockTree)

end

instance : Inhabited BlockTree := ⟨.mk ⟨""⟩ "" ∅ [] none false⟩

namespace TreeInput

/-- The name of the slot. -/
def slot : TreeInput → String
  | empty slot | single slot _ | chain slot _ => slot

/-- Inputs in the order of their slots with one more among them. It replaces an input of the same
slot. -/
def place (input : TreeInput) : List TreeInput → List TreeInput
  | [] => [input]
  | other :: rest =>
    match compare input.slot other.slot with
    | .lt => input :: other :: rest
    | .eq => input :: rest
    | .gt => other :: place input rest

end TreeInput

namespace BlockTree

/-- The id of the block. -/
def id : BlockTree → BlockId
  | mk id _ _ _ _ _ => id

/-- The type of the block. -/
def type : BlockTree → String
  | mk _ type _ _ _ _ => type

/-- The fields of the block. -/
def fields : BlockTree → NameTable FieldValue
  | mk _ _ fields _ _ _ => fields

/-- What the slots of the block hold. -/
def inputs : BlockTree → List TreeInput
  | mk _ _ _ inputs _ _ => inputs

/-- The successor of the block in a chain. -/
def next : BlockTree → Option BlockId
  | mk _ _ _ _ next _ => next

/-- Whether this only names a block. -/
def revisited : BlockTree → Bool
  | mk _ _ _ _ _ revisited => revisited

/-- The mention of a block that is given in full elsewhere. -/
def stub (id : BlockId) (type : String) : BlockTree :=
  mk id type ∅ [] none true

end BlockTree

end SolanaBlocks
