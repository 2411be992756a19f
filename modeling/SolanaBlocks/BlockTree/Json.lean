import SolanaBlocks.BlockTree.Basic
import SolanaBlocks.Json.Value

/-!
# Block trees as JSON

The JSON form of a block tree: an object with the id, the type, the fields and the inputs, and with
the successor and the mark of a stub where they apply. An input is `null`, a block, or an array for
a chain.
-/

namespace SolanaBlocks

/-- The JSON form of a field value. -/
def FieldValue.toJson : FieldValue → Json
  | number value => .float value
  | text value => .text value

namespace BlockTree

mutual

/-- The JSON form of a tree. -/
def toJson : BlockTree → Json
  | .mk id type fields inputs next revisited =>
    .object <|
      [("id", .text id.text), ("type", .text type),
        ("fields", .object (fields.toList.map fun (name, value) => (name, value.toJson))),
        ("inputs", .object (inputsToJson inputs))] ++
      (match next with
        | none => []
        | some next => [("next", .text next.text)]) ++
      (if revisited then [("revisited", .bool true)] else [])

/-- The entries for the slots of a block. -/
def inputsToJson : List TreeInput → List (String × Json)
  | [] => []
  | .empty slot :: rest => (slot, .null) :: inputsToJson rest
  | .single slot child :: rest => (slot, toJson child) :: inputsToJson rest
  | .chain slot members :: rest => (slot, .array (listToJson members)) :: inputsToJson rest

/-- The JSON forms of several trees. -/
def listToJson : List BlockTree → List Json
  | [] => []
  | tree :: rest => toJson tree :: listToJson rest

end

/-- The JSON text of a list of trees. -/
def write (trees : List BlockTree) : String :=
  (Json.array (listToJson trees)).pretty

end BlockTree

end SolanaBlocks
