import SolanaBlocks.BlockTree.Json
import SolanaBlocks.Palette.Basic

/-!
# Block types as JSON

The JSON form of a block type, as an editor needs it to build its toolbox.
-/

namespace SolanaBlocks

namespace FieldKind

/-- The JSON form of a field kind. -/
def toJson : FieldKind → Json
  | freeText => .object [("kind", .text "freeText")]
  | number => .object [("kind", .text "number")]
  | choice options =>
    .object
      [("kind", .text "enumChoice"),
        ("options", .array (options.map fun option =>
          .object [("label", .text option.label), ("value", .text option.value)]))]

end FieldKind

/-- The JSON form of a field declaration. -/
def FieldDecl.toJson (field : FieldDecl) : Json :=
  .object
    [("name", .text field.name), ("kind", field.kind.toJson), ("default", field.default.toJson),
      ("required", .bool field.required), ("identifier", .bool field.identifier)]

/-- The JSON form of an arity. -/
def SlotArity.toJson : SlotArity → Json
  | expression => .text "singleExpression"
  | chain => .text "statementChain"

/-- The JSON form of a slot declaration. -/
def SlotDecl.toJson (slot : SlotDecl) : Json :=
  .object
    [("name", .text slot.name), ("arity", slot.arity.toJson), ("required", .bool slot.required),
      ("default_code", slot.defaultCode.elim .null .text)]

/-- The JSON form of a placement. -/
def Placement.toJson : Placement → Json
  | anywhere => .object [("rule", .text "anywhere")]
  | topLevel => .object [("rule", .text "topLevel")]
  | within types => .object [("rule", .text "within"), ("types", .array (types.map .text))]
  | topLevelOr types => .object [("rule", .text "topLevelOr"), ("types", .array (types.map .text))]

/-- The JSON form of a block type. -/
def BlockType.toJson (type : BlockType) : Json :=
  .object
    [("id", .text type.id), ("category", .text type.category),
      ("fields", .array (type.fields.map FieldDecl.toJson)),
      ("slots", .array (type.slots.map SlotDecl.toJson)),
      ("produces_value", .bool type.producesValue),
      ("precedence_tier", type.tier.elim .null fun tier => .integer tier),
      ("placement", type.placement.toJson)]

end SolanaBlocks
