import SolanaBlocks.Emission.Rendering
import SolanaBlocks.Text.Identifier
import SolanaBlocks.Text.Lines
import SolanaBlocks.Workspace.Walk

/-!
# What a renderer sees

A renderer works at a site: one block of a workspace, seen through the palette of the emitter. From
there it reads fields, which are checked as the type declares them, and asks for the code in slots,
which is checked against the kind of the slot and put in parentheses where precedence needs them.
-/

namespace SolanaBlocks

/-- One block of a workspace as it is being rendered. -/
structure Site where
  workspace : Workspace
  palette : Palette
  unit : String
  id : BlockId
  block : Block

namespace Site

/-- The same surroundings, seen from another block. -/
def moveTo (site : Site) (id : BlockId) (block : Block) : Site :=
  { site with id := id, block := block }

/-- The declaration of the block's type. -/
def type (site : Site) : Except EmitError BlockType :=
  match site.palette.get? site.block.type with
  | none => .error (.unknownType site.id site.block.type)
  | some type => .ok type

/-- The block that owns this one, with its own surroundings. -/
def owner? (site : Site) : Option Site :=
  (site.workspace.owner? site.id).bind fun owner =>
    (site.workspace.get? owner).map (site.moveTo owner)

/-! ## Fields -/

/-- The declaration of a field. -/
def fieldDecl (site : Site) (name : String) : Except EmitError FieldDecl := do
  let type ← site.type
  match type.field? name with
  | none => throw (.missingField site.id name)
  | some field => return field

/-- The value of a declared field, or its default. -/
def fieldValue (site : Site) (field : FieldDecl) : FieldValue :=
  (site.block.fields[field.name]?).getD field.default

/-- A text field. A required one may not be blank; an identifier loses the blanks around it and has
to be one. -/
def text (site : Site) (name : String) : Except EmitError String := do
  let field ← site.fieldDecl name
  let raw := (site.fieldValue field).display
  let trimmed := Text.trim raw
  if field.required && trimmed.isEmpty then
    throw (.missingField site.id name)
  if field.identifier then
    if Text.isIdentifier trimmed then return trimmed
    else throw (.invalidField site.id name trimmed .notAnIdentifier)
  return raw

/-- A dropdown field, whose value has to be one of the declared options. -/
def choice (site : Site) (name : String) : Except EmitError String := do
  let field ← site.fieldDecl name
  let raw := (site.fieldValue field).display
  match field.options? with
  | none => return raw
  | some options =>
    if raw.isEmpty && field.required then
      throw (.missingField site.id name)
    let values := options.map Choice.value
    if values.contains raw then return raw
    else throw (.invalidField site.id name raw (.notAmong values))

/-- A number field. The number has to be finite. -/
def number (site : Site) (name : String) : Except EmitError BinaryNumber := do
  let field ← site.fieldDecl name
  let value := (site.block.fields[name]?).getD field.default
  match value.number?.map BinaryNumber.ofFloat with
  | some (.finite negative significand exponent) => return .finite negative significand exponent
  | _ => throw (.invalidField site.id name value.display .notFinite)

/-! ## Slots -/

/-- The declaration of a slot. -/
def slotDecl (site : Site) (slot : String) : Except EmitError SlotDecl := do
  let type ← site.type
  match type.slot? slot with
  | none => throw (.missingSlot site.id slot)
  | some declaration => return declaration

/-- Whether a slot holds anything. -/
def isBound (site : Site) (slot : String) : Bool :=
  (site.block.slots[slot]?).isSome

/-- A block that a slot or link refers to, with its type. -/
def resolve (site : Site) (id : BlockId) : Except EmitError (Block × BlockType) :=
  match site.workspace.get? id with
  | none => .error (.dangling id)
  | some block => (site.moveTo id block).type.map fun type => (block, type)

/-- The expression in a slot, in parentheses if it is looser than `required`; nothing if the slot is
empty and may be. -/
def value? (site : Site) (slot : String) (required : Tier) : Rendering (Option String) := do
  let declaration ← .ofExcept (site.slotDecl slot)
  match site.block.slots[slot]? with
  | none =>
    if declaration.required then .fail (.missingSlot site.id slot) else return none
  | some (.chain head) => .fail (.wrongContent site.id slot head .chainAsValue)
  | some (.single child) =>
    let (_, type) ← .ofExcept (site.resolve child)
    if type.producesValue then
      let fragment ← .fragment child
      return some (fragment.wrap required)
    else .fail (.wrongContent site.id slot child .statementAsValue)

/-- The expression in a slot, or the code that stands in for an empty one. -/
def value (site : Site) (slot : String) (required : Tier) : Rendering String := do
  match ← site.value? slot required with
  | some code => return code
  | none =>
    let declaration ← .ofExcept (site.slotDecl slot)
    match declaration.defaultCode with
    | some code => return code
    | none => .fail (.missingSlot site.id slot)

/-- The code of each member of a chain from `id` on, where `seen` holds the members before. -/
def fragmentsFrom (site : Site) (slot : String) (seen : List BlockId) (id : BlockId) :
    Rendering (List String) :=
  if _ : id ∈ seen then .fail (.cyclic id)
  else
    match _ : site.workspace.get? id with
    | none => .fail (.dangling id)
    | some member => do
      let type ← .ofExcept (site.moveTo id member).type
      if type.producesValue then
        .fail (.wrongContent site.id slot id .valueAsStatement)
      else
        let fragment ← .fragment id
        match member.next with
        | none => return [fragment.code]
        | some next =>
          let rest ← site.fragmentsFrom slot (id :: seen) next
          return fragment.code :: rest
termination_by site.workspace.unseen seen
decreasing_by
  exact Workspace.unseen_cons_lt ‹site.workspace.get? id = some member› ‹id ∉ seen›

/-- The code of each member of the chain in a slot. -/
def fragments (site : Site) (slot : String) : Rendering (List String) := do
  let declaration ← .ofExcept (site.slotDecl slot)
  match site.block.slots[slot]? with
  | none => if declaration.required then .fail (.missingSlot site.id slot) else return []
  | some (.single child) => .fail (.wrongContent site.id slot child .singleAsChain)
  | some (.chain head) => site.fragmentsFrom slot [] head

/-- Code one level deeper. -/
def indent (site : Site) (code : String) : String := Text.indent site.unit code

/-- The chain in a slot as code on the present level. -/
def flatStatements (site : Site) (slot : String) : Rendering String := do
  return String.join (← site.fragments slot)

/-- The chain in a slot as the body of a block, one level deeper. -/
def statements (site : Site) (slot : String) : Rendering String := do
  return site.indent (← site.flatStatements slot)

end Site

/-- How the blocks of one type are rendered. -/
abbrev Renderer := Site → Rendering Fragment

end SolanaBlocks
