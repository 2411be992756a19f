import SolanaBlocks.Emission.Accounts
import SolanaBlocks.Emission.Control
import SolanaBlocks.Emission.Expressions
import SolanaBlocks.Emission.Programs

/-!
# The emitter

An emitter knows a palette and, for each type, how its blocks are rendered. To emit a block it makes
the checks that all blocks share, runs the renderer, and answers each request by emitting the block
asked for. A block that is asked for while it is being rendered itself is an error; as every level
of nesting uses up one block, emission always ends.
-/

namespace SolanaBlocks

namespace Renderers

/-- The renderer of each standard type. -/
def standard? : String → Option Renderer
  | "solana_program" => some program
  | "rust_struct" => some struct
  | "struct_field" => some structField
  | "rust_enum" => some enum
  | "enum_variant" => some enumVariant
  | "process_instruction" => some handler
  | "function_param" => some parameter
  | "validate_accounts" => some validateAccounts
  | "get_account" => some getAccount
  | "check_account_owner" => some checkOwner
  | "deserialize_account" => some deserializeAccount
  | "init_account" => some initAccount
  | "account_constraint" => some accountConstraint
  | "create_pda" => some createPda
  | "pda_seed" => some pdaSeed
  | "token_operation" => some tokenOperation
  | "emit_event" => some emitEvent
  | "cpi_call" => some callProgram
  | "account_ref" => some accountRef
  | "program_error" => some programError
  | "controls_if" => some conditional
  | "controls_for" => some countedLoop
  | "controls_while" => some whileLoop
  | "math_operation" => some mathOperation
  | "math_number" => some numberLiteral
  | "logic_compare" => some comparison
  | "logic_operation" => some logicOperation
  | "logic_negate" => some negation
  | "logic_boolean" => some truthValue
  | "text" => some textLiteral
  | "variable_get" => some variableName
  | _ => none

end Renderers

/-- What is needed to turn blocks into code. -/
structure Emitter where
  palette : Palette
  indentWidth : Nat := 4
  renderer? : String → Option Renderer := Renderers.standard?

namespace Emitter

/-- One level of indentation. -/
def unit (e : Emitter) : String := String.ofList (List.replicate e.indentWidth ' ')

/-- Renders the blocks of a type in a new way. -/
def withRenderer (e : Emitter) (type : String) (renderer : Renderer) : Emitter :=
  { e with renderer? := fun other => if other = type then some renderer else e.renderer? other }

/-- Renders the blocks of a type like those of a standard type; without a standard type of that name
nothing changes. -/
def withAlias (e : Emitter) (type standardType : String) : Emitter :=
  match Renderers.standard? standardType with
  | none => e
  | some renderer => e.withRenderer type renderer

/-- Whether a block may stand where it does. -/
def isPlaced (w : Workspace) (id : BlockId) : Placement → Bool
  | .anywhere => true
  | .topLevel => (w.seat? id).isNone
  | .within types => types.any (w.hasAncestorOfType id)
  | .topLevelOr types => (w.seat? id).isNone || types.any (w.hasAncestorOfType id)

/-- A fragment with the tier that counts for its type. An expression that does not say how it binds
has the tier its type declares. -/
def settleTier (type : BlockType) (fragment : Fragment) : Fragment :=
  { fragment with
    tier :=
      if type.producesValue then some ((fragment.tier <|> type.tier).getD Tier.atomic) else none }

/-- The fragment of a block, where `open_` holds the blocks that are being rendered around it. -/
def emitWithin (e : Emitter) (w : Workspace) (open_ : List BlockId) (id : BlockId) :
    Except EmitError Fragment :=
  match _ : w.get? id with
  | none => .error (.dangling id)
  | some block =>
    if _ : id ∈ open_ then .error (.cyclic id)
    else
      match e.palette.get? block.type with
      | none => .error (.unknownType id block.type)
      | some type =>
        match e.renderer? block.type with
        | none => .error (.noRenderer id block.type)
        | some renderer =>
          if isPlaced w id type.placement then
            let site : Site := ⟨w, e.palette, e.unit, id, block⟩
            ((renderer site).run fun child => e.emitWithin w (id :: open_) child).map
              (settleTier type)
          else .error (.misplaced id block.type (.against type.placement))
termination_by w.unseen open_
decreasing_by exact Workspace.unseen_cons_lt ‹w.get? id = some block› ‹id ∉ open_›

/-- The fragment of a block and everything below it. -/
def emit (e : Emitter) (w : Workspace) (id : BlockId) : Except EmitError Fragment :=
  e.emitWithin w [] id

end Emitter

end SolanaBlocks
