import SolanaBlocks.Palette.Basic

/-!
# The standard palette

The block types from which Solana programs are built: program structure, accounts and calls, control
flow, and expressions. Statements inside a function body need an instruction handler above them;
expressions may stand anywhere.
-/

namespace SolanaBlocks.Palette.Standard

/-- Below an instruction handler. -/
def inFunction : Placement := .within ["process_instruction"]

/-- At the top level or inside a program. -/
def programItem : Placement := .topLevelOr ["solana_program"]

/-- A type of statements. -/
def statement (id category : String) (placement : Placement) (fields : List FieldDecl)
    (slots : List SlotDecl) : BlockType where
  id := id
  category := category
  fields := fields
  slots := slots
  placement := placement

/-- A type of expressions, which may stand anywhere. -/
def value (id category : String) (tier : Tier) (fields : List FieldDecl) (slots : List SlotDecl) :
    BlockType where
  id := id
  category := category
  fields := fields
  slots := slots
  producesValue := true
  tier := some tier

/-- A dropdown whose labels are the values themselves. -/
def sameAsLabel (names : List String) : List (String × String) :=
  names.map fun name => (name, name)

/-- Programs, data structures and instruction handlers. -/
def programTypes : List BlockType := [
  statement "solana_program" "Program" .topLevel
    [.ofName "name" "my_program"] [.chain "body"],
  statement "rust_struct" "Data Structures" programItem
    [.ofName "name" "MyStruct"] [(SlotDecl.chain "fields").mandatory],
  statement "struct_field" "Data Structures" (.within ["rust_struct", "enum_variant", "emit_event"])
    [.ofName "name" "field_name",
      .ofChoice "type" (sameAsLabel
        ["u8", "u16", "u32", "u64", "i8", "i16", "i32", "i64", "String", "bool"] ++
        [("PublicKey", "Pubkey"), ("AccountInfo", "AccountInfo")])] [],
  statement "rust_enum" "Data Structures" programItem
    [.ofName "name" "MyEnum"] [(SlotDecl.chain "variants").mandatory],
  statement "enum_variant" "Data Structures" (.within ["rust_enum"])
    [.ofName "name" "Variant",
      .ofChoice "type" [("Simple", "SIMPLE"), ("Tuple", "TUPLE"), ("Struct", "STRUCT")]]
    [.chain "fields"],
  statement "process_instruction" "Instructions" programItem
    [.ofName "name" "process_instruction"] [.chain "params", .chain "body"],
  statement "function_param" "Instructions" inFunction
    [.ofText "name" "param_name",
      .ofChoice "type" [("Program ID", "program_id: &Pubkey"),
        ("Accounts", "accounts: &[AccountInfo]"), ("Instruction Data", "instruction_data: &[u8]")]]
    []]

/-- Accounts, derived addresses, tokens, events, calls and errors. -/
def accountTypes : List BlockType := [
  statement "validate_accounts" "Accounts" inFunction
    [] [.expression "min_accounts" "2"],
  statement "get_account" "Accounts" inFunction
    [.ofNumber "index" 0, .ofName "name" "account_name"] [],
  statement "check_account_owner" "Accounts" inFunction
    [.ofName "account" "account",
      .ofChoice "owner" [("program", "program_id"), ("system program", "system_program::ID")]] [],
  statement "deserialize_account" "Accounts" inFunction
    [.ofName "account" "account", .ofName "type" "AccountType"] [],
  statement "init_account" "Accounts" inFunction
    [.ofName "name" "account", .ofName "type" "AccountType"] [.expression "space" "0"],
  statement "account_constraint" "Accounts" inFunction
    [.ofName "account" "account",
      .ofChoice "constraint" [("is initialized", "IS_INITIALIZED"), ("is signer", "IS_SIGNER"),
        ("is writable", "IS_WRITABLE"), ("has sufficient funds", "HAS_FUNDS")]] [],
  statement "create_pda" "PDAs" inFunction
    [.ofName "name" "pda_name"] [(SlotDecl.chain "seeds").mandatory],
  statement "pda_seed" "PDAs" (.within ["create_pda"])
    [{ FieldDecl.ofText "value" "seed_value" with required := true }] [],
  statement "token_operation" "Tokens" inFunction
    [.ofChoice "operation" [("Mint", "MINT"), ("Transfer", "TRANSFER"), ("Burn", "BURN"),
      ("Approve", "APPROVE")]]
    [.expression "amount" "0", .chain "accounts"],
  statement "emit_event" "Events" inFunction
    [.ofName "name" "MyEvent"] [.chain "fields"],
  statement "cpi_call" "External Calls" inFunction
    [{ FieldDecl.ofText "program_id" "program_id" with required := true }]
    [.chain "accounts", .expression "data" "[]"],
  statement "account_ref" "External Calls" (.within ["cpi_call", "token_operation"])
    [.ofName "name" "account"] [],
  statement "program_error" "Errors" inFunction
    [.ofChoice "error" [("InvalidInstruction", "ProgramError::InvalidInstructionData"),
      ("NotEnoughAccountKeys", "ProgramError::NotEnoughAccountKeys"),
      ("InvalidAccountData", "ProgramError::InvalidAccountData"),
      ("Custom", "ProgramError::Custom(1)")]] []]

/-- The number of arms a conditional can have, the last `else` apart. -/
def conditionalArms : Nat := 4

/-- The slot that holds the condition of an arm. -/
def conditionSlot (arm : Nat) : String := "if" ++ toString arm

/-- The slot that holds the body of an arm. -/
def bodySlot (arm : Nat) : String := "do" ++ toString arm

/-- The slots of one arm. Only the first condition has code to stand in for it. -/
def armSlots (arm : Nat) : List SlotDecl :=
  [{ name := conditionSlot arm
     arity := .expression
     defaultCode := if arm = 0 then some "false" else none },
    .chain (bodySlot arm)]

/-- Conditionals and loops. -/
def controlTypes : List BlockType := [
  statement "controls_if" "Control" inFunction
    [] ((List.range conditionalArms).flatMap armSlots ++ [.chain "else"]),
  statement "controls_for" "Control" inFunction
    [.ofName "var" "i"]
    [.expression "start" "0", .expression "end" "0", .expression "step" "1", .chain "do"],
  statement "controls_while" "Control" inFunction
    [] [.expression "bool" "false", .chain "do"]]

/-- Operators, literals and variables. -/
def expressionTypes : List BlockType := [
  value "math_operation" "Math" .additive
    [.ofChoice "operation" [("+", "ADD"), ("-", "SUB"), ("*", "MUL"), ("/", "DIV")]]
    [.expression "a" "0", .expression "b" "0"],
  value "math_number" "Math" .atomic [.ofNumber "num" 0] [],
  value "logic_compare" "Logic" .relational
    [.ofChoice "op" [("=", "EQ"), ("≠", "NEQ"), ("<", "LT"), ("≤", "LTE"), (">", "GT"),
      ("≥", "GTE")]]
    [.expression "a" "0", .expression "b" "0"],
  value "logic_operation" "Logic" .disjunction
    [.ofChoice "op" [("and", "AND"), ("or", "OR")]]
    [.expression "a" "false", .expression "b" "false"],
  value "logic_negate" "Logic" .unary [] [.expression "bool" "false"],
  value "logic_boolean" "Logic" .atomic
    [.ofChoice "bool" [("true", "TRUE"), ("false", "FALSE")]] [],
  value "text" "Text" .atomic [.ofText "text" ""] [],
  value "variable_get" "Variables" .atomic [.ofName "name" "i"] []]

/-- All standard types in order of registration. -/
def types : List BlockType :=
  programTypes ++ accountTypes ++ controlTypes ++ expressionTypes

end SolanaBlocks.Palette.Standard

namespace SolanaBlocks.Palette

/-- The palette of the standard types. -/
def standard : Palette := ofTypes Standard.types

end SolanaBlocks.Palette
