import SolanaBlocks.Emission.Site

/-!
# Accounts, calls and events

The code of the blocks inside a handler that deal with accounts, derived addresses, tokens, events,
calls to other programs, and errors.
-/

namespace SolanaBlocks.Renderers

/-- A check that returns an error if the condition holds. -/
def guard (site : Site) (condition error : String) : String :=
  s!"if {condition} \x7b\n{site.unit}return Err({error});\n\x7d\n"

/-- Checks the number of accounts. -/
def validateAccounts : Renderer := fun site => do
  let least ← site.value "min_accounts" (operandTier .relational .none .right)
  let check := guard site s!"accounts.len() < {least}" "ProgramError::NotEnoughAccountKeys"
  return { code := s!"let account_iter = &mut accounts.iter();\n{check}" }

/-- Takes the next account; its index is a remark. -/
def getAccount : Renderer := fun site => do
  let index ← .ofExcept (site.number "index")
  if index.isBelowZero || !index.isInteger then
    .fail (.invalidField site.id "index" (Decimal.plain .double index) .notAnIndex)
  else
    let name ← .ofExcept (site.text "name")
    return { code :=
      s!"let {name} = next_account_info(account_iter)?; // account #{index.toUInt64}\n" }

/-- Checks which program owns an account. The program's own id is a reference already. -/
def checkOwner : Renderer := fun site => do
  let account ← .ofExcept (site.text "account")
  let owner ← .ofExcept (site.choice "owner")
  let reference := if owner = "program_id" then owner else "&" ++ owner
  let condition := s!"{account}.owner != {reference}"
  return { code := guard site condition "ProgramError::IncorrectProgramId" }

/-- Reads the data of an account into a variable named after its type. -/
def deserializeAccount : Renderer := fun site => do
  let account ← .ofExcept (site.text "account")
  let type ← .ofExcept (site.text "type")
  let variable_ := Text.snakeCase type
  return { code := s!"let {variable_} = {type}::try_from_slice(&{account}.data.borrow())?;\n" }

/-- Creates an account with enough lamports to be exempt from rent. -/
def initAccount : Renderer := fun site => do
  let name ← .ofExcept (site.text "name")
  let type ← .ofExcept (site.text "type")
  let space ← site.value "space" .loosest
  let unit := site.unit
  let arguments := String.join <|
    [s!"{name}.key", s!"{name}.key", "lamports", "space as u64", "program_id"].map fun argument =>
      s!"{unit}{unit}{argument},\n"
  return { code :=
    s!"// Initialize {name} as {type}\n" ++
    "let rent = Rent::get()?;\n" ++
    s!"let space = {space};\n" ++
    "let lamports = rent.minimum_balance(space as usize);\n" ++
    "invoke(\n" ++
    s!"{unit}&system_instruction::create_account(\n" ++
    arguments ++
    s!"{unit}),\n" ++
    s!"{unit}&[{name}.clone()],\n" ++
    ")?;\n" }

/-- Checks a property of an account. -/
def accountConstraint : Renderer := fun site => do
  let account ← .ofExcept (site.text "account")
  let (condition, error) :=
    match ← .ofExcept (site.choice "constraint") with
    | "IS_INITIALIZED" => (s!"{account}.data_is_empty()", "ProgramError::UninitializedAccount")
    | "IS_SIGNER" => (s!"!{account}.is_signer", "ProgramError::MissingRequiredSignature")
    | "IS_WRITABLE" => (s!"!{account}.is_writable", "ProgramError::InvalidAccountData")
    | _ => (s!"{account}.lamports() < required_lamports", "ProgramError::InsufficientFunds")
  return { code := guard site condition error }

/-- Derives an address from seeds. -/
def createPda : Renderer := fun site => do
  let name ← .ofExcept (site.text "name")
  let seeds ← site.fragments "seeds"
  let lines := String.join (seeds.map fun seed => s!"{site.unit}{seed},\n")
  return { code :=
    s!"let {name}_seeds: &[&[u8]] = &[\n{lines}];\n" ++
    s!"let ({name}, {name}_bump) = Pubkey::find_program_address({name}_seeds, program_id);\n" }

/-- How a seed is written: between quotes of either kind, or as the name of a number. -/
inductive SeedForm where
  | quoted (content : List Char)
  | unclosed
  | binding
deriving DecidableEq, Repr

/-- The form of a seed. Single quotes have to enclose the whole; after a double quote the text has
to end in another one with no backslash before it. -/
def SeedForm.of (value : List Char) : SeedForm :=
  match value with
  | '\'' :: rest =>
    if rest.getLast? = some '\'' then
      quoted (rest.dropLast.flatMap fun c => if c = '"' then ['\\', '"'] else [c])
    else binding
  | '"' :: rest =>
    match rest.reverse with
    | '"' :: '\\' :: _ => unclosed
    | '"' :: before => quoted before.reverse
    | _ => unclosed
  | _ => binding

/-- A seed: a byte string, or the bytes of a number. -/
def pdaSeed : Renderer := fun site => do
  let raw ← .ofExcept (site.text "value")
  let value := Text.trim raw
  match SeedForm.of value.toList with
  | .quoted content => return { code := s!"b\"{String.ofList content}\"" }
  | .unclosed => .fail (.invalidField site.id "value" value .unclosedSeed)
  | .binding => return { code := s!"&{value}.to_le_bytes()" }

/-- A call to the token program. -/
def tokenOperation : Renderer := fun site => do
  let instruction :=
    match ← .ofExcept (site.choice "operation") with
    | "MINT" => "mint_to"
    | "TRANSFER" => "transfer"
    | "BURN" => "burn"
    | _ => "approve"
  let amount ← site.value "amount" .loosest
  let accounts := ", ".intercalate (← site.fragments "accounts")
  let unit := site.unit
  return { code :=
    s!"spl_token::instruction::{instruction}(\n" ++
    s!"{unit}&spl_token::id(),\n" ++
    s!"{unit}&[{accounts}],\n" ++
    s!"{unit}{amount},\n" ++
    ")?;\n" }

/-- Logs an event, with one placeholder for each field. -/
def emitEvent : Renderer := fun site => do
  let name ← .ofExcept (site.text "name")
  let fields ← site.fragments "fields"
  if fields.isEmpty then return { code := s!"msg!(\"{name}\");\n" }
  else
    let placeholders := " ".intercalate (fields.map fun field => field ++ "=\x7b\x7d")
    let values := ", ".intercalate fields
    return { code := s!"msg!(\"{name}: {placeholders}\", {values});\n" }

/-- Calls another program. -/
def callProgram : Renderer := fun site => do
  let program := Text.trim (← .ofExcept (site.text "program_id"))
  let accounts ← site.fragments "accounts"
  let data ← site.value "data" .unary
  let unit := site.unit
  let infos := ", ".intercalate (accounts.map fun account => account ++ ".clone()")
  let listed := ", ".intercalate accounts
  return { code :=
    "invoke(\n" ++
    s!"{unit}&Instruction::new_with_bytes(\n" ++
    s!"{unit}{unit}{program},\n" ++
    s!"{unit}{unit}&{data},\n" ++
    s!"{unit}{unit}&[{listed}],\n" ++
    s!"{unit}),\n" ++
    s!"{unit}&[{infos}],\n" ++
    ")?;\n" }

/-- The name of an account that a call passes on. -/
def accountRef : Renderer := fun site => do
  return { code := ← .ofExcept (site.text "name") }

/-- Returns an error. -/
def programError : Renderer := fun site => do
  let error ← .ofExcept (site.choice "error")
  return { code := s!"return Err({error});\n" }

end SolanaBlocks.Renderers
