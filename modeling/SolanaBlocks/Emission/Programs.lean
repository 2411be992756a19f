import SolanaBlocks.Emission.Site

/-!
# Programs, data structures and handlers

The code of the blocks that make up a program: its header, structs and enums with their fields, and
instruction handlers.
-/

namespace SolanaBlocks.Renderers

/-- The imports at the top of a program. -/
def programHeader : String :=
  "use borsh::\x7bBorshDeserialize, BorshSerialize\x7d;\n" ++
  "use solana_program::\x7b\n" ++
  "    account_info::\x7bnext_account_info, AccountInfo\x7d,\n" ++
  "    entrypoint,\n" ++
  "    entrypoint::ProgramResult,\n" ++
  "    instruction::Instruction,\n" ++
  "    msg,\n" ++
  "    program::invoke,\n" ++
  "    program_error::ProgramError,\n" ++
  "    pubkey::Pubkey,\n" ++
  "    rent::Rent,\n" ++
  "    system_instruction, system_program,\n" ++
  "    sysvar::Sysvar,\n" ++
  "\x7d;\n"

/-- The attribute of every data structure. -/
def derives : String := "#[derive(BorshSerialize, BorshDeserialize, Debug)]"

/-- A program: its name as a comment, the imports, the entry point and the body. -/
def program : Renderer := fun site => do
  let name ← .ofExcept (site.text "name")
  let body ← site.flatStatements "body"
  return {
    code := s!"// Program: {name}\n{programHeader}\nentrypoint!(process_instruction);\n\n{body}" }

/-- A struct with its fields. -/
def struct : Renderer := fun site => do
  let name ← .ofExcept (site.text "name")
  let fields ← site.statements "fields"
  return { code := s!"{derives}\npub struct {name} \x7b\n{fields}\x7d\n\n" }

/-- A field reads differently in an enum variant, in an event and in a struct. -/
def structField : Renderer := fun site => do
  let name ← .ofExcept (site.text "name")
  let type ← .ofExcept (site.choice "type")
  match site.owner? with
  | some owner =>
    if owner.block.type = "enum_variant" then
      let shape ← .ofExcept (owner.choice "type")
      if shape = "TUPLE" then return { code := type } else return { code := s!"{name}: {type},\n" }
    else if owner.block.type = "emit_event" then return { code := name }
    else return { code := s!"pub {name}: {type},\n" }
  | none => return { code := s!"pub {name}: {type},\n" }

/-- An enum with its variants. -/
def enum : Renderer := fun site => do
  let name ← .ofExcept (site.text "name")
  let variants ← site.statements "variants"
  return { code := s!"{derives}\npub enum {name} \x7b\n{variants}\x7d\n\n" }

/-- A variant without data, with unnamed or with named data. Data left out becomes one number. -/
def enumVariant : Renderer := fun site => do
  let name ← .ofExcept (site.text "name")
  match ← .ofExcept (site.choice "type") with
  | "TUPLE" =>
    let types ← site.fragments "fields"
    let inner := if types.isEmpty then "u64" else ", ".intercalate types
    return { code := s!"{name}({inner}),\n" }
  | "STRUCT" =>
    let fields ← site.statements "fields"
    let body := if fields.isEmpty then site.indent "value: u64,\n" else fields
    return { code := s!"{name} \x7b\n{body}\x7d,\n" }
  | _ => return { code := s!"{name},\n" }

/-- An instruction handler, which reports success at its end. -/
def handler : Renderer := fun site => do
  let name ← .ofExcept (site.text "name")
  let params ← site.statements "params"
  let body ← site.statements "body"
  let signature :=
    if params.isEmpty then s!"pub fn {name}() -> ProgramResult \x7b\n"
    else s!"pub fn {name}(\n{params}) -> ProgramResult \x7b\n"
  return { code := s!"{signature}{body}{site.unit}Ok(())\n\x7d\n\n" }

/-- A parameter of a handler, whose kind is its whole declaration. -/
def parameter : Renderer := fun site => do
  let declaration ← .ofExcept (site.choice "type")
  return { code := s!"{declaration},\n" }

end SolanaBlocks.Renderers
