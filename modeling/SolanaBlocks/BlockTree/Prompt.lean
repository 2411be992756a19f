import SolanaBlocks.BlockTree.Json
import SolanaBlocks.BlockTree.Outline

/-!
# Prompts

The two messages that ask a language model to change generated code: a fixed one about its task,
and one that shows the blocks as JSON and as an outline, the code so far, and what the user wants.
-/

namespace SolanaBlocks

/-- The messages sent with a request for refinement. -/
structure Prompt where
  system : String
  user : String
deriving DecidableEq, Repr

namespace Prompt

/-- What the model is told about its task. -/
def systemText : String :=
  "You are an expert Rust smart contract developer specializing in Solana blockchain " ++
  "development.\n\n" ++
  "When receiving JSON block structures, interpret them to understand the user's intent and " ++
  "generate the corresponding Rust code. Always provide compilable code with proper error " ++
  "handling and account validation." ++
  "\n\n" ++
  "RESPONSE FORMAT:\n" ++
  "- Return ONLY the Rust code, wrapped in ```rust code fences.\n" ++
  "- Do not add explanations before or after the code."

/-- The part about the code so far, which is left out if there is none to show. -/
def codePart : Option String → String
  | none => ""
  | some code =>
    if Text.isAllBlank code then ""
    else "\nCURRENT GENERATED CODE:\n```rust\n" ++ Text.trimRight code ++ "\n```\n"

/-- The prompt about some blocks, the code generated for them so far and an instruction. -/
def ofBlocks (trees : List BlockTree) (code : Option String) (instruction : String) : Prompt where
  system := systemText
  user :=
    Text.trim instruction ++
      "\n\nBLOCK STRUCTURE (JSON):\n```json\n" ++ BlockTree.write trees ++
      "\n```\n\nHUMAN-READABLE SUMMARY:\n" ++ BlockTree.outline trees ++
      codePart code ++
      s!"\n[METADATA] This request includes {trees.length} top-level block(s) of types: " ++
      ", ".intercalate (trees.map BlockTree.type) ++ "\n" ++
      "\nReturn ONLY the complete Rust code wrapped in ```rust code fences."

end Prompt

end SolanaBlocks
