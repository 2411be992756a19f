import SolanaBlocks.Generation

/-!
# Settings

What a user may set: how code is indented, how generations are spread over time, and how the
refinement service is reached.
-/

namespace SolanaBlocks

/-- How the refinement service is reached. The key is looked up in an environment variable; a
request may take `timeout` seconds. -/
structure RefinementSettings where
  endpoint : String := "https://openrouter.ai/api/v1"
  model : String := "openai/gpt-oss-120b:free"
  keyVariable : String := "OPENROUTER_API_KEY"
  timeout : Nat := 60
  temperature : Float32 := Float32.ofBits 0x3E4CCCCD
  referer : String := "http://localhost:3000"
  title : String := "Snapchain Smart Contract Builder"

/-- All settings. -/
structure Settings where
  indentWidth : Nat := 4
  pacing : Pacing := {}
  refinement : RefinementSettings := {}

/-- Why settings are refused. -/
inductive SettingsError where
  | unreadableFile (path reason : String)
  | malformed
  | invalidVariable (name value : String)
  | zeroIndent
  | zeroBatch
deriving DecidableEq, Repr

/-- The wording of a refusal. -/
def SettingsError.message : SettingsError → String
  | unreadableFile path reason => s!"Failed to read config file '{path}': {reason}"
  | malformed => "Failed to parse config TOML: "
  | invalidVariable name value => s!"Invalid value for environment variable '{name}': '{value}'"
  | zeroIndent => "Invalid configuration: emitter.indent_width must be at least 1"
  | zeroBatch => "Invalid configuration: scheduler.batch_size must be at least 1"

/-- Settings have to indent by at least one space and to take at least one block at a time. -/
def Settings.check (settings : Settings) : Except SettingsError Unit :=
  if settings.indentWidth = 0 then .error .zeroIndent
  else if settings.pacing.batchSize = 0 then .error .zeroBatch
  else .ok ()

end SolanaBlocks
