import SolanaBlocks.Settings.Reader

/-!
# Settings from the environment

The environment is a list of lines, each the name of a variable, an equals sign and its value. Some
settings can be overridden by environment variables. They are looked at in a fixed order; the
first one that does not make sense ends the matter, and what was taken before it stays.
-/

namespace SolanaBlocks.Settings

/-- The variables of an environment by name and value. -/
abbrev Environment := List (String × String)

/-- The value of a variable: what follows its name and an equals sign in the first line that starts
with these. So a name may itself hold an equals sign and a start of the value. -/
def Environment.value? (environment : Environment) (name : String) : Option String :=
  if name.isEmpty then none
  else
    let start := name.toList ++ ['=']
    let lines := environment.map fun (key, value) => key.toList ++ '=' :: value.toList
    (lines.find? start.isPrefixOf).map fun line => String.ofList (line.drop start.length)

/-- Takes the text of a variable, without blanks around it, into the settings. -/
abbrev TextTaker := String → Settings → Option Settings

/-- Unsigned integers of 64 bits. -/
def naturalText (set : Nat → Settings → Settings) : TextTaker := fun s settings =>
  (Decimal.readNat? wordSize s).map fun n => set n settings

/-- Numbers of 32 bits. -/
def numberText (set : Float32 → Settings → Settings) : TextTaker := fun s settings =>
  (Decimal.readFloat32? s).map fun x => set x settings

/-- Texts, which always make sense. -/
def plainText (set : String → Settings → Settings) : TextTaker := fun s settings =>
  some (set s settings)

/-- The variables that override settings, in the order in which they are looked at. -/
def overrides : List (String × TextTaker) :=
  [("SNAPCHAIN_INDENT_WIDTH", naturalText setIndentWidth),
    ("SNAPCHAIN_BATCH_SIZE", naturalText setBatchSize),
    ("SNAPCHAIN_BATCH_DELAY_MS", naturalText setBatchDelay),
    ("SNAPCHAIN_DEBOUNCE_MS", naturalText setDebounce),
    ("SNAPCHAIN_REFINE_TIMEOUT_SECS", naturalText setTimeout),
    ("SNAPCHAIN_REFINE_TEMPERATURE", numberText setTemperature),
    ("SNAPCHAIN_REFINE_ENDPOINT", plainText setEndpoint),
    ("SNAPCHAIN_REFINE_MODEL", plainText setModel),
    ("SNAPCHAIN_REFINE_API_KEY_ENV", plainText setKeyVariable)]

/-- Takes over variables up to the first that does not make sense. The result has what was taken,
and the failure. -/
def takeVariables (lookup : String → Option String) :
    List (String × TextTaker) → Settings → Settings × Option SettingsError
  | [], settings => (settings, none)
  | (name, take) :: rest, settings =>
    match lookup name with
    | none => takeVariables lookup rest settings
    | some value =>
      match take (Text.trim value) settings with
      | none => (settings, some (.invalidVariable name value))
      | some settings => takeVariables lookup rest settings

/-- The settings after the environment has been taken into account, and why they are refused if they
are. -/
def override (lookup : String → Option String) (settings : Settings) :
    Settings × Option SettingsError :=
  match takeVariables lookup overrides settings with
  | (settings, some failure) => (settings, some failure)
  | (settings, none) =>
    match settings.check with
    | .error failure => (settings, some failure)
    | .ok () => (settings, none)

end SolanaBlocks.Settings
