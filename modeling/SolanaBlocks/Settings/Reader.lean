import SolanaBlocks.Settings.Basic
import SolanaBlocks.Toml.Reader

/-!
# Settings from a document

A TOML document with one section for each group of settings. What is not mentioned keeps its
default, and what is unknown is passed over. A section may also be an array with its values in
order.
-/

namespace SolanaBlocks.Settings

/-- Takes a value of a document into the settings, if it fits. -/
abbrev Taker := Toml → Settings → Option Settings

/-- Takes an unsigned integer. -/
def natural (set : Nat → Settings → Settings) : Taker
  | .integer n, settings => if 0 ≤ n then some (set n.toNat settings) else none
  | _, _ => none

/-- Takes a string. -/
def string (set : String → Settings → Settings) : Taker
  | .text s, settings => some (set s settings)
  | _, _ => none

/-- Takes a number. -/
def number (set : Float32 → Settings → Settings) : Taker
  | .integer n, settings =>
    some (set (BinaryNumber.finite (decide (n < 0)) n.natAbs 0).toFloat32 settings)
  | .float x, settings => some (set (BinaryNumber.ofFloat x).toFloat32 settings)
  | _, _ => none

/-! ## Single settings -/

/-- Changes the times and sizes of generation. -/
def withPacing (change : Pacing → Pacing) (settings : Settings) : Settings :=
  { settings with pacing := change settings.pacing }

/-- Changes how the refinement service is reached. -/
def withRefinement (change : RefinementSettings → RefinementSettings) (settings : Settings) :
    Settings :=
  { settings with refinement := change settings.refinement }

/-- Sets the indentation. -/
def setIndentWidth (n : Nat) (settings : Settings) : Settings :=
  { settings with indentWidth := n }

/-- Sets the blocks in a batch. -/
def setBatchSize (n : Nat) : Settings → Settings :=
  withPacing fun pacing => { pacing with batchSize := n }

/-- Sets the pause after a batch. -/
def setBatchDelay (n : Nat) : Settings → Settings :=
  withPacing fun pacing => { pacing with batchDelay := n }

/-- Sets how long edits have to rest. -/
def setDebounce (n : Nat) : Settings → Settings :=
  withPacing fun pacing => { pacing with debounce := n }

/-- Sets the address of the service. -/
def setEndpoint (s : String) : Settings → Settings :=
  withRefinement fun refinement => { refinement with endpoint := s }

/-- Sets the model to ask for. -/
def setModel (s : String) : Settings → Settings :=
  withRefinement fun refinement => { refinement with model := s }

/-- Sets the environment variable that holds the key. -/
def setKeyVariable (s : String) : Settings → Settings :=
  withRefinement fun refinement => { refinement with keyVariable := s }

/-- Sets the time limit of a request. -/
def setTimeout (n : Nat) : Settings → Settings :=
  withRefinement fun refinement => { refinement with timeout := n }

/-- Sets the temperature. -/
def setTemperature (x : Float32) : Settings → Settings :=
  withRefinement fun refinement => { refinement with temperature := x }

/-- Sets the address to be named as the one that asks. -/
def setReferer (s : String) : Settings → Settings :=
  withRefinement fun refinement => { refinement with referer := s }

/-- Sets the title to be named as the one that asks. -/
def setTitle (s : String) : Settings → Settings :=
  withRefinement fun refinement => { refinement with title := s }

/-! ## Sections -/

/-- The keys of a section in order, each with what is done with its value. -/
abbrev Section := List (String × Taker)

/-- How code is indented. -/
def emitterSection : Section :=
  [("indent_width", natural setIndentWidth)]

/-- How generations are spread over time. -/
def schedulerSection : Section :=
  [("batch_size", natural setBatchSize), ("batch_delay_ms", natural setBatchDelay),
    ("debounce_ms", natural setDebounce)]

/-- How the refinement service is reached. -/
def refinementSection : Section :=
  [("endpoint", string setEndpoint), ("model", string setModel),
    ("api_key_env", string setKeyVariable), ("timeout_secs", natural setTimeout),
    ("temperature", number setTemperature), ("referer", string setReferer),
    ("title", string setTitle)]

/-- Takes entries by their keys. -/
def takeEntries (keys : Section) : Toml.Entries → Settings → Option Settings
  | [], settings => some settings
  | (key, value) :: rest, settings =>
    match keys.lookup key with
    | none => takeEntries keys rest settings
    | some take => (take value settings).bind (takeEntries keys rest)

/-- Takes values in the order of the keys. -/
def takeItems : Section → List Toml → Settings → Option Settings
  | (_, take) :: keys, value :: rest, settings => (take value settings).bind (takeItems keys rest)
  | _, _, settings => some settings

/-- Takes a section. A date counts as a section without any known key. -/
def takeSection (keys : Section) : Taker
  | .table _ entries, settings => takeEntries keys entries settings
  | .array items, settings => takeItems keys items settings
  | .tables latest earlier, settings =>
    takeItems keys ((latest :: earlier).reverse.map (.table .header)) settings
  | .moment, settings => some settings
  | _, _ => none

/-- The sections of a document. -/
def sections : Section :=
  [("emitter", takeSection emitterSection), ("scheduler", takeSection schedulerSection),
    ("refinement", takeSection refinementSection)]

/-- The settings that a document describes. -/
def read (source : String) : Except SettingsError Settings :=
  match (Toml.read source).bind fun entries => takeEntries sections entries {} with
  | none => .error .malformed
  | some settings => settings.check.map fun _ => settings

end SolanaBlocks.Settings
