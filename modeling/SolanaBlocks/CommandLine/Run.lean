import SolanaBlocks.BlockTree.Export
import SolanaBlocks.BlockTree.Import
import SolanaBlocks.BlockTree.Outline
import SolanaBlocks.BlockTree.Reader
import SolanaBlocks.CommandLine.Files
import SolanaBlocks.CommandLine.Help
import SolanaBlocks.Palette.Listing
import SolanaBlocks.Palette.Standard
import SolanaBlocks.Refinement.Http
import SolanaBlocks.Settings.Environment

/-!
# Runs of the program

A run reads the arguments, then the settings, and then does its task. What surrounds it is given by
two questions, one for files and one for environment variables, and by the refinement service; so a
run has the same meaning on a disk and in memory.
-/

namespace SolanaBlocks.CommandLine

/-- What surrounds a run. The service is given what is needed to reach it. -/
structure Surroundings (m : Type → Type) where
  readFile : String → m (Except FileFault String)
  getVariable : String → m (Option String)
  service : HttpSettings → Service

/-- Why a task fails. -/
inductive Failure where
  | settings (error : SettingsError)
  | unreadableWorkspace (path : String) (fault : FileFault)
  | malformedWorkspace (fault : Json.Fault)
  | refusedWorkspace (error : EditError)
  | generation (error : EmitError)
  | unreachableService (error : RefinementError)
  | refinement (error : RefinementError)

/-- What is wrong with the text of a workspace. -/
def describeFault : Json.Fault → String
  | .malformed => "the text is not valid JSON"
  | .truncated => "the text ends too early"
  | .mistyped => "the text does not describe blocks"

/-- The wording of a failure. -/
def Failure.message : Failure → String
  | settings error => "Failed to load configuration: " ++ error.message
  | unreadableWorkspace path fault =>
    s!"Failed to read workspace file '{path}': {fault.message}"
  | malformedWorkspace fault => "Failed to parse workspace JSON: " ++ describeFault fault
  | refusedWorkspace error => "Failed to build block graph: " ++ error.message
  | generation error => s!"Code generation failed at block '{error.block.text}': {error.message}"
  | unreachableService error => error.message
  | refinement error => "Refinement failed: " ++ error.message

/-- What a run leaves behind: the code it exits with, what it prints, what it notes beside that, and
the milliseconds that it paused. If the notes are `timed`, the time that the run took belongs to
their end. -/
structure Outcome where
  exit : Nat
  output : String := ""
  notes : String := ""
  pauses : Nat := 0
  timed : Bool := false
deriving DecidableEq, Repr

namespace Outcome

/-- A run that has printed what was asked for. -/
def success (output : String) : Outcome := { exit := 0, output := output }

/-- A run that failed over its task. -/
def ofFailure (failure : Failure) : Outcome :=
  { exit := 1, notes := "\nError: " ++ failure.message ++ "\n" }

/-- A run that had nothing to do according to its arguments. -/
def ofHalt : Halt → Outcome
  | .help topic => success topic.helpText
  | .version => success versionLine
  | .noCommand => { exit := 2, notes := Topic.program.helpText }
  | .misuse topic error => { exit := 2, notes := error.notice topic }

end Outcome

/-- What is noted about a generation. -/
def reportNotes (report : Report) : String :=
  let fallback := if report.usedFallback then "true" else "false"
  "\n--- Generation Report ---\n" ++
    s!"  Nodes visited:  {report.blocks}\n" ++
    s!"  Roots rendered: {report.roots}\n" ++
    s!"  Batches:        {report.batches}\n" ++
    s!"  Used fallback:  {fallback}\n"

/-- What is noted about the time that a run took. -/
def timeNote (duration : String) : String := s!"  Duration:       {duration}\n"

/-! ## Tasks -/

/-- The workspace that a text describes. -/
def readWorkspace (source : String) : Except Failure Workspace := do
  let trees ← (BlockTree.read source).mapError .malformedWorkspace
  (Workspace.ofTrees Palette.standard trees).mapError .refusedWorkspace

/-- The generation of the code of a workspace. -/
def generationOf (settings : Settings) (w : Workspace) : Generation :=
  let emitter : Emitter := { palette := Palette.standard, indentWidth := settings.indentWidth }
  emitter.generate settings.pacing w

/-- The code of a workspace, with a report about its generation if that is wanted. -/
def generateCode (settings : Settings) (w : Workspace) (withReport : Bool) :
    Except Failure Outcome := do
  let generation := generationOf settings w
  let (code, report) ← generation.outcome.mapError .generation
  return { exit := 0
           output := code
           notes := if withReport then reportNotes report else ""
           pauses := generation.duration settings.pacing
           timed := withReport }

/-- The outline of a workspace, or its nested form. -/
def summarize (w : Workspace) (json : Bool) : Outcome :=
  let trees := w.toTrees
  .success (if json then BlockTree.write trees ++ "\n" else BlockTree.outline trees)

/-- The service behind its settings. A request that cannot be sent fails without it. -/
def guardedService (service : HttpSettings → Service) (http : HttpSettings) : Service :=
  match http.unsendable? with
  | some error => { answer := .error error }
  | none => service http

/-- The refinement of the code of a workspace. -/
def refineCode (service : HttpSettings → Service) (settings : Settings)
    (http : HttpSettings) (w : Workspace) (code instruction : String) : Except Failure Outcome := do
  let refinement :=
    SolanaBlocks.refine settings.refinement (guardedService service http) w.toTrees (some code)
      instruction
  let refined ← refinement.outcome.mapError .refinement
  return .success (refined ++ "\n")

/-! ## Runs -/

section

variable {m : Type → Type} [Monad m]

/-- Asks for the values of some variables. Others count as unset. -/
def lookUp (around : Surroundings m) (names : List String) : m (String → Option String) := do
  let values ← names.mapM around.getVariable
  return fun name => ((names.zip values).lookup name).join

/-- The settings of a run: those of a document if there is one, changed by the environment. -/
def loadSettings (around : Surroundings m) (path : Option String) :
    m (Except SettingsError Settings) := do
  let document : Except SettingsError Settings ←
    match path with
    | none => pure (.ok {})
    | some path =>
      match ← around.readFile path with
      | .error fault => pure (.error (.unreadableFile path fault.message))
      | .ok source => pure (Settings.read source)
  let value? ← lookUp around (Settings.overrides.map Prod.fst)
  return document.bind fun settings =>
    match Settings.override value? settings with
    | (settings, none) => .ok settings
    | (_, some error) => .error error

/-- Reads the workspace at a path. -/
def loadWorkspace (around : Surroundings m) (path : String) : m (Except Failure Workspace) := do
  match ← around.readFile path with
  | .error fault => return .error (.unreadableWorkspace path fault)
  | .ok source => return readWorkspace source

/-- Does a task under some settings. -/
def perform (around : Surroundings m) (settings : Settings) : Task → m (Except Failure Outcome)
  | .generate path withReport => do
    let workspace ← loadWorkspace around path
    return workspace.bind fun w => generateCode settings w withReport
  | .summary path json => do
    let workspace ← loadWorkspace around path
    return workspace.map fun w => summarize w json
  | .catalog => return .ok (.success Palette.standard.listing)
  | .refine path instruction => do
    let workspace ← loadWorkspace around path
    let value? ← lookUp around [settings.refinement.keyVariable]
    return do
      let w ← workspace
      let code ← (generationOf settings w).code.mapError .generation
      let http ← (HttpSettings.ofSettings value? settings.refinement).mapError
        .unreachableService
      refineCode around.service settings http w code instruction

/-- Runs the program. -/
def run (around : Surroundings m) (arguments : List String) : m Outcome := do
  match Invocation.read arguments with
  | .error halt => return .ofHalt halt
  | .ok invocation =>
    match ← loadSettings around invocation.config with
    | .error error => return .ofFailure (.settings error)
    | .ok settings =>
      match ← perform around settings invocation.task with
      | .error failure => return .ofFailure failure
      | .ok outcome => return outcome

end

/-- A service that cannot be reached. -/
def unreachable (http : HttpSettings) : Service :=
  { answer := .error (.http s!"error sending request for url ({http.requestUrl})") }

/-- What surrounds a run in memory, where no service can be reached. -/
def Surroundings.ofFolder (folder : Folder) (environment : Settings.Environment) :
    Surroundings Id where
  readFile path := folder.read path
  getVariable name := environment.value? name
  service := unreachable

end SolanaBlocks.CommandLine
