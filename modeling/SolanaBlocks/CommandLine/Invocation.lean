import SolanaBlocks.CommandLine.Command

/-!
# Invocations

Arguments are read from left to right. First come parameters of the program, then a command, then
the parameters and words of that command. A request for help or for the version ends the reading,
and so does the first argument that makes no sense; whether all that is needed has been given is
looked at in the end.

After two dashes on their own nothing is a parameter any more. A single dash is a word.
-/

namespace SolanaBlocks.CommandLine

/-- What is to be done. Workspaces are given by their paths. -/
inductive Task where
  | generate (workspace : String) (report : Bool)
  | summary (workspace : String) (json : Bool)
  | catalog
  | refine (workspace instruction : String)
deriving DecidableEq, Repr

/-- What the arguments of the program ask for. -/
structure Invocation where
  config : Option String
  task : Task
deriving DecidableEq, Repr

/-- Why arguments make no sense. -/
inductive UsageError where
  | unexpected (argument : String)
  | unknownCommand (word : String)
  | valueMissing (parameter : Parameter)
  | valueUnwanted (parameter : Parameter)
  | valueEmpty (form : String)
  | repeated (parameter : Parameter)
  | notGiven (forms : List String)
deriving DecidableEq, Repr

/-- The wording of an error. -/
def UsageError.message : UsageError → String
  | unexpected argument => s!"unexpected argument '{argument}' found"
  | unknownCommand word => s!"unrecognized subcommand '{word}'"
  | valueMissing parameter => s!"a value is required for '{parameter.form}' but none was supplied"
  | valueUnwanted parameter =>
    s!"unexpected value for '{parameter.form}' found; no more were expected"
  | valueEmpty form => s!"a value is required for '{form}' but none was supplied"
  | repeated parameter => s!"the argument '{parameter.form}' cannot be used multiple times"
  | notGiven forms =>
    "the following required arguments were not provided:" ++
      String.join (forms.map fun form => "\n  " ++ form)

/-- Why arguments lead to no task. Without a command there is nothing to do but to help. -/
inductive Halt where
  | help (topic : Topic)
  | version
  | noCommand
  | misuse (topic : Topic) (error : UsageError)
deriving DecidableEq, Repr

/-- The kinds of arguments. -/
inductive Argument where
  | escape
  | long (text : List Char)
  | letters (text : List Char)
  | word
deriving DecidableEq, Repr

/-- The kind of an argument. -/
def Argument.ofText (text : String) : Argument :=
  match text.toList with
  | ['-', '-'] => escape
  | '-' :: '-' :: rest => long rest
  | '-' :: c :: rest => letters (c :: rest)
  | _ => word

/-- What has been given so far on one topic: parameters with their values, the parameter whose value
has to come next, and words. -/
structure Draft where
  given : List (Parameter × String) := []
  awaiting : Option Parameter := none
  words : List String := []

namespace Draft

/-- The value that has been given for a parameter. -/
def value? (draft : Draft) (parameter : Parameter) : Option String :=
  draft.given.lookup parameter

/-- Adds a parameter with its value. -/
def give (draft : Draft) (topic : Topic) (parameter : Parameter) (value : String) :
    Except Halt Draft :=
  if (draft.value? parameter).isSome then .error (.misuse topic (.repeated parameter))
  else if value.isEmpty && !parameter.allowsEmpty then
    .error (.misuse topic (.valueEmpty parameter.form))
  else .ok { draft with given := (parameter, value) :: draft.given, awaiting := none }

/-- Adds a parameter that has no value, which may be a request for help. -/
def giveAlone (draft : Draft) (topic : Topic) (parameter : Parameter) : Except Halt Draft :=
  match parameter with
  | .help => .error (.help topic)
  | .version => .error .version
  | parameter => draft.give topic parameter ""

/-- Takes what follows two dashes: the name of a parameter, and maybe a value after an equals
sign. -/
def takeLong (draft : Draft) (topic : Topic) (argument : String) (text : List Char) :
    Except Halt Draft :=
  let name := String.ofList (text.takeWhile (· != '='))
  match topic.parameters.find? (·.long == name), text.dropWhile (· != '=') with
  | none, _ => .error (.misuse topic (.unexpected argument))
  | some parameter, [] =>
    if parameter.valueName?.isSome then .ok { draft with awaiting := some parameter }
    else draft.giveAlone topic parameter
  | some parameter, _ :: value =>
    if parameter.valueName?.isSome then draft.give topic parameter (String.ofList value)
    else .error (.misuse topic (.valueUnwanted parameter))

/-- Takes what follows one dash: letters of parameters. What follows a letter that wants a value is
its value, maybe after an equals sign. -/
def takeLetters (draft : Draft) (topic : Topic) (argument : String) : List Char → Except Halt Draft
  | [] => .ok draft
  | c :: rest =>
    match topic.parameters.find? (·.short? == some c) with
    | none => .error (.misuse topic (.unexpected argument))
    | some parameter =>
      if parameter.valueName?.isSome then
        match rest with
        | [] => .ok { draft with awaiting := some parameter }
        | '=' :: value => draft.give topic parameter (String.ofList value)
        | value => draft.give topic parameter (String.ofList value)
      else do
        let draft ← draft.giveAlone topic parameter
        draft.takeLetters topic argument rest

end Draft

namespace Command

/-- How the path of a workspace is shown. -/
def workspaceForm : String := "<WORKSPACE>"

/-- Adds a word, which has to be the path of the workspace. -/
def takeWord (command : Command) (draft : Draft) (word : String) : Except Halt Draft :=
  if !command.takesWorkspace || !draft.words.isEmpty then
    .error (.misuse (.command command) (.unexpected word))
  else if word.isEmpty then .error (.misuse (.command command) (.valueEmpty workspaceForm))
  else .ok { draft with words := [word] }

/-- What the command lacks. -/
def lacks (command : Command) (draft : Draft) : List String :=
  ((command.requiredParameters.filter fun p => (draft.value? p).isNone).map Parameter.form) ++
    (if command.takesWorkspace && draft.words.isEmpty then [workspaceForm] else [])

/-- The task that is complete with a draft. -/
def toTask (command : Command) (draft : Draft) : Task :=
  let workspace := draft.words.headD ""
  match command with
  | generate => .generate workspace (draft.value? .report).isSome
  | summary => .summary workspace (draft.value? .json).isSome
  | catalog => .catalog
  | refine => .refine workspace ((draft.value? .instruction).getD "")

/-- Reads the arguments of a command. -/
def readArguments (command : Command) (draft : Draft) : List String → Except Halt Draft
  | [] =>
    match draft.awaiting, command.lacks draft with
    | some parameter, _ => .error (.misuse (.command command) (.valueMissing parameter))
    | none, [] => .ok draft
    | none, forms => .error (.misuse (.command command) (.notGiven forms))
  | argument :: rest =>
    match draft.awaiting, Argument.ofText argument with
    | some parameter, .word => do
      let draft ← draft.give (.command command) parameter argument
      command.readArguments draft rest
    | some parameter, _ => .error (.misuse (.command command) (.valueMissing parameter))
    | none, .word => do
      let draft ← command.takeWord draft argument
      command.readArguments draft rest
    | none, .long text => do
      let draft ← draft.takeLong (.command command) argument text
      command.readArguments draft rest
    | none, .letters text => do
      let draft ← draft.takeLetters (.command command) argument text
      command.readArguments draft rest
    | none, .escape => do
      let draft ← rest.foldlM command.takeWord draft
      match command.lacks draft with
      | [] => .ok draft
      | forms => .error (.misuse (.command command) (.notGiven forms))

end Command

namespace Invocation

/-- Reads the arguments from a command on. What has been given to the program before holds unless
the command is given something else. -/
def readCommand (before : Draft) (word : String) (rest : List String) : Except Halt Invocation :=
  match Command.ofName? word with
  | some command => do
    let draft ← command.readArguments {} rest
    return ⟨draft.value? .config <|> before.value? .config, command.toTask draft⟩
  | none =>
    if word = "help" then
      match Topic.ofWords? rest with
      | .ok topic => .error (.help topic)
      | .error unknown => .error (.misuse .program (.unknownCommand unknown))
    else .error (.misuse .program (.unknownCommand word))

/-- Reads the arguments of the program. -/
def readFrom (draft : Draft) : List String → Except Halt Invocation
  | [] =>
    match draft.awaiting with
    | some parameter => .error (.misuse .program (.valueMissing parameter))
    | none => .error .noCommand
  | argument :: rest =>
    match draft.awaiting, Argument.ofText argument with
    | some parameter, .word => do
      let draft ← draft.give .program parameter argument
      readFrom draft rest
    | some parameter, _ => .error (.misuse .program (.valueMissing parameter))
    | none, .word => readCommand draft argument rest
    | none, .long text => do
      let draft ← draft.takeLong .program argument text
      readFrom draft rest
    | none, .letters text => do
      let draft ← draft.takeLetters .program argument text
      readFrom draft rest
    | none, .escape =>
      match rest with
      | [] => .error .noCommand
      | word :: _ => .error (.misuse .program (.unexpected word))

/-- What arguments ask for. -/
def read (arguments : List String) : Except Halt Invocation :=
  readFrom {} arguments

end Invocation

end SolanaBlocks.CommandLine
