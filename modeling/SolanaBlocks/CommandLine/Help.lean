import SolanaBlocks.CommandLine.Invocation
import SolanaBlocks.Text.Padded

/-!
# Help texts

A help text says what its topic is for, how it is used, and what can be given, in tables with two
columns.
-/

namespace SolanaBlocks.CommandLine

/-- A table of two columns under a title. Without any rows there is no table. -/
def table (title : String) (rows : List (String × String)) : String :=
  if rows.isEmpty then ""
  else
    let width := (rows.map fun (left, _) => left.length).foldl max 0
    "\n" ++ title ++ ":\n" ++ String.join (rows.map fun (left, right) =>
      "  " ++ Text.padTo width left ++ "  " ++ right ++ "\n")

/-- The row of a parameter. -/
def Parameter.row (parameter : Parameter) : String × String :=
  let letter :=
    match parameter.short? with
    | some c => String.ofList ['-', c, ',', ' ']
    | none => "    "
  (letter ++ parameter.form, parameter.purpose)

namespace Topic

/-- What follows the name of the topic when it is used. -/
def usageWords : Topic → List String
  | program => ["[OPTIONS]", "<COMMAND>"]
  | .command c =>
    "[OPTIONS]" :: c.requiredParameters.map Parameter.form ++
      if c.takesWorkspace then [Command.workspaceForm] else []
  | help => ["[COMMAND]..."]

/-- How the topic is used. -/
def usage (topic : Topic) : String :=
  "Usage: " ++ topic.title ++ String.join (topic.usageWords.map (" " ++ ·)) ++ "\n"

/-- The commands below the topic. -/
def commandRows : Topic → List (String × String)
  | program =>
    (Command.all.map fun command => (command.name, command.purpose)) ++ [("help", help.purpose)]
  | _ => []

/-- The words that can be given. -/
def wordRows : Topic → List (String × String)
  | program => []
  | .command c =>
    if c.takesWorkspace then [(Command.workspaceForm, c.workspacePurpose)] else []
  | help => [("[COMMAND]...", "Print help for the subcommand(s)")]

/-- The help on a topic. -/
def helpText (topic : Topic) : String :=
  topic.purpose ++ "\n\n" ++ topic.usage ++ table "Commands" topic.commandRows ++
    table "Arguments" topic.wordRows ++ table "Options" (topic.parameters.map Parameter.row)

end Topic

/-- What is said about arguments that make no sense. -/
def UsageError.notice (error : UsageError) (topic : Topic) : String :=
  "error: " ++ error.message ++ "\n\n" ++ topic.usage ++
    "\nFor more information, try '--help'.\n"

end SolanaBlocks.CommandLine
