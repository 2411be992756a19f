/-!
# Commands and parameters

The commands of the program and the parameters that each of them takes. Both the reading of
arguments and the help texts follow these tables.
-/

namespace SolanaBlocks.CommandLine

/-- The name of the program. -/
def programName : String := "snapchain-cli"

/-- What the program is for. -/
def programPurpose : String := "Generate Solana program source from a saved block workspace"

/-- The line that names the version. -/
def versionLine : String := "snapchain-codegen 0.3.2\n"

/-- What is given by name, with or without a value. -/
inductive Parameter where
  | config
  | report
  | json
  | instruction
  | help
  | version
deriving DecidableEq, Repr

namespace Parameter

/-- The name after two dashes. -/
def long : Parameter → String
  | config => "config"
  | report => "report"
  | json => "json"
  | instruction => "instruction"
  | help => "help"
  | version => "version"

/-- The letter after one dash. -/
def short? : Parameter → Option Char
  | config => some 'c'
  | instruction => some 'i'
  | help => some 'h'
  | version => some 'V'
  | report | json => none

/-- What the value is called, if there is one. -/
def valueName? : Parameter → Option String
  | config => some "CONFIG"
  | instruction => some "INSTRUCTION"
  | report | json | help | version => none

/-- Whether the value may be empty. A path may not. -/
def allowsEmpty : Parameter → Bool
  | config => false
  | _ => true

/-- What the parameter is for. -/
def purpose : Parameter → String
  | config => "Optional TOML configuration file"
  | report => "Print generation statistics to stderr"
  | json => "Print the normalized JSON form instead"
  | instruction => "What to change"
  | help => "Print help"
  | version => "Print version"

/-- The long form with the name of the value. -/
def form (parameter : Parameter) : String :=
  "--" ++ parameter.long ++
    match parameter.valueName? with
    | some name => " <" ++ name ++ ">"
    | none => ""

end Parameter

/-- What the program can be told to do. -/
inductive Command where
  | generate
  | summary
  | catalog
  | refine
deriving DecidableEq, Repr

namespace Command

/-- All commands. -/
def all : List Command := [generate, summary, catalog, refine]

/-- The word for a command. -/
def name : Command → String
  | generate => "generate"
  | summary => "summary"
  | catalog => "catalog"
  | refine => "refine"

/-- The command that a word stands for. -/
def ofName? (word : String) : Option Command :=
  all.find? fun command => command.name == word

/-- What the command does. -/
def purpose : Command → String
  | generate => "Print the generated source for a workspace"
  | summary => "Print the human-readable outline of a workspace"
  | catalog => "List every registered block type"
  | refine => "Ask the refinement service to rewrite the generated source"

/-- Whether the command works on a workspace. -/
def takesWorkspace : Command → Bool
  | catalog => false
  | _ => true

/-- What there is to say about the path of the workspace. -/
def workspacePurpose : Command → String
  | generate => "Path to the structured workspace JSON file"
  | _ => ""

/-- The parameters of the command alone. -/
def ownParameters : Command → List Parameter
  | generate => [.report]
  | summary => [.json]
  | catalog => []
  | refine => [.instruction]

/-- The parameters that have to be given. -/
def requiredParameters : Command → List Parameter
  | refine => [.instruction]
  | _ => []

end Command

/-- What arguments and help texts are about: the program as a whole, one command, or the word that
asks for help. -/
inductive Topic where
  | program
  | command (command : Command)
  | help
deriving DecidableEq, Repr

namespace Topic

/-- The parameters that may be given. -/
def parameters : Topic → List Parameter
  | program => [.config, .help, .version]
  | .command c => .config :: c.ownParameters ++ [.help]
  | help => []

/-- The words that have led to the topic. -/
def title : Topic → String
  | program => programName
  | .command c => programName ++ " " ++ c.name
  | help => programName ++ " help"

/-- What the topic is for. -/
def purpose : Topic → String
  | program => programPurpose
  | .command c => c.purpose
  | help => "Print this message or the help of the given subcommand(s)"

/-- The topic that words after a request for help name. -/
def ofWords? : List String → Except String Topic
  | [] => .ok program
  | word :: rest =>
    match rest.head? with
    | some unknown =>
      .error (if word = "help" ∨ (Command.ofName? word).isSome then unknown else word)
    | none =>
      if word = "help" then .ok help
      else
        match Command.ofName? word with
        | some c => .ok (command c)
        | none => .error word

end Topic

end SolanaBlocks.CommandLine
