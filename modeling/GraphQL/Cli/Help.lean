import GraphQL.Cli.Arguments

/-!
# Commands and their help

The commands of the program, how each is called, and the texts that explain them.
-/

namespace GraphQL
namespace Cli

/-- The commands. -/
inductive Command
  | check
  | normalize
  | sdl
  deriving DecidableEq, Repr

/-- The name of the program. -/
def program : String := "gql-builder"

/-- The version of the program. -/
def version : String := "0.1.0"

namespace Command

/-- The name of a command. -/
def name : Command → String
  | check => "check"
  | normalize => "normalize"
  | sdl => "sdl"

/-- The command with a name. -/
def ofName? (name : String) : Option Command :=
  match name with
  | "check" => some check
  | "normalize" => some normalize
  | "sdl" => some sdl
  | _ => none

/-- The options of a command. -/
def options : Command → List OptionName
  | check => [.verbose, .help]
  | normalize => [.help]
  | sdl => [.documentation, .templateDir, .help]

/-- What a command is called with besides options. -/
def parameters : Command → String
  | check => "EXPECTED ACTUAL"
  | normalize => "PATH"
  | sdl => "TARGETS..."

end Command

/-- How the program or one of its commands is called. -/
def usage : Option Command → String
  | none => "Usage: " ++ program ++ " [OPTIONS] COMMAND [ARGS]..."
  | some command =>
    "Usage: " ++ program ++ " " ++ command.name ++ " [OPTIONS] " ++ command.parameters

/-- How help on the program or one of its commands is called for. -/
def helpHint : Option Command → String
  | none => "Try '" ++ program ++ " --help' for help."
  | some command => "Try '" ++ program ++ " " ++ command.name ++ " --help' for help."

/-- The lines that explain the program or one of its commands. -/
def helpLines : Option Command → List String
  | none =>
    ["  Build and compare GraphQL request documents.",
      "",
      "  Tools around the gql_builder package: document comparison and SDL output for",
      "  annotated types.",
      "",
      "Options:",
      "  --version  Show the version and exit.",
      "  --help     Show this message and exit.",
      "",
      "Commands:",
      "  check      Check that two .graphql request files are equivalent.",
      "  normalize  Print a .graphql file in canonical form.",
      "  sdl        Print SDL for annotated classes given as module:Class."]
  | some .check =>
    ["  Check that two .graphql request files are equivalent.",
      "",
      "  Whitespace and commas are ignored; field, argument and input field order is",
      "  significant.",
      "",
      "  Examples:",
      "",
      "      gql-builder check expected.graphql generated.graphql",
      "",
      "Options:",
      "  -v, --verbose  Print the diff when the documents differ.",
      "  --help         Show this message and exit."]
  | some .normalize =>
    ["  Print a .graphql file in canonical form.",
      "",
      "Options:",
      "  --help  Show this message and exit."]
  | some .sdl =>
    ["  Print SDL for annotated classes given as module:Class.",
      "",
      "  Examples:",
      "",
      "      gql-builder sdl myapp.models:Starship myapp.models:Pilot",
      "",
      "      gql-builder sdl -d myapp.models:Starship",
      "",
      "Options:",
      "  -d, --documentation           List fields in their documentation order (see",
      "                                @fields_order).",
      "  -t, --template-dir DIRECTORY  Directory with templates overriding the built-in",
      "                                ones.",
      "  --help                        Show this message and exit."]

/-- The help on the program or one of its commands. -/
def help (command : Option Command) : String :=
  "\n".intercalate (usage command :: "" :: helpLines command) ++ "\n"

/-- The text that tells the version. -/
def versionText : String :=
  program ++ ", version " ++ version ++ "\n"

end Cli
end GraphQL
