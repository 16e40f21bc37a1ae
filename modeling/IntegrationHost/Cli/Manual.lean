import IntegrationHost.Cli.Arguments

/-!
# The manual

What the command line says about itself: help on the program and its commands, and what was wrong
with arguments that ask for nothing.
-/

namespace IntegrationHost.Cli

/-- The name of the program. -/
def programName : String := "config-validator"

/-- The version of the program. -/
def version : String := "0.1.0"

/-- Lines as text; each has an end. -/
def lines (ls : List String) : String := String.join (ls.map (· ++ "\n"))

namespace Command

/-- What a command is for. -/
def purpose : Command → String
  | validate => "Validate an adapter configuration file"
  | describe => "Show the fields accepted by a configurable type"
  | types => "List every configurable type"

/-- What the word of a command is. -/
def wordPurpose : Command → String
  | validate => "Configuration location (path or file:// URL)"
  | describe => "Type name, e.g. split-join"
  | types => ""

/-- The word of a command, as it stands in texts. -/
def placeholder (c : Command) : Option String := c.wordName?.map fun name => "<" ++ name ++ ">"

/-- How a command is written. -/
def usage (c : Command) : String :=
  " ".intercalate ("Usage:" :: programName :: c.name :: c.placeholder.toList)

end Command

/-- How the arguments are written. -/
def usage : String := "Usage: " ++ programName ++ " [OPTIONS] <COMMAND>"

/-- Help on the program. -/
def programHelp : String :=
  lines
    ["Validate adapter configuration files",
      "",
      usage,
      "",
      "Commands:",
      "  validate  " ++ Command.validate.purpose,
      "  describe  " ++ Command.describe.purpose,
      "  types     " ++ Command.types.purpose,
      "  help      Print this message or the help of the given subcommand(s)",
      "",
      "Options:",
      "  -b, --bootstrap <BOOTSTRAP>  Bootstrap configuration (TOML), defaults to " ++
        "./bootstrap.toml when present; environment overrides apply either way",
      "  -v, --verbose...             Verbose output level (use multiple times for more verbosity)",
      "      --format <FORMAT>        Output format (table, json) [default: table]",
      "  -h, --help                   Print help",
      "  -V, --version                Print version"]

/-- Help on a command. -/
def commandHelp (c : Command) : String :=
  let word := match c.placeholder with
    | some placeholder => ["Arguments:", "  " ++ placeholder ++ "  " ++ c.wordPurpose, ""]
    | none => []
  lines ([c.purpose, "", c.usage, ""] ++ word ++ ["Options:", "  -h, --help  Print help"])

/-- Help on help. -/
def helpHelp : String :=
  lines
    ["Print this message or the help of the given subcommand(s)",
      "",
      "Usage: " ++ programName ++ " help [COMMAND]...",
      "",
      "Arguments:",
      "  [COMMAND]...  Print help for the subcommand(s)"]

/-- Help on a topic. -/
def help : Topic → String
  | .program => programHelp
  | .command c => commandHelp c
  | .help => helpHelp

/-- An option with its value, as it stands in texts. -/
def Setting.text : Setting → String
  | bootstrap => "--bootstrap <BOOTSTRAP>"
  | format => "--format <FORMAT>"

namespace UsageError

/-- The wording of what was wrong with arguments. -/
def message : UsageError → String
  | missingCommand =>
    "'" ++ programName ++ "' requires a subcommand but one wasn't provided\n  [subcommands: " ++
      ", ".intercalate (Command.all.map Command.name ++ ["help"]) ++ "]"
  | unknownCommand word => "unrecognized subcommand '" ++ word ++ "'"
  | missingWord c =>
    "the following required arguments were not provided:\n  " ++ c.placeholder.getD ""
  | unexpected argument => "unexpected argument '" ++ argument ++ "' found"
  | unexpectedValue flag value =>
    "unexpected value '" ++ value ++ "' for '" ++ flag ++ "' found; no more were expected"
  | missingValue setting =>
    "a value is required for '" ++ setting.text ++ "' but none was supplied"
  | repeated setting => "the argument '" ++ setting.text ++ "' cannot be used multiple times"

/-- What is said about arguments that ask for nothing. -/
def report (e : UsageError) : String :=
  lines ["error: " ++ e.message, "", usage, "", "For more information, try '--help'."]

end UsageError

end IntegrationHost.Cli
