import QueryWarden.Configuration.Load
import QueryWarden.Service.Operation

/-!
# The command line

Shows the settings that the service would run with: those built in, of the configuration file, of
the variables of the environment and of the command line itself, or what is wrong with them.
-/

namespace QueryWarden

open QueryWarden.Configuration

/-- What is shown to those who ask for help. -/
def usage : String :=
  "Usage: querywarden [OPTIONS]\n\n" ++
  "Options:\n" ++
  "  -c, --config <FILE>              Path to configuration file\n" ++
  "      --host <HOST>                Host to bind to\n" ++
  "  -p, --port <PORT>                Port to bind to\n" ++
  "      --database <DATABASE>        DuckDB file for application state\n" ++
  "      --llm-backend <LLM_BACKEND>  LLM backend: anthropic, remote or ollama\n" ++
  "      --llm-model <LLM_MODEL>      Model name passed to the LLM backend\n" ++
  "  -h, --help                       Print help\n" ++
  "  -V, --version                    Print version"

/-- What is said about a command line that is refused. -/
def refusalText : CommandLineFault → String
  | .unknownArgument => "error: unexpected argument found"
  | .missingValue => "error: a value is required but none was supplied"
  | .badValue => "error: invalid value for '--port <PORT>'"
  | .repeatedArgument => "error: an argument cannot be used multiple times"
  | .needlessValue => "error: unexpected value for an argument"
  | .help | .version => ""

/-- The variables that name a setting. -/
def variableNames : List String :=
  Settings.initial.layer.flatMap fun (name, tree) =>
    match tree with
    | .table _ members =>
        members.map fun (key, _) => "NL2SQL__" ++ name.toUpper ++ "__" ++ key.toUpper
    | _ => []

/-- The variables that are set. -/
def readVariables : IO Variables :=
  variableNames.filterMapM fun name => do
    return (← IO.getEnv name).map fun value => (name, value)

/-- The files among some paths that can be read. -/
def readFiles (paths : List String) : IO TextFiles :=
  paths.filterMapM fun (path : String) => do
    try
      return some (path, ← IO.FS.readFile ⟨path⟩)
    catch _ => return none

/-- Shows the settings of a command line. -/
def showSettings (line : CommandLine) : IO UInt32 := do
  let named := line.config.toList
  let files ← readFiles (named ++ named.map (· ++ ".toml") ++ defaultPaths)
  match load line files (← readVariables) with
  | .ok settings =>
      IO.println settings.toValue.compact
      return 0
  | .error .unreadableFile =>
      IO.eprintln "error: the configuration file is not valid TOML"
      return 1
  | .error fault =>
      IO.eprintln ("error: " ++ fault.message)
      return 1

end QueryWarden

open QueryWarden QueryWarden.Configuration in
/-- Runs the program with the words of its command line. -/
def main (words : List String) : IO UInt32 := do
  match CommandLine.parse words with
  | .ok line => showSettings line
  | .error .help =>
      IO.println usage
      return 0
  | .error .version =>
      IO.println ("querywarden " ++ Service.version)
      return 0
  | .error fault =>
      IO.eprintln (refusalText fault)
      return 2
