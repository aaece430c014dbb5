/-
The texts of help and version.
-/
import GraphGateway.Catalog.Health
import GraphGateway.CommandLine.Grammar

namespace GraphGateway.CommandLine

def programName : String := "kuzu-mcp"

def versionText : String := programName ++ " " ++ Catalog.Health.currentVersion ++ "\n"

/-- What a command does. -/
def Verb.about : Verb → String
  | .serve => "Serve MCP over stdio (default)"
  | .schema => "Print the reflected schema as JSON"
  | .health => "Print a health report as JSON; exits 1 when unhealthy"
  | .query => "Run one Cypher statement and print the rows as JSON"

def helpAbout : String := "Print this message or the help of the given subcommand(s)"

/-- The options that stand everywhere, a line each. -/
def optionLines : String :=
  "Options:\n" ++
  "  -c, --config <CONFIG>        TOML configuration file\n" ++
  "      --db-path <DB_PATH>      Database directory (overrides config and KUZU_MCP_DB_PATH)\n" ++
  "      --read-only              Open the database read-only\n" ++
  "      --seed-file <SEED_FILE>  Cypher script used to seed an empty database\n" ++
  "      --log-level <LOG_LEVEL>  Log level when RUST_LOG is unset " ++
    "(error, warn, info, debug, trace)\n" ++
  "  -h, --help                   Print help\n"

/-- A line of the list of commands. -/
def commandLine (name about : String) : String :=
  "  " ++ String.ofList (name.toList ++ List.replicate (8 - name.length) ' ') ++ about ++ "\n"

/-- The help on a topic. -/
def helpText : Topic → String
  | .program =>
    "MCP server for an embedded Kùzu graph database\n\n" ++
    "Usage: " ++ programName ++ " [OPTIONS] [COMMAND]\n\n" ++
    "Commands:\n" ++ String.join (Verb.all.map fun v => commandLine v.name v.about) ++
    commandLine "help" helpAbout ++ "\n" ++
    optionLines ++
    "  -V, --version                Print version\n"
  | .verb .query =>
    Verb.query.about ++ "\n\n" ++
    "Usage: " ++ programName ++ " query [OPTIONS] <CYPHER>\n\n" ++
    "Arguments:\n  <CYPHER>  Cypher statement\n\n" ++ optionLines
  | .verb verb =>
    verb.about ++ "\n\n" ++
    "Usage: " ++ programName ++ " " ++ verb.name ++ " [OPTIONS]\n\n" ++ optionLines
  | .help =>
    helpAbout ++ "\n\n" ++
    "Usage: " ++ programName ++ " help [COMMAND]...\n\n" ++
    "Arguments:\n  [COMMAND]...  Print help for the subcommand(s)\n"

end GraphGateway.CommandLine
