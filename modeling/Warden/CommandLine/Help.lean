import Warden.CommandLine.Invocation

namespace Warden.Invocation

/-!
# Help for people at the command line

* `helpText` — what the program can be asked to do.
* `usageText` — what is wrong with a command line.
-/

/-- The version of the program. -/
def versionText : String := "pinguard 0.1.0"

/-- What the program can be asked to do. -/
def helpText : List String := [
  "App-lock and anti-tamper protection engine",
  "",
  "Usage: pinguard [OPTIONS] <COMMAND>",
  "",
  "Commands:",
  "  run [--package <PACKAGE>] [--no-watch]  Run the protection engine on stdin/stdout",
  "  config show [-f <FORMAT>]               Show current configuration",
  "  config get <KEY>                        Get a configuration value",
  "  config set <KEY> <VALUE>                Set a configuration value",
  "  config path                             Show config file path",
  "  config init [-f]                        Initialize default config file",
  "  bypass status                           Show whether the bypass window is open",
  "  bypass clear                            Close the bypass window now",
  "  audit show [-n <LIMIT>] [--json]        Print recent audit entries",
  "  audit verify                            Check the hash chain",
  "  paths                                   Show resolved directory paths",
  "  help                                    Print this message",
  "",
  "Options:",
  "  -v, --verbose          Enable verbose logging",
  "      --log-json         Emit logs as JSON lines (on stderr)",
  "  -c, --config <CONFIG>  Path to config file",
  "  -h, --help             Print help",
  "  -V, --version          Print version"]

/-- What is wrong with a command line. -/
def usageText : CommandLine.Usage → String
  | .help | .version | .nothingGiven => ""
  | .missingCommand => "error: a subcommand is required"
  | .unknownCommand => "error: unrecognized subcommand"
  | .unknownArgument => "error: unexpected argument"
  | .missingOperand => "error: a required argument was not provided"
  | .missingValue => "error: a value is required for an option"
  | .surplusValue => "error: unexpected value for an option"
  | .repeated => "error: an argument cannot be used multiple times"
  | .notNumber => "error: invalid value for an option"

end Warden.Invocation
