import Groundplan.CommandLine.Level
import Groundplan.Report.Content

/-!
# Usage

What is printed instead of running a command: the usage or the version where one is asked for, and
otherwise what is wrong with the arguments.
-/

namespace Groundplan.CommandLine

/-- The usage of the program. -/
def usage : String := "\n".intercalate
  ["Canonicalize Infrastructure-as-Code files into JSON for policy evaluation",
    "",
    "Usage: iac-canon [OPTIONS] <COMMAND>",
    "",
    "Commands:",
    "  convert <PATH>...  Convert IaC files into canonical documents [aliases: c]",
    "  dialects           List registered IaC dialects",
    "  init               Create an example configuration file",
    "  validate [FILE]    Validate a configuration file",
    "  help               Print this message",
    "",
    "Options:",
    "  -c, --config <CONFIG>  Path to configuration file",
    "  -v, --verbose          Increase verbosity (-v, -vv, -vvv)",
    "  -q, --quiet            Suppress all output except errors",
    "  -h, --help             Print help",
    "  -V, --version          Print version",
    "",
    "Options of convert:",
    "  -f, --format <FORMAT>              Output format: json, yaml or text",
    "  -o, --output <FILE>                Output file path (stdout if not specified)",
    "      --dialect <NAME>               Dialect name",
    "      --dialect-version <VERSION>    Dialect version",
    "  -e, --exclude <PATTERN>            Patterns to exclude from scanning (glob patterns)",
    "      --max-depth <DEPTH>            Maximum depth for recursive directory scanning",
    "      --max-nesting-depth <DEPTH>    Maximum syntax tree nesting of a document",
    "      --fail-fast                    Abort on the first file that fails to convert",
    ""]

/-- The name and version of the program. -/
def versionLine : String := "iac-canon " ++ reportVersion ++ "\n"

/-- How a parameter is called. -/
def Parameter.title (p : Parameter) : String :=
  match p.long? with
  | some name => "--" ++ name
  | none => if p = .paths then "<PATH>..." else "[FILE]"

/-- What is wrong with the arguments. -/
def Refusal.message : Refusal → String
  | help => usage
  | version => versionLine
  | nothingGiven => usage
  | commandMissing => "error: a command is required\n"
  | commandUnknown argument => s!"error: unrecognized command '{argument}'\n"
  | argumentUnknown argument => s!"error: unexpected argument '{argument}'\n"
  | repeated p => s!"error: the argument '{p.title}' cannot be used multiple times\n"
  | valueInvalid p | numberInvalid p => s!"error: invalid value for '{p.title}'\n"
  | valueUnneeded p => s!"error: unexpected value for '{p.title}'\n"
  | pathsMissing => "error: the required argument '<PATH>...' was not provided\n"

/-- Whether a refusal answers a question instead of naming a fault. -/
def Refusal.isAnswer : Refusal → Bool
  | help | version => true
  | nothingGiven | commandMissing | commandUnknown _ | argumentUnknown _ | repeated _
  | valueInvalid _ | numberInvalid _ | valueUnneeded _ | pathsMissing => false

end Groundplan.CommandLine
