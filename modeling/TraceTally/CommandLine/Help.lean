import TraceTally.CommandLine.Basic
import TraceTally.Text.Lines
import TraceTally.Text.Plain

/-! Texts of help, version and usage faults. -/
namespace TraceTally.CommandLine

/-- What the program or a command is for. -/
def Topic.about : Topic → String
  | program => "Tally instruction counts and timings from newline-delimited traces"
  | paired => "Tally alternating key/duration lines (default input: transferFrom.txt)"
  | single => "Tally one key per line and print the keys (default input: all.txt)"
  | help => "Print this message or the help of the given subcommand(s)"

def Topic.usage : Topic → String
  | program => "Usage: insttally [OPTIONS] <COMMAND>"
  | paired => "Usage: insttally paired [OPTIONS] <SELECTOR>"
  | single => "Usage: insttally single [OPTIONS]"
  | help => "Usage: insttally help [COMMAND]..."

def commandLines : List String :=
  ["",
    "Commands:",
    "  paired  " ++ Topic.paired.about,
    "  single  " ++ Topic.single.about,
    "  help    " ++ Topic.help.about]

def selectorHelp : String :=
  "1 = keys, 2 = counts, 3 = summed durations; anything else prints nothing"

/-- The words that may follow a command, or the commands that may follow the program. -/
def Topic.wordLines (long : Bool) : Topic → List String
  | program => commandLines
  | paired =>
    if long then ["", "Arguments:", "  <SELECTOR>", "          " ++ selectorHelp]
    else ["", "Arguments:", "  <SELECTOR>  " ++ selectorHelp]
  | single => []
  | help => ["", "Arguments:", "  [COMMAND]...  Print help for the subcommand(s)"]

def shortOptionLines : List String :=
  ["",
    "Options:",
    "  -i, --input <PATH>     Input file (overrides the config file and the built-in default)",
    "      --config <PATH>    TOML file with default input paths",
    "      --format <FORMAT>  Output format [default: text] [possible values: text, json, csv]",
    "  -c, --summary          Print a summary table (counts and timing per key) to stderr",
    "      --debug            Enable debug tracing output on stderr",
    "  -h, --help             Print help (see more with '--help')"]

def longOptionLines : List String :=
  ["",
    "Options:",
    "  -i, --input <PATH>",
    "          Input file (overrides the config file and the built-in default)",
    "",
    "      --config <PATH>",
    "          TOML file with default input paths",
    "",
    "      --format <FORMAT>",
    "          Output format",
    "",
    "          Possible values:",
    "          - text: One value per line (default)",
    "          - json: JSON format for machine parsing",
    "          - csv:  CSV format for spreadsheet analysis",
    "          ",
    "          [default: text]",
    "",
    "  -c, --summary",
    "          Print a summary table (counts and timing per key) to stderr",
    "",
    "      --debug",
    "          Enable debug tracing output on stderr",
    "",
    "  -h, --help",
    "          Print help (see a summary with '-h')"]

/-- The options of a level. The help command has none. -/
def Topic.optionLines (long : Bool) : Topic → List String
  | program =>
    if long then longOptionLines ++ ["", "  -V, --version", "          Print version"]
    else shortOptionLines ++ ["  -V, --version          Print version"]
  | help => []
  | _ => if long then longOptionLines else shortOptionLines

def Topic.helpText (long : Bool) (t : Topic) : String :=
  Text.unlines ([t.about, "", t.usage] ++ t.wordLines long ++ t.optionLines long)

def versionText : String := "insttally 0.1.0\n"

def formatValues : String := "\n  [possible values: text, json, csv]"

/-- The message of a fault. What was given is shown without its control sequences. When nothing at
all was given, the short help stands for the message. -/
def Fault.message : Fault → String
  | nothingGiven => Topic.program.helpText false
  | unknownCommand word => "error: unrecognized subcommand '" ++ Text.plain word ++ "'"
  | missingCommand =>
    "error: 'insttally' requires a subcommand but one was not provided\n" ++
      "  [subcommands: paired, single, help]"
  | missingSelector => "error: the following required arguments were not provided:\n  <SELECTOR>"
  | unexpected argument => "error: unexpected argument '" ++ Text.plain argument ++ "' found"
  | badFormat value =>
    "error: invalid value '" ++ Text.plain value ++ "' for '" ++ (Opt.setting .format).label ++
      "'" ++ formatValues
  | missingValue s =>
    "error: a value is required for '" ++ (Opt.setting s).label ++ "' but none was supplied" ++
      (if s = .format then formatValues else "")
  | unwantedValue o value =>
    "error: unexpected value '" ++ Text.plain value ++ "' for '" ++ o.label ++
      "' found; no more were expected"
  | repeated o => "error: the argument '" ++ o.label ++ "' cannot be used multiple times"

/-- A fault as it is shown, with where to look for help. -/
def Fault.report : Fault → String
  | nothingGiven => nothingGiven.message
  | f => f.message ++ "\n\nFor more information, try '--help'.\n"

end TraceTally.CommandLine
