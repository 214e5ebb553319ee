/-! What can be said on the command line, and what comes back when it cannot be followed. -/
namespace TraceTally.CommandLine

inductive Format where
  | text
  | json
  | csv
  deriving DecidableEq

/-- The selector of a paired tally is any text; it need not select anything. -/
inductive Command where
  | paired (selector : String)
  | single
  deriving DecidableEq

structure Invocation where
  input : Option String
  config : Option String
  format : Format
  summary : Bool
  debug : Bool
  command : Command
  deriving DecidableEq

/-- Options that take a value. -/
inductive Setting where
  | input
  | config
  | format
  deriving DecidableEq

inductive Flag where
  | summary
  | debug
  deriving DecidableEq

inductive Opt where
  | setting (s : Setting)
  | flag (f : Flag)
  | help
  | version
  deriving DecidableEq

/-- What help is about. Each but `help` is also a level at which options are read. -/
inductive Topic where
  | program
  | paired
  | single
  | help
  deriving DecidableEq

inductive Fault where
  | nothingGiven
  | unknownCommand (word : String)
  | missingCommand
  | missingSelector
  | unexpected (argument : String)
  | badFormat (value : String)
  | missingValue (s : Setting)
  | unwantedValue (o : Opt) (value : String)
  | repeated (o : Opt)
  deriving DecidableEq

/-- What is answered instead of running. -/
inductive Reply where
  | help (topic : Topic) (long : Bool)
  | version
  | fault (f : Fault)
  deriving DecidableEq

def Format.ofName? : String → Option Format
  | "text" => some .text
  | "json" => some .json
  | "csv" => some .csv
  | _ => none

/-- An option as messages name it, however it was spelt. -/
def Opt.label : Opt → String
  | setting .input => "--input <PATH>"
  | setting .config => "--config <PATH>"
  | setting .format => "--format <FORMAT>"
  | flag .summary => "--summary"
  | flag .debug => "--debug"
  | help => "--help"
  | version => "--version"

/-- Options by long name. Only the program itself has a version. -/
def Opt.ofLong? (level : Topic) : String → Option Opt
  | "input" => some (.setting .input)
  | "config" => some (.setting .config)
  | "format" => some (.setting .format)
  | "summary" => some (.flag .summary)
  | "debug" => some (.flag .debug)
  | "help" => some .help
  | "version" => if level = .program then some .version else none
  | _ => none

def Opt.ofShort? (level : Topic) : Char → Option Opt
  | 'i' => some (.setting .input)
  | 'c' => some (.flag .summary)
  | 'h' => some .help
  | 'V' => if level = .program then some .version else none
  | _ => none

def Topic.ofCommand? : String → Option Topic
  | "paired" => some .paired
  | "single" => some .single
  | "help" => some .help
  | _ => none

end TraceTally.CommandLine
