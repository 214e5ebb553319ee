import TraceTally.CommandLine.Help
import TraceTally.CommandLine.Parse
import TraceTally.Log.Filter
import TraceTally.Report.Csv
import TraceTally.Report.Document
import TraceTally.Report.Summary
import TraceTally.Settings
import TraceTally.Tally.Pass

/-! A session: from arguments to what is printed and the exit status. Files are read through a
function, so that a session runs on a directory as well as on a tree in memory. -/
namespace TraceTally

open CommandLine (Invocation Command Format)

structure Outcome where
  exit : Nat
  stdout : String
  stderr : String
  deriving DecidableEq

/-- An error, perhaps with what was being done. -/
structure Failure where
  context : Option String
  error : Error
  deriving DecidableEq

namespace Failure

/-- Every message of the failure, from the outermost inwards. -/
def chain (f : Failure) : List String := f.context.toList ++ f.error.message :: f.error.causes

/-- Puts `indent` behind every line end of a text. -/
def indentLines (indent s : String) : String := String.intercalate ("\n" ++ indent) (s.splitOn "\n")

/-- A cause among `total`. One alone has no number. -/
def causeText (total i : Nat) (s : String) : String :=
  if total = 1 then "    " ++ indentLines "    " s
  else Text.padLeft 5 ' ' (toString i) ++ ": " ++ indentLines "       " s

def causeLines (causes : List String) : List String :=
  causes.mapIdx (causeText causes.length)

def report (f : Failure) : String :=
  match f.chain with
  | [] => "Error: \n"
  | top :: [] => "Error: " ++ top ++ "\n"
  | top :: causes => "Error: " ++ top ++ "\n\nCaused by:\n" ++ Text.unlines (causeLines causes)

end Failure

namespace Session

def modeOf : Command → Mode
  | .paired _ => .paired
  | .single => .single

/-- The input given on the command line, else the one that the settings name. -/
def inputPath (inv : Invocation) (s : Settings) : String :=
  inv.input.getD <|
    match inv.command with
    | .paired _ => s.pairedInput
    | .single => s.singleInput

/-- A single tally shows its keys. -/
def selectorOf : Command → Option Selector
  | .paired text => Selector.parse? text
  | .single => some .keys

def buildTally (command : Command) (ls : List String) : Except Error Tally :=
  match command with
  | .paired _ => Tally.ofPairedLines ls
  | .single => .ok (Tally.ofLines ls)

/-- Only columns depend on the selector. -/
def render (t : Tally) (sel : Selector) : Format → String
  | .text => t.columnText sel
  | .json => (Report.Document.ofTally t).render ++ "\n"
  | .csv => Report.Csv.render t

def settingsLoaded (s : Settings) : Log.Event where
  severity := .debug
  source := "insttally"
  message := "configuration loaded"
  fields := [("config", "TallyConfig \x7b paired_input: " ++ Text.quoted s.pairedInput ++
    ", single_input: " ++ Text.quoted s.singleInput ++ " \x7d")]

def inputRead (path content : String) (ls : List String) : Log.Event where
  severity := .debug
  source := "insttally::input"
  message := "read input"
  fields := [("path", path), ("bytes", toString content.utf8ByteSize),
    ("lines", toString ls.length)]

def tallyBuilt (t : Tally) (ls : List String) : Log.Event where
  severity := .debug
  source := "insttally::tally"
  message := match t.mode with
    | .paired => "paired tally built"
    | .single => "single tally built"
  fields := match t.mode with
    | .paired => [("keys", toString t.size), ("pairs", toString (ls.length / 2))]
    | .single => [("keys", toString t.size), ("total", toString t.totals.count.toNat)]

def tallyComplete (t : Tally) : Log.Event where
  severity := .info
  source := "insttally"
  message := "tally complete"
  fields := [("keys", toString t.size), ("mode", match t.mode with
    | .paired => "Paired"
    | .single => "Single")]

def nothingSelected : Log.Event where
  severity := .debug
  source := "insttally"
  message := "selector names no column, nothing to print"

/-- What a session came to once it had its files: the events on the way, and the tally or why there
is none. -/
abbrev Course := List Log.Event × Except Failure Tally

variable {m : Type → Type} [Monad m]

/-- Settings from a file if one was named, else the usual ones. -/
def loadSettings (read : String → m (Except ReadFault String)) :
    Option String → m (Except Failure Settings)
  | none => return .ok {}
  | some path => do
    let context := some ("Failed to load config " ++ path)
    match ← read path with
    | .error fault => return .error ⟨context, .unreadable path fault⟩
    | .ok text =>
      match Settings.ofToml text with
      | .error e => return .error ⟨context, e⟩
      | .ok s => return .ok s

/-- Tallies the text of a trace. -/
def tallyText (command : Command) (path content : String) : Course :=
  let ls := Text.lines content
  let events := [inputRead path content ls]
  match buildTally command ls with
  | .error e => (events, .error ⟨some ("Failed to tally " ++ path), e⟩)
  | .ok t => (events ++ [tallyBuilt t ls, tallyComplete t], .ok t)

/-- Loads the settings, also when nothing depends on them, then reads and tallies the input. -/
def course (read : String → m (Except ReadFault String)) (inv : Invocation) : m Course := do
  match ← loadSettings read inv.config with
  | .error f => return ([], .error f)
  | .ok s =>
    let path := inputPath inv s
    match ← read path with
    | .error fault => return ([settingsLoaded s], .error ⟨none, .unreadable path fault⟩)
    | .ok content =>
      let (events, result) := tallyText inv.command path content
      return (settingsLoaded s :: events, result)

/-- What is printed in the end. Nothing goes to the output unless the tally was built and the
selector names a column. -/
def conclude (inv : Invocation) (filter : String) : Course → Outcome
  | (events, result) =>
    let log (es : List Log.Event) : String :=
      if inv.debug then (Log.Filter.ofText filter).render es else ""
    match result with
    | .error f => { exit := 1, stdout := "", stderr := log events ++ f.report }
    | .ok t =>
      match selectorOf inv.command with
      | none => { exit := 0, stdout := "", stderr := log (events ++ [nothingSelected]) }
      | some sel =>
        { exit := 0
          stdout := render t sel inv.format
          stderr := log events ++ (if inv.summary then Report.Summary.render t else "") }

/-- Follows an invocation. `filter` says which log lines appear. -/
def run (read : String → m (Except ReadFault String)) (filter : String) (inv : Invocation) :
    m Outcome := do
  return conclude inv filter (← course read inv)

/-- What is answered to arguments that do not make an invocation. -/
def reply : CommandLine.Reply → Outcome
  | .help topic long => { exit := 0, stdout := topic.helpText long, stderr := "" }
  | .version => { exit := 0, stdout := CommandLine.versionText, stderr := "" }
  | .fault f => { exit := 2, stdout := "", stderr := f.report }

/-- A whole session, from its arguments on. -/
def start (read : String → m (Except ReadFault String)) (filter : String) (args : List String) :
    m Outcome :=
  match CommandLine.parse args with
  | .error r => return reply r
  | .ok inv => run read filter inv

end Session

end TraceTally
