import TraceTally.Decimal.Shortest
import TraceTally.Error
import TraceTally.Text.Padding
import TraceTally.Text.Quoted
import TraceTally.Toml.Reader

/-! Settings: where each kind of trace is read from when the command line does not say. -/
namespace TraceTally

structure Settings where
  pairedInput : String := "transferFrom.txt"
  singleInput : String := "all.txt"
  deriving DecidableEq

namespace Settings

open Text (byteCount)

/-- A place in a text: line and column count from one, `width` is in bytes and stays on the line. -/
structure Excerpt where
  line : Nat
  column : Nat
  content : String
  width : Nat
  deriving DecidableEq

def Excerpt.of (text : String) (span : Toml.Span) : Excerpt :=
  let cs := text.toList
  let before := cs.take (cs.length - span.startLeft)
  let after := cs.drop (cs.length - span.startLeft)
  let left := (before.reverse.takeWhile (· != '\n')).reverse
  let right := after.takeWhile (· != '\n')
  let spanBytes := byteCount (after.take (span.startLeft - span.stopLeft))
  { line := before.count '\n' + 1
    column := left.length + 1
    content := String.ofList (left ++ right)
    width := max 1 (min spanBytes (byteCount right)) }

/-- The line with marks below the place, and above it where it is. -/
def Excerpt.render (e : Excerpt) : String :=
  let number := toString e.line
  let gutter := Text.copies number.length ' '
  "TOML parse error at line " ++ number ++ ", column " ++ toString e.column ++ "\n" ++
    gutter ++ " |\n" ++
    number ++ " | " ++ e.content ++ "\n" ++
    gutter ++ " | " ++ Text.copies (e.column - 1) ' ' ++ Text.copies e.width '^' ++ "\n"

/-- Why a text gives no settings. Of one that is no document at all nothing more is said. -/
inductive Fault where
  | malformed
  | unknownField (name : String) (place : Excerpt)
  | wrongType (found : String) (place : Excerpt)
  deriving DecidableEq

def Fault.message : Fault → String
  | malformed => "TOML parse error\n"
  | unknownField name place =>
    place.render ++ "unknown field `" ++ name ++ "`, expected `paired_input` or `single_input`\n"
  | wrongType found place =>
    place.render ++ "invalid type: " ++ found ++ ", expected path string\n"

def numberText : Toml.Number → String
  | .finite negative b => (if negative then "-" else "") ++ b.text
  | .infinite negative => if negative then "-inf" else "inf"
  | .nan => "NaN"

/-- What a node is that is no string. -/
def describe : Toml.Node → String
  | .value (.string s) _ => "string " ++ Text.quoted s
  | .value (.integer n) _ => "integer `" ++ toString n ++ "`"
  | .value (.float x) _ => "floating point `" ++ numberText x ++ "`"
  | .value (.boolean b) _ => "boolean `" ++ (if b then "true" else "false") ++ "`"
  | .value .array _ => "sequence"
  | .tables .. => "sequence"
  | .value .date _ => "map"
  | .value .table _ => "map"
  | .table .. => "map"

/-- Where a node stands. A table without a header stands at its key. -/
def place (key : Toml.Key) : Toml.Node → Toml.Span
  | .value _ span => span
  | .tables span _ => span
  | .table (.header span) _ => span
  | .table _ _ => key.span

def path (text : String) (key : Toml.Key) : Toml.Node → Except Fault String
  | .value (.string s) _ => .ok s
  | n => .error (.wrongType (describe n) (.of text (place key n)))

/-- Takes one entry of the document in. -/
def accept (text : String) (s : Settings) : Toml.Key × Toml.Node → Except Fault Settings
  | (key, n) =>
    if key.name = "paired_input" then do return { s with pairedInput := ← path text key n }
    else if key.name = "single_input" then do return { s with singleInput := ← path text key n }
    else .error (.unknownField key.name (.of text key.span))

/-- Reads the whole text first; of its entries the first that is not acceptable is reported. -/
def parse (text : String) : Except Fault Settings :=
  match Toml.parse? text with
  | none => .error .malformed
  | some entries => entries.foldlM (accept text) {}

/-- The settings that a text gives, or the error with all that is said about the fault. -/
def ofToml (text : String) : Except Error Settings :=
  match parse text with
  | .error fault => .error (.invalidSettings fault.message)
  | .ok s => .ok s

theorem ofToml_eq_ok_iff {text : String} {s : Settings} :
    ofToml text = .ok s ↔ parse text = .ok s := by
  cases h : parse text with
  | error fault => simp [ofToml, h]
  | ok s' => simp [ofToml, h]

theorem ofToml_eq_error {text : String} {fault : Fault} (h : parse text = .error fault) :
    ofToml text = .error (.invalidSettings fault.message) := by
  rw [ofToml, h]

end Settings

end TraceTally
