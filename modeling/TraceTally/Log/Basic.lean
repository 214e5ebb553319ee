import TraceTally.Text.Padding

/-! Log events and their lines. -/
namespace TraceTally.Log

inductive Severity where
  | error
  | warn
  | info
  | debug
  | trace
  deriving DecidableEq

def Severity.rank : Severity → Nat
  | error => 1
  | warn => 2
  | info => 3
  | debug => 4
  | trace => 5

def Severity.name : Severity → String
  | error => "ERROR"
  | warn => "WARN"
  | info => "INFO"
  | debug => "DEBUG"
  | trace => "TRACE"

/-- Something that happened in the part of the program named `source`. -/
structure Event where
  severity : Severity
  source : String
  message : String
  fields : List (String × String) := []
  deriving DecidableEq

namespace Event

/-- The message counts as a field. -/
def hasField (e : Event) (name : String) : Bool :=
  name == "message" || e.fields.any (·.1 == name)

def text (e : Event) : String :=
  Text.padLeft 5 ' ' e.severity.name ++ " " ++ e.source ++ ": " ++ e.message ++
    String.join (e.fields.map fun (name, value) => " " ++ name ++ "=" ++ value)

end Event

end TraceTally.Log
