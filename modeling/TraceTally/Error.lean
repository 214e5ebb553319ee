import TraceTally.Duration
import TraceTally.Files
import TraceTally.Text.Quoted

/-! What can go wrong between a trace file and its tally. -/
namespace TraceTally

inductive Error where
  | unreadable (path : String) (cause : ReadFault)
  | oddLineCount (lines : Nat)
  | invalidDuration (line : Nat) (value : String) (cause : Duration.Fault)
  | durationOverflow (key : String)
  | invalidSettings (detail : String)
  deriving DecidableEq

namespace Error

/-- The text of an error, with the characters in `hidden` not shown as they are where it quotes what
stood in the trace. -/
def messageWith (hidden : Char → Bool) : Error → String
  | unreadable path cause => "Failed to read " ++ path ++ ": " ++ cause.message
  | oddLineCount n =>
    "Paired input has an odd number of lines (" ++ toString n ++ "); expected key/duration pairs"
  | invalidDuration line value _ =>
    "Invalid duration on line " ++ toString line ++ ": " ++ Text.quotedWith hidden value
  | durationOverflow key => "Duration sum for " ++ Text.quotedWith hidden key ++ " overflowed"
  | invalidSettings detail => "Invalid config: " ++ detail

def message (e : Error) : String := e.messageWith Text.isUnprintable

/-- The messages of what lies behind the error, the nearest first. -/
def causes : Error → List String
  | unreadable _ cause => [cause.message]
  | invalidDuration _ _ cause => [cause.message]
  | _ => []

end Error

end TraceTally
