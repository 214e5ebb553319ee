import TraceTally.Tally.Basic

/-! Histories of a tally: the recordings made on it, one after the other. -/
namespace TraceTally

inductive Recording where
  | plain (key : String)
  | timed (key : String) (duration : Int64)
  deriving DecidableEq

namespace Recording

def key : Recording → String
  | plain k => k
  | timed k _ => k

/-- The time a recording brings. A plain one brings none. -/
def duration : Recording → Int64
  | plain _ => 0
  | timed _ d => d

end Recording

namespace Tally

def apply (t : Tally) : Recording → Tally × Except Error Unit
  | .plain k => (t.record k, .ok ())
  | .timed k d => t.recordTimed k d

/-- The tally after a history, and the result of each recording. A refused one does not stop the
history. -/
def run (t : Tally) : List Recording → Tally × List (Except Error Unit)
  | [] => (t, [])
  | r :: rs =>
    let (t, result) := t.apply r
    let (t, results) := t.run rs
    (t, result :: results)

end Tally

end TraceTally
