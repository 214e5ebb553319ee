import TraceTally.Report.Summary
import TraceTally.Sink
import TraceTally.Tally.Recording

/-! Output of a tally to sinks, between its recordings and after them. -/
namespace TraceTally

variable {ε : Type}

namespace Tally

/-- Writes a column, one value a line. -/
def writeColumn (t : Tally) (sel : Selector) (cut : Cut) (s : Sink ε) : Sink ε × Except ε Unit :=
  s.writeLines cut 0 (t.column sel)

/-- Writes the summary table. -/
def writeSummary (t : Tally) (cut : Cut) (s : Sink ε) : Sink ε × Except ε Unit :=
  s.writeLines cut 0 (Report.Summary.lines t)

end Tally

/-- What is asked of a tally. -/
inductive Request (ε : Type) where
  | recording (r : Recording)
  | column (sel : Selector) (cut : Cut) (s : Sink ε)
  | summary (cut : Cut) (s : Sink ε)

/-- What comes back: the result of a recording, or a sink and how the writing ended. -/
inductive Answer (ε : Type) where
  | recorded (result : Except Error Unit)
  | written (s : Sink ε) (result : Except ε Unit)

namespace Tally

def answer (t : Tally) : Request ε → Tally × Answer ε
  | .recording r =>
    let (t, result) := t.apply r
    (t, .recorded result)
  | .column sel cut s =>
    let (s, result) := t.writeColumn sel cut s
    (t, .written s result)
  | .summary cut s =>
    let (s, result) := t.writeSummary cut s
    (t, .written s result)

/-- Answers one request after the other. None stops the rest, whatever came of it. -/
def answerAll (t : Tally) : List (Request ε) → Tally × List (Answer ε)
  | [] => (t, [])
  | q :: qs =>
    let (t, a) := t.answer q
    let (t, answers) := t.answerAll qs
    (t, a :: answers)

end Tally

end TraceTally
