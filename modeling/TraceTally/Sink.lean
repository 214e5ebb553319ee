/-! A sink takes bytes until it is full. What is written to it may reach it in any pieces, and it may
take less than it is offered. -/
namespace TraceTally

/-- The bytes of a text. -/
def Text.bytes (s : String) : List UInt8 := s.toUTF8.data.toList

/-- `room` is how many bytes more it takes in all, and `fault` how it fails when there is none left.
`portion` says how many bytes it would take at once, by what it took before and what it is offered. -/
structure Sink (ε : Type) where
  room : Nat
  fault : ε
  portion : List UInt8 → List UInt8 → Nat
  taken : List UInt8 := []

/-- The pieces in which a line reaches a sink, by the number of lines before it. Together they are
the line. -/
structure Cut where
  pieces : Nat → String → List String
  join_pieces : ∀ i line, String.join (pieces i line) = line

/-- Every line in one piece. -/
def Cut.whole : Cut where
  pieces _ line := [line]
  join_pieces _ line := by simp

namespace Sink

variable {ε : Type}

/-- How many of the bytes offered are taken at once: one at least, and no more than there is room. -/
def share (s : Sink ε) (offered : List UInt8) : Nat :=
  max 1 (min (s.portion s.taken offered) (min s.room offered.length))

def take (s : Sink ε) (n : Nat) (offered : List UInt8) : Sink ε :=
  { s with room := s.room - n, taken := s.taken ++ offered.take n }

/-- Offers what is left until all is taken or the sink fails. -/
def write (s : Sink ε) (bytes : List UInt8) : Sink ε × Except ε Unit :=
  if bytes.isEmpty then (s, .ok ())
  else if s.room = 0 then (s, .error s.fault)
  else (s.take (s.share bytes) bytes).write (bytes.drop (s.share bytes))
termination_by bytes.length
decreasing_by
  have hpos : 0 < bytes.length := by simp_all [List.length_pos_iff]
  simp only [share, List.length_drop]
  omega

/-- One writing and then another, which is left out if the first fails. -/
def andThen (first : Sink ε × Except ε Unit) (next : Sink ε → Sink ε × Except ε Unit) :
    Sink ε × Except ε Unit :=
  match first with
  | (s, .ok ()) => next s
  | (s, .error e) => (s, .error e)

def writePieces (s : Sink ε) : List String → Sink ε × Except ε Unit
  | [] => (s, .ok ())
  | p :: ps => andThen (s.write (Text.bytes p)) fun s => s.writePieces ps

/-- Writes each line with its end. There were `i` lines before. -/
def writeLines (s : Sink ε) (cut : Cut) (i : Nat) : List String → Sink ε × Except ε Unit
  | [] => (s, .ok ())
  | l :: ls =>
    andThen (s.writePieces (cut.pieces i (l ++ "\n"))) fun s => s.writeLines cut (i + 1) ls

end Sink

end TraceTally
