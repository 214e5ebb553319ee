import TraceTally.Tally.Recording

/-! One forward pass over the lines of a trace. -/
namespace TraceTally.Tally

/-- Every line is a key. -/
def ofLines (ls : List String) : Tally :=
  ls.foldl record (empty .single)

/-- Keys and durations in turn, from the pair whose key stands on line `line`. The first duration
that cannot be read or added ends the pass. -/
def addPairs (t : Tally) (line : Nat) : List String → Except Error Tally
  | key :: value :: rest =>
    match Duration.parse value with
    | .error cause => .error (.invalidDuration (line + 1) value cause)
    | .ok d =>
      match t.recordTimed key d with
      | (_, .error e) => .error e
      | (t, .ok ()) => t.addPairs (line + 2) rest
  | _ => .ok t

/-- Lines are a key and its duration in turn. An odd number of lines is refused unseen. -/
def ofPairedLines (ls : List String) : Except Error Tally :=
  if ls.length % 2 = 1 then .error (.oddLineCount ls.length)
  else (empty .paired).addPairs 1 ls

end TraceTally.Tally
