import Std.Data.TreeMap
import TraceTally.Error

/-! A tally: how often each key occurred and how long it took in all, in order of first sight. -/
namespace TraceTally

/-- Whether the lines of a trace are keys alone or keys and durations in turn. -/
inductive Mode where
  | single
  | paired
  deriving DecidableEq

structure Stats where
  count : UInt64 := 0
  duration : Int64 := 0
  deriving DecidableEq

structure Entry where
  key : String
  stats : Stats
  deriving DecidableEq

/-- `index` gives the position of each key in `entries`. -/
structure Tally where
  mode : Mode
  entries : Array Entry := #[]
  index : Std.TreeMap String Nat := ∅

namespace Tally

def empty (mode : Mode) : Tally := { mode }

def size (t : Tally) : Nat := t.entries.size

def isEmpty (t : Tally) : Bool := t.entries.isEmpty

def get? (t : Tally) (key : String) : Option Stats := do
  let p ← t.index[key]?
  let e ← t.entries[p]?
  return e.stats

/-- The position of `key`, which is entered at the end with nothing recorded if it is new. -/
def locate (t : Tally) (key : String) : Tally × Nat :=
  match t.index[key]? with
  | some p => (t, p)
  | none =>
    ({ t with
        entries := t.entries.push ⟨key, {}⟩
        index := t.index.insert key t.entries.size },
      t.entries.size)

def modifyAt (t : Tally) (p : Nat) (f : Stats → Stats) : Tally :=
  { t with entries := t.entries.modify p fun e => { e with stats := f e.stats } }

/-- One more occurrence of `key`. -/
def record (t : Tally) (key : String) : Tally :=
  let (t, p) := t.locate key
  t.modifyAt p fun s => { s with count := s.count + 1 }

/-- One more occurrence of `key`, which took `d`. A sum out of range is refused; the tally that
comes back with the error is then the one to go on with. -/
def recordTimed (t : Tally) (key : String) (d : Int64) : Tally × Except Error Unit :=
  let (t, p) := t.locate key
  let total := (t.entries[p]?.map (·.stats.duration)).getD 0
  match Duration.add? total d with
  | none => (t, .error (.durationOverflow key))
  | some total => (t.modifyAt p fun s => { count := s.count + 1, duration := total }, .ok ())

end Tally

end TraceTally
