import TraceTally.Tally.Basic
import TraceTally.Text.Lines

/-! Columns of a tally, one value for each entry. -/
namespace TraceTally

inductive Selector where
  | keys
  | counts
  | durations
  deriving DecidableEq

def Selector.parse? : String → Option Selector
  | "1" => some .keys
  | "2" => some .counts
  | "3" => some .durations
  | _ => none

namespace Entry

def countText (e : Entry) : String := toString e.stats.count.toNat

def durationText (e : Entry) : String := Duration.text e.stats.duration

def cell (e : Entry) : Selector → String
  | .keys => e.key
  | .counts => e.countText
  | .durations => e.durationText

end Entry

namespace Tally

def keys (t : Tally) : List String := t.entries.toList.map (·.key)

def column (t : Tally) (sel : Selector) : List String := t.entries.toList.map (·.cell sel)

/-- A column as text, one value a line. -/
def columnText (t : Tally) (sel : Selector) : String := Text.unlines (t.column sel)

end Tally

end TraceTally
