import TraceTally.Tally.Basic

/-! Totals over all entries of a tally. -/
namespace TraceTally

structure Totals where
  distinctKeys : Nat
  count : UInt64
  duration : Int64
  deriving DecidableEq

/-- Durations are added entry by entry, each sum held within the range. -/
def Tally.totals (t : Tally) : Totals where
  distinctKeys := t.size
  count := t.entries.foldl (fun n e => n + e.stats.count) 0
  duration := t.entries.foldl (fun d e => Duration.addSaturating d e.stats.duration) 0

end TraceTally
