import TraceTally.Decimal.Binary64
import TraceTally.Tally.Column
import TraceTally.Tally.Totals

/-! The summary table of a tally, most frequent keys first. -/
namespace TraceTally.Report.Summary

open Decimal (Binary64)
open Text (padLeft)

/-- The part of `total` that `d` makes up, in percent with two places. The quotient and its product
with a hundred are binary fractions, each rounded once. -/
def percent (d total : Int64) : String :=
  if 0 < total then
    let share := (Binary64.ofNat d.toInt.natAbs).div (Binary64.ofNat total.toInt.natAbs)
    (if d < 0 then "-" else "") ++ (share.mul (Binary64.ofNat 100)).toFixed 2
  else "0.00"

/-- The duration of one call, without its fraction. -/
def average (duration : Int64) (count : UInt64) : Int64 :=
  if 0 < count then duration / count.toInt64 else 0

/-- Cells of 6, 11, 11 and 9 characters, then the name. Wider numbers push the rest to the right. -/
def row (share : String) (duration : Int64) (count : UInt64) (name : String) : String :=
  String.intercalate " "
    [padLeft 6 ' ' share,
      padLeft 11 ' ' (Duration.text duration),
      padLeft 11 ' ' (Duration.text (average duration count)),
      padLeft 9 ' ' (toString count.toNat),
      name]

def heading : String := "% time       total    avg/call     calls key"

def rule : String := "------ ----------- ----------- --------- ----------------"

/-- Entries by falling count; equal counts stay in order of first sight. -/
def ranked (t : Tally) : List Entry :=
  t.entries.toList.mergeSort fun a b => b.stats.count ≤ a.stats.count

def entryRow (total : Int64) (e : Entry) : String :=
  row (percent e.stats.duration total) e.stats.duration e.stats.count e.key

def lines (t : Tally) : List String :=
  if t.isEmpty then ["No instructions tallied."]
  else
    let totals := t.totals
    [heading, rule] ++ (ranked t).map (entryRow totals.duration) ++
      [rule, row "100.00" totals.duration totals.count "total"]

def render (t : Tally) : String := Text.unlines (lines t)

end TraceTally.Report.Summary
