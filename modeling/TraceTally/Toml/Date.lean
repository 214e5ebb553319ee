import TraceTally.Text.Digits
import TraceTally.Toml.Basic

/-! Dates and times of a TOML document. They are only told from what is none. -/
namespace TraceTally.Toml

/-- A number of exactly two digits between two bounds. -/
def readPair (low high : Nat) : List Char → Option (Nat × List Char)
  | a :: b :: cs => do
    guard (a.isDigit && b.isDigit)
    let n := Text.digitsValue 10 [a, b]
    guard (low ≤ n ∧ n ≤ high)
    return (n, cs)
  | _ => none

def skipChar (c : Char) : List Char → Option (List Char)
  | a :: cs => if a = c then some cs else none
  | [] => none

def daysInMonth (year month : Nat) : Nat :=
  if month = 2 then
    if year % 4 = 0 ∧ (year % 100 ≠ 0 ∨ year % 400 = 0) then 29 else 28
  else if month = 4 ∨ month = 6 ∨ month = 9 ∨ month = 11 then 30
  else 31

/-- What follows a calendar date. -/
def skipDay (cs : List Char) : Option (List Char) := do
  let (century, cs) ← readPair 0 99 cs
  let (year, cs) ← readPair 0 99 cs
  let cs ← skipChar '-' cs
  let (month, cs) ← readPair 1 12 cs
  let cs ← skipChar '-' cs
  let (_, cs) ← readPair 1 (daysInMonth (100 * century + year) month) cs
  return cs

/-- What follows a time of day. A minute may have a leap second. -/
def skipTime (cs : List Char) : Option (List Char) := do
  let (_, cs) ← readPair 0 23 cs
  let cs ← skipChar ':' cs
  let (_, cs) ← readPair 0 59 cs
  let cs ← skipChar ':' cs
  let (_, cs) ← readPair 0 60 cs
  match cs with
  | '.' :: cs => match cs.span Char.isDigit with
    | ([], _) => none
    | (_, cs) => some cs
  | cs => some cs

/-- What follows an offset from universal time. -/
def skipOffset : List Char → Option (List Char)
  | [] => none
  | c :: cs =>
    if c = 'Z' ∨ c = 'z' then some cs
    else do
      guard (c = '+' ∨ c = '-')
      let (_, cs) ← readPair 0 23 cs
      let cs ← skipChar ':' cs
      let (_, cs) ← readPair 0 59 cs
      return cs

/-- What follows the time behind a date, if there is one. -/
def skipTimeOfDay (cs : List Char) : Option (List Char) :=
  match cs with
  | c :: rest =>
    if c = 'T' ∨ c = 't' ∨ c = ' ' then do
      let rest ← skipTime rest
      return (skipOffset rest).getD rest
    else none
  | [] => none

def readDate (cs : List Char) : Option (Value × List Char) :=
  match skipDay cs with
  | some cs => some (.date, (skipTimeOfDay cs).getD cs)
  | none => (skipTime cs).map fun cs => (.date, cs)

end TraceTally.Toml
