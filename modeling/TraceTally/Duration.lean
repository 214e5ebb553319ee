import TraceTally.Text.Blank

/-! Durations: signed 64-bit integers, as they are written on a line and as they are summed. -/
namespace TraceTally.Duration

/-- Why a text is no duration. -/
inductive Fault where
  | empty
  | invalidDigit
  | tooLarge
  | tooSmall
  deriving DecidableEq

def Fault.message : Fault → String
  | .empty => "cannot parse integer from empty string"
  | .invalidDigit => "invalid digit found in string"
  | .tooLarge => "number too large to fit in target type"
  | .tooSmall => "number too small to fit in target type"

def InRange (n : Int) : Prop := Int64.minValue.toInt ≤ n ∧ n ≤ Int64.maxValue.toInt

instance (n : Int) : Decidable (InRange n) := inferInstanceAs (Decidable (_ ∧ _))

/-- The value of an ASCII digit. -/
def digit? (c : Char) : Option Nat :=
  if c.isDigit then some (c.toNat - '0'.toNat) else none

/-- Extends `n` digit by digit, away from zero. The first problem met is the one reported: a
character that is no digit, or a digit that takes the value out of range. -/
def readDigits (negative : Bool) (n : Int) : List Char → Except Fault Int64
  | [] => .ok (Int64.ofInt n)
  | c :: cs =>
    match digit? c with
    | none => .error .invalidDigit
    | some d =>
      let next := if negative then 10 * n - d else 10 * n + d
      if InRange next then readDigits negative next cs
      else .error (if negative then .tooSmall else .tooLarge)

/-- A signed decimal integer, with nothing around or between its digits. -/
def readInteger : List Char → Except Fault Int64
  | [] => .error .empty
  | ['+'] => .error .invalidDigit
  | ['-'] => .error .invalidDigit
  | '+' :: cs => readDigits false 0 cs
  | '-' :: cs => readDigits true 0 cs
  | cs => readDigits false 0 cs

/-- Every separator stands directly between two digits. `before` is the character in front. -/
def wellSeparated (before : Option Char) : List Char → Bool
  | [] => true
  | c :: cs =>
    (c != '_' || (before.any Char.isDigit && cs.head?.any Char.isDigit)) &&
      wellSeparated (some c) cs

/-- A duration line: blanks around it are ignored, and so are separators if all are well placed. -/
def parse (line : String) : Except Fault Int64 :=
  let cs := Text.trim line.toList
  readInteger (if wellSeparated none cs then cs.filter (· != '_') else cs)

/-- The sum, unless it leaves the range. -/
def add? (a b : Int64) : Option Int64 :=
  if InRange (a.toInt + b.toInt) then some (a + b) else none

theorem inRange_toInt (d : Int64) : InRange d.toInt := ⟨d.minValue_le_toInt, d.toInt_le⟩

theorem toInt_ofInt {n : Int} (h : InRange n) : (Int64.ofInt n).toInt = n := by
  have hn : n < 2 ^ 63 := Int.lt_of_le_of_lt h.2 (by decide)
  exact Int64.toInt_ofInt_of_le h.1 hn

theorem add?_eq (a b : Int64) : add? a b =
    if InRange (a.toInt + b.toInt) then some (Int64.ofInt (a.toInt + b.toInt)) else none := by
  rw [add?, Int64.ofInt_add, Int64.ofInt_toInt, Int64.ofInt_toInt]

/-- The sum, held at the nearer end of the range when it leaves it. -/
def addSaturating (a b : Int64) : Int64 :=
  Int64.ofIntClamp (a.toInt + b.toInt)

/-- The decimal text of a duration. -/
def text (d : Int64) : String := toString d.toInt

end TraceTally.Duration
