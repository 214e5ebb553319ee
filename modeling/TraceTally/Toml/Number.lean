import TraceTally.Toml.Basic
import TraceTally.Toml.Text

/-! Integers and fractions of a TOML document. -/
namespace TraceTally.Toml

open Decimal (Binary64)
open Text (digitsValue signed)

/-- Further digits, each with at most one underscore in front, and what follows. -/
def moreDigits (isDigit : Char → Bool) : List Char → Option (List Char × List Char)
  | [] => some ([], [])
  | '_' :: c :: cs => if isDigit c then (moreDigits isDigit cs).map (Text.prepend c) else none
  | ['_'] => none
  | c :: cs =>
    if isDigit c then (moreDigits isDigit cs).map (Text.prepend c) else some ([], c :: cs)

/-- Digits with underscores between them, and what follows. -/
def readDigits (isDigit : Char → Bool) : List Char → Option (List Char × List Char)
  | c :: cs => if isDigit c then (moreDigits isDigit cs).map (Text.prepend c) else none
  | [] => none

/-- Decimal digits of a whole number: a zero in front stands alone. -/
def readWhole : List Char → Option (List Char × List Char)
  | '0' :: cs => some (['0'], cs)
  | cs => readDigits Char.isDigit cs

/-- A sign, if there is one: is it minus? -/
def readSign : List Char → Bool × List Char
  | '-' :: cs => (true, cs)
  | '+' :: cs => (false, cs)
  | cs => (false, cs)

/-- An integer must fit in 64 bits. -/
def integer? (n : Int) : Option Value :=
  if Int64.minValue.toInt ≤ n ∧ n ≤ Int64.maxValue.toInt then some (.integer n) else none

/-- The value of a decimal fraction. One too great is refused, but one too far below zero is
infinite. -/
def float? (negative : Bool) (digits : Nat) (exponent : Int) : Option Value :=
  match Binary64.ofDecimal? digits exponent with
  | some b => some (.float (.finite negative b))
  | none => if negative then some (.float (.infinite true)) else none

def isBinary (c : Char) : Bool := c = '0' || c = '1'

def isOctal (c : Char) : Bool := '0' ≤ c && c ≤ '7'

def isHex (c : Char) : Bool := (Text.hexDigit? c).isSome

def readBase (base : Nat) (isDigit : Char → Bool) (cs : List Char) :
    Option (Value × List Char) := do
  let (ds, cs) ← readDigits isDigit cs
  return (← integer? (digitsValue base ds), cs)

/-- The exponent behind a fraction, if there is one. -/
def readExponent? : List Char → Option (Option Int × List Char)
  | c :: cs =>
    if c = 'e' ∨ c = 'E' then do
      let (negative, cs) := readSign cs
      let (ds, cs) ← readDigits Char.isDigit cs
      return (some (signed negative (digitsValue 10 ds)), cs)
    else some (none, c :: cs)
  | [] => some (none, [])

/-- The digits behind a point, if there is one. -/
def readFraction? : List Char → Option (Option (List Char) × List Char)
  | '.' :: cs => do
    let (ds, cs) ← readDigits Char.isDigit cs
    return (some ds, cs)
  | cs => some (none, cs)

/-- An integer or a fraction behind its sign. -/
def readDecimal (negative : Bool) (cs : List Char) : Option (Value × List Char) := do
  let (whole, cs) ← readWhole cs
  let (fraction, cs) ← readFraction? cs
  let (exponent, cs) ← readExponent? cs
  match fraction, exponent with
  | none, none => return (← integer? (signed negative (digitsValue 10 whole)), cs)
  | _, _ =>
    let ds := fraction.getD []
    return (← float? negative (digitsValue 10 (whole ++ ds)) (exponent.getD 0 - ds.length), cs)

def readNumber : List Char → Option (Value × List Char)
  | '0' :: 'x' :: cs => readBase 16 isHex cs
  | '0' :: 'o' :: cs => readBase 8 isOctal cs
  | '0' :: 'b' :: cs => readBase 2 isBinary cs
  | cs =>
    match readSign cs with
    | (negative, 'i' :: 'n' :: 'f' :: cs) => some (.float (.infinite negative), cs)
    | (_, 'n' :: 'a' :: 'n' :: cs) => some (.float .nan, cs)
    | (negative, cs) => readDecimal negative cs

end TraceTally.Toml
