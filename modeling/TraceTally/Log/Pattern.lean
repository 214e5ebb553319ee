import TraceTally.Text.Alphanumeric
import TraceTally.Text.Digits

/-! Patterns for the values of fields: regular expressions over whole characters, without the tables
that letter case, word ends and the classes of scripts would need. Here a pattern is only read, to
know whether it is one. -/
namespace TraceTally.Log.Pattern

/-- What the flags in force ask for: both cases of a letter alike, and classes over all scripts. -/
structure Mode where
  caseless : Bool := false
  allScripts : Bool := true
  deriving DecidableEq

/-- What a character that is written as an escape is for: an item of its own, an item of a class, or
the upper end of a range. -/
inductive Use where
  | item
  | member
  | upper (lower : Option Nat)
  deriving DecidableEq

/-- Where a reader stands. -/
inductive Place where
  /-- Between items. A repetition needs one before it. -/
  | items (repeatable : Bool)
  | escape (use : Use)
  | hex (use : Use) (owed value : Nat)
  | group
  | groupMark
  | groupLetter
  | groupName (name : List Char)
  | flags (seen : List Char) (negative dangling : Bool)
  /-- At the start of a class, where some characters stand for themselves. -/
  | classStart (bare empty : Bool)
  | classItem
  | classOperator
  /-- After a member of a class, which is no character if it is a class itself. -/
  | classMember (value : Option Nat)
  | classRange (lower : Option Nat)
  deriving DecidableEq

structure State where
  place : Place := .items false
  mode : Mode := {}
  /-- The modes around the groups that are open. -/
  around : List Mode := []
  names : List (List Char) := []
  openClasses : Nat := 0
  deriving DecidableEq

namespace State

def goTo (s : State) (p : Place) : Option State := some { s with place := p }

/-- A character that stands for itself. Its other case is not known. -/
def literal (s : State) (use : Use) (value : Nat) : Option State :=
  if s.mode.caseless && s.mode.allScripts then none
  else match use with
    | .item => s.goTo (.items true)
    | .member => s.goTo (.classMember (some value))
    | .upper (some lower) => if lower ≤ value then s.goTo .classItem else none
    | .upper none => none

/-- A class with a letter for its name. -/
def namedClass (s : State) (use : Use) : Option State :=
  if s.mode.allScripts then none
  else match use with
    | .item => s.goTo (.items true)
    | .member => s.goTo (.classMember none)
    | .upper _ => none

def assertion (s : State) (use : Use) : Option State :=
  if use = .item then s.goTo (.items true) else none

def openGroup (s : State) : State :=
  { s with place := .items false, around := s.mode :: s.around }

def closeGroup (s : State) : Option State :=
  match s.around with
  | [] => none
  | mode :: around => some { s with place := .items true, mode := mode, around := around }

/-- A brace begins a count, which no pattern ends: a field reaches up to the first closing brace. -/
def item (s : State) (c : Char) : Option State :=
  match s.place, c with
  | _, '(' => s.goTo .group
  | _, ')' => s.closeGroup
  | _, '|' => s.goTo (.items false)
  | _, '[' => some { s with place := .classStart true true, openClasses := 1 }
  | .items true, '?' | .items true, '*' | .items true, '+' => s.goTo (.items true)
  | _, '?' | _, '*' | _, '+' | _, '\x7b' => none
  | _, '\\' => s.goTo (.escape .item)
  | _, '.' | _, '^' | _, '$' => s.goTo (.items true)
  | _, c => s.literal .item c.toNat

def escape (s : State) (use : Use) (c : Char) : Option State :=
  match c with
  | 'x' => s.goTo (.hex use 2 0)
  | 'u' => s.goTo (.hex use 4 0)
  | 'U' => s.goTo (.hex use 8 0)
  | 'd' | 's' | 'w' => s.namedClass use
  | 'b' | 'B' | '<' | '>' => if s.mode.allScripts then none else s.assertion use
  | 'A' | 'z' => s.assertion use
  | 'a' => s.literal use 0x07
  | 'f' => s.literal use 0x0c
  | 't' => s.literal use 0x09
  | 'n' => s.literal use 0x0a
  | 'r' => s.literal use 0x0d
  | 'v' => s.literal use 0x0b
  | c => if c.toNat < 0x80 && !c.isAlphanum then s.literal use c.toNat else none

def hex (s : State) (use : Use) (owed value : Nat) (c : Char) : Option State := do
  let value := 16 * value + (← Text.hexDigit? c)
  if owed = 1 then if value.isValidChar then s.literal use value else none
  else s.goTo (.hex use (owed - 1) value)

/-- Whether a character may stand in the name of a group. -/
def mayName (c : Char) (first : Bool) : Bool :=
  c = '_' || (Text.isAlphanumeric c && !(first && c.isDigit)) ||
    (!first && (c = '.' || c = '[' || c = ']'))

def groupName (s : State) (name : List Char) (c : Char) : Option State :=
  if c = '>' then
    if name.isEmpty || s.names.contains name then none
    else some { s.openGroup with names := name :: s.names }
  else if mayName c name.isEmpty then s.goTo (.groupName (name ++ [c]))
  else none

/-- Turns a flag on or off. Most of them change nothing here. -/
def setFlag (s : State) (c : Char) (on : Bool) : State :=
  match c with
  | 'i' => { s with mode := { s.mode with caseless := on } }
  | 'u' => { s with mode := { s.mode with allScripts := on } }
  | _ => s

/-- Flags hold to the end of the group they stand in, or of the one that they open. -/
def flag (s : State) (seen : List Char) (negative dangling : Bool) (c : Char) : Option State :=
  match c with
  | '-' => if negative then none else s.goTo (.flags seen true true)
  | ':' => if dangling then none else s.goTo (.items false)
  | ')' =>
    match s.around with
    | _ :: around =>
      if dangling || (seen.isEmpty && !negative) then none
      else some { s with place := .items false, around := around }
    | [] => none
  | c =>
    if "imsUuRx".toList.contains c && !seen.contains c then
      (s.setFlag c !negative).goTo (.flags (c :: seen) negative false)
    else none

def classItem (s : State) (c : Char) (next : Option Char) : Option State :=
  match c with
  | '[' => some { s with place := .classStart true true, openClasses := s.openClasses + 1 }
  | ']' =>
    if s.openClasses ≤ 1 then some { s with place := .items true, openClasses := 0 }
    else some { s with place := .classItem, openClasses := s.openClasses - 1 }
  | '\\' => s.goTo (.escape .member)
  | c =>
    if (c = '&' || c = '-' || c = '~') && next = some c then s.goTo .classOperator
    else s.literal .member c.toNat

def classStart (s : State) (bare empty : Bool) (c : Char) (next : Option Char) : Option State :=
  if c = '^' && bare then s.goTo (.classStart false true)
  else if c = '-' then s.goTo (.classStart false false)
  else if c = ']' && empty then s.goTo .classItem
  else s.classItem c next

/-- One character further; `next` is the one behind it. -/
def step (s : State) (c : Char) (next : Option Char) : Option State :=
  match s.place with
  | .items _ => s.item c
  | .escape use => s.escape use c
  | .hex use owed value => s.hex use owed value c
  | .group => if c = '?' then s.goTo .groupMark else s.openGroup.item c
  | .groupMark =>
    if c = 'P' then s.goTo .groupLetter
    else if c = '<' then s.goTo (.groupName [])
    else s.openGroup.flag [] false false c
  | .groupLetter => if c = '<' then s.goTo (.groupName []) else none
  | .groupName name => s.groupName name c
  | .flags seen negative dangling => s.flag seen negative dangling c
  | .classStart bare empty => s.classStart bare empty c next
  | .classItem => s.classItem c next
  | .classOperator => s.goTo .classItem
  | .classMember value =>
    if c = '-' && next != some ']' && next != some '-' then s.goTo (.classRange value)
    else s.classItem c next
  | .classRange lower =>
    if c = '\\' then s.goTo (.escape (.upper lower)) else s.literal (.upper lower) c.toNat

/-- Whether a reader may stop here. -/
def isDone (s : State) : Bool :=
  match s.place with
  | .items _ => s.around.isEmpty
  | _ => false

end State

def readFrom (s : State) : List Char → Bool
  | [] => s.isDone
  | c :: cs =>
    match s.step c cs.head? with
    | some s => readFrom s cs
    | none => false

/-- Numbers without a sign, with digits on at least one side of the point, and the words for what is
no number or has no end. -/
def isNumber (cs : List Char) : Bool :=
  let digits := cs.takeWhile Char.isDigit
  let rest := cs.dropWhile Char.isDigit
  let (places, rest) := match rest with
    | '.' :: rest => (rest.takeWhile Char.isDigit, rest.dropWhile Char.isDigit)
    | rest => ([], rest)
  let wellEnded := match rest with
    | [] => true
    | c :: rest =>
      let exponent := match rest with
        | '+' :: ds | '-' :: ds => ds
        | ds => ds
      (c = 'e' || c = 'E') && !exponent.isEmpty && exponent.all Char.isDigit
  (!(digits ++ places).isEmpty && wellEnded) ||
    ["inf", "infinity", "nan"].contains (String.ofList (cs.map Char.toLower))

/-- Whether a text is a pattern or a number. A sign in front of a number repeats nothing; every
other number is a pattern too. -/
def isValid : List Char → Bool
  | '+' :: cs => isNumber cs
  | cs => readFrom {} cs

end TraceTally.Log.Pattern
