import TraceTally.Log.Basic
import TraceTally.Log.Pattern
import TraceTally.Text.Alphanumeric
import TraceTally.Text.Blank
import TraceTally.Text.Digits
import TraceTally.Text.Padding

/-! Directives: `SOURCE[SPAN{FIELD=VALUE}]=LEVEL`, where each part may be left out, or a level
alone. Blanks at the ends are not looked at when a directive is cut into its parts. The cuts then go
into the text with those blanks, so that each blank in front moves every cut back by its length. -/
namespace TraceTally.Log

open Text (byteCount)

/-- Which events are meant, and the rank up to which they appear. No source means all sources. A
span and a field's value are looked at in spans only. -/
structure Directive where
  source : String := ""
  span : Option String := none
  field : Option String := none
  value : Option String := none
  limit : Nat := Severity.trace.rank
  deriving DecidableEq

namespace Directive

inductive Fault where
  | malformed
  | unknownLevel
  | badPattern
  deriving DecidableEq

def Fault.message : Fault → String
  | malformed => "invalid filter directive"
  | unknownLevel =>
    "error parsing level filter: expected one of \"off\", \"error\", \"warn\", \"info\", " ++
      "\"debug\", \"trace\", or a number 0-5"
  | badPattern => "invalid field filter: error building NFA"

/-- The rank a number stands for. It may have a plus sign and zeros in front. -/
def numberRank? (cs : List Char) : Option Nat :=
  let digits := match cs with
    | '+' :: cs => cs
    | cs => cs
  if digits.isEmpty || !digits.all Char.isDigit then none
  else
    let n := Text.digitsValue 10 digits
    if n ≤ Severity.trace.rank then some n else none

/-- The rank a word stands for, in either case. -/
def wordRank? (cs : List Char) : Option Nat :=
  match String.ofList (cs.map Char.toLower) with
  | "off" => some 0
  | "error" => some Severity.error.rank
  | "warn" => some Severity.warn.rank
  | "info" => some Severity.info.rank
  | "debug" => some Severity.debug.rank
  | "trace" => some Severity.trace.rank
  | _ => none

def rank? (cs : List Char) : Option Nat := (numberRank? cs).or (wordRank? cs)

/-- A level that is left empty stands for everything. -/
def level (cs : List Char) : Except Fault Nat :=
  if cs.isEmpty then .ok Severity.trace.rank
  else match rank? cs with
    | some n => .ok n
    | none => .error .unknownLevel

/-- What follows the first `n` bytes. Inside a character there is no cut. -/
def dropBytes : Nat → List Char → Except Fault (List Char)
  | 0, cs => .ok cs
  | _ + 1, [] => .error .malformed
  | n + 1, c :: cs =>
    if n + 1 < c.utf8Size then .error .malformed else dropBytes (n + 1 - c.utf8Size) cs

/-- The first `n` bytes. -/
def takeBytes : Nat → List Char → Except Fault (List Char)
  | 0, _ => .ok []
  | _ + 1, [] => .error .malformed
  | n + 1, c :: cs =>
    if n + 1 < c.utf8Size then .error .malformed
    else return c :: (← takeBytes (n + 1 - c.utf8Size) cs)

/-- What stands in `s` where `part` stands `start` bytes into the text without its blanks. -/
def cut (s : List Char) (start : Nat) (part : List Char) : Except Fault String := do
  return String.ofList (← takeBytes (byteCount part) (← dropBytes start s))

/-- A name begins with a letter, a digit or one of three marks. -/
def startsName (c : Char) : Bool := c = '-' || c = ':' || c = '_' || Text.isAlphanumeric c

/-- What follows the brackets. -/
def readLevel (s : List Char) (start : Nat) (d : Directive) : List Char → Except Fault Directive
  | [] => .ok d
  | '=' :: _ => do return { d with limit := ← level (← dropBytes (start + 1) s) }
  | _ => .error .malformed

/-- Puts a field into a directive, with the pattern for its value if it has one. -/
def withField (d : Directive) (field : String) : Except Fault Directive :=
  match field.splitOn "=" with
  | name :: value :: _ =>
    if Pattern.isValid value.toList then .ok { d with field := some name, value := some value }
    else .error .badPattern
  | _ => .ok { d with field := some field }

/-- A field up to its brace, and what follows. -/
def readField (s : List Char) (start : Nat) (d : Directive) (cs : List Char) :
    Except Fault Directive := do
  let part := cs.takeWhile (· != '\x7d')
  match cs.dropWhile (· != '\x7d') with
  | [] => throw .malformed
  | _ :: rest =>
    if part.isEmpty then throw .malformed
    let d ← d.withField (← cut s start part)
    match rest with
    | ']' :: rest => readLevel s (start + byteCount part + 2) d rest
    | _ => throw .malformed

/-- What follows the opening bracket. -/
def readSpan (s : List Char) (start : Nat) (d : Directive) (cs : List Char) :
    Except Fault Directive := do
  let stops := fun c => c = ']' || c = '\x7b'
  let part := cs.takeWhile (!stops ·)
  match cs.dropWhile (!stops ·) with
  | ']' :: rest =>
    readLevel s (start + byteCount part + 1) { d with span := some (← cut s start part) } rest
  | _ :: rest =>
    let name ← cut s start part
    let span := if part.isEmpty then none else some name
    readField s (start + byteCount part + 1) { d with span := span } rest
  | [] => throw .malformed

/-- A level, or a source that all is wanted of. -/
def ofWord (s : List Char) : Directive :=
  match rank? s with
  | some n => { limit := n }
  | none => { source := String.ofList s }

def parse (s : List Char) : Except Fault Directive := do
  match Text.trim s with
  | [] => throw .malformed
  | '[' :: rest => readSpan s 1 {} rest
  | c :: rest =>
    if !startsName c then throw .malformed
    let stops := fun c => c = '=' || c = '['
    let part := (c :: rest).takeWhile (!stops ·)
    match (c :: rest).dropWhile (!stops ·) with
    | [] => return ofWord s
    | '[' :: rest => readSpan s (byteCount part + 1) { source := ← cut s 0 part } rest
    | rest => readLevel s (byteCount part) { source := ← cut s 0 part } rest

/-- Whether a directive speaks of an event. Events stand in no span. -/
def fits (d : Directive) (e : Event) : Bool :=
  d.source.toList.isPrefixOf e.source.toList && d.span.isNone && d.value.isNone &&
    match d.field with
    | none => true
    | some name => e.hasField name

/-- A longer source is closer to an event than a shorter one, then a field than none, and of two
fields the one whose name comes later. -/
def closer (a b : Directive) : Bool :=
  if a.source.length ≠ b.source.length then b.source.length < a.source.length
  else match a.field, b.field with
    | some x, some y => y < x
    | some _, none => true
    | none, _ => false

end Directive

end TraceTally.Log
