/-! Text for a place that is no screen: the control sequences of terminals are taken out, and of the
control characters only those that part words and lines stay. -/
namespace TraceTally.Text

/-- Where a reader of control sequences stands. -/
inductive Sequence where
  | outside
  | escape
  /-- After an escape that needs one more character. -/
  | escapeTail
  | control
  | deviceStart
  | deviceParameter
  | deviceTail
  /-- In a text for a device, up to its end mark. -/
  | deviceText
  /-- In a command to the system around the terminal, up to a bell. -/
  | command
  deriving DecidableEq

namespace Sequence

/-- The byte that ends a text for a device. It may be a part of a longer character. -/
def endMark : UInt8 := 0x9c

/-- The place after the ASCII character with code `n`, if that is no escape and no cancellation. -/
def after (s : Sequence) (n : Nat) : Sequence :=
  match s with
  | outside => outside
  | escape =>
    if n < 0x20 ∨ n = 0x7f then escape
    else if n < 0x30 then escapeTail
    else if n = '['.toNat then control
    else if n = ']'.toNat then command
    else if n = 'P'.toNat then deviceStart
    else if n = 'X'.toNat ∨ n = '^'.toNat ∨ n = '_'.toNat then deviceText
    else outside
  | escapeTail => if 0x30 ≤ n ∧ n < 0x7f then outside else escapeTail
  | control => if 0x40 ≤ n ∧ n < 0x7f then outside else control
  | deviceStart =>
    if n < 0x20 ∨ n = 0x7f then deviceStart
    else if n < 0x30 then deviceTail
    else if n < 0x40 then deviceParameter
    else deviceText
  | deviceParameter =>
    if n < 0x20 ∨ n = 0x7f then deviceParameter
    else if n < 0x30 then deviceTail
    else if n < 0x3c then deviceParameter
    else deviceText
  | deviceTail => if n < 0x30 ∨ n = 0x7f then deviceTail else deviceText
  | deviceText => deviceText
  | command => if n = 0x07 then outside else command

/-- The place after one more character. An escape starts anew and a cancellation ends, wherever they
stand. -/
def next (s : Sequence) (c : Char) : Sequence :=
  let n := c.toNat
  if n = 0x1b then escape
  else if n = 0x18 ∨ n = 0x1a then outside
  else if n < 0x80 then s.after n
  else if s = deviceText ∧ endMark ∈ (String.singleton c).toUTF8.toList then outside
  else s

/-- Sequences in which a control character has its usual effect. -/
def obeysControls : Sequence → Bool
  | outside | escape | escapeTail | control => true
  | _ => false

end Sequence

/-- Controls that part words and lines: tabulator, line feed, form feed and carriage return. -/
def isParting (c : Char) : Bool := c = '\t' || c = '\n' || c = '\x0c' || c = '\r'

/-- What is shown where no sequence is under way. -/
def isShown (c : Char) : Bool := isParting c || (' ' ≤ c && c.toNat != 0x7f)

/-- What is shown of a text. A parting control inside a sequence is shown too, and with it all that
follows up to the next control that is not; from there the sequence goes on, unless a character
beyond ASCII has ended it. -/
def plainFrom (s : Sequence) (showing : Bool) : List Char → List Char
  | [] => []
  | c :: cs =>
    if showing && isShown c then
      c :: plainFrom (if c.toNat < 0x80 then s else .outside) true cs
    else if (isParting c && s.obeysControls) || (isShown c && s = .outside) then
      c :: plainFrom s true cs
    else plainFrom (s.next c) false cs

def plain (s : String) : String := String.ofList (plainFrom .outside false s.toList)

end TraceTally.Text
