import TraceTally.Text.Digits
import TraceTally.Text.Unprintable

/-! Quoted text: on one line, between double quotes, with every character visible. It is read back
without loss. -/
namespace TraceTally.Text

/-- How a character stands between the quotes when those in `hidden` are not shown as they are. A
single quote stands as it is. -/
def quotedChar (hidden : Char → Bool) (c : Char) : List Char :=
  if c = '"' then ['\\', '"']
  else if c = '\\' then ['\\', '\\']
  else if c = '\x00' then ['\\', '0']
  else if c = '\t' then ['\\', 't']
  else if c = '\n' then ['\\', 'n']
  else if c = '\r' then ['\\', 'r']
  else if hidden c then '\\' :: 'u' :: '\x7b' :: Nat.toDigits 16 c.toNat ++ ['\x7d']
  else [c]

def quotedWith (hidden : Char → Bool) (s : String) : String :=
  String.ofList ('"' :: s.toList.flatMap (quotedChar hidden) ++ ['"'])

def quoted (s : String) : String := quotedWith isUnprintable s

/-- Where a reader of quoted text stands: between escapes, or so far into one. -/
inductive QuoteState where
  | plain
  | escape
  | brace
  | hex (n : Nat)
  deriving DecidableEq

def quotedEscape? : Char → Option Char
  | '"' => some '"'
  | '\\' => some '\\'
  | '0' => some '\x00'
  | 't' => some '\t'
  | 'n' => some '\n'
  | 'r' => some '\r'
  | _ => none

/-- The text up to the closing quote, and what follows it. -/
def readQuoted : QuoteState → List Char → Option (List Char × List Char)
  | _, [] => none
  | .plain, c :: cs =>
    if c = '"' then some ([], cs)
    else if c = '\\' then readQuoted .escape cs
    else (readQuoted .plain cs).map (prepend c)
  | .escape, c :: cs =>
    if c = 'u' then readQuoted .brace cs
    else match quotedEscape? c with
      | some x => (readQuoted .plain cs).map (prepend x)
      | none => none
  | .brace, c :: cs => if c = '\x7b' then readQuoted (.hex 0) cs else none
  | .hex n, c :: cs =>
    if c = '\x7d' then
      if n.isValidChar then (readQuoted .plain cs).map (prepend (Char.ofNat n)) else none
    else match hexDigit? c with
      | some d => readQuoted (.hex (16 * n + d)) cs
      | none => none

end TraceTally.Text
