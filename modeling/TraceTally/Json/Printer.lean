import TraceTally.Json.Basic

/-! JSON text with one item a line, each level two blanks deeper. -/
namespace TraceTally.Json

/-- How a character stands in a string: quote, backslash and controls are escaped, all else is as
it is. -/
def escapeChar (c : Char) : List Char :=
  if c = '"' then ['\\', '"']
  else if c = '\\' then ['\\', '\\']
  else if c = '\x08' then ['\\', 'b']
  else if c = '\t' then ['\\', 't']
  else if c = '\n' then ['\\', 'n']
  else if c = '\x0c' then ['\\', 'f']
  else if c = '\r' then ['\\', 'r']
  else if c.toNat < 0x20 then
    ['\\', 'u', '0', '0', Nat.digitChar (c.toNat / 16), Nat.digitChar (c.toNat % 16)]
  else [c]

def quote (s : String) : List Char := '"' :: s.toList.flatMap escapeChar ++ ['"']

/-- The end of a line and the blanks in front of the next. -/
def newline (depth : Nat) : List Char := '\n' :: List.replicate (2 * depth) ' '

mutual

/-- The text of a value inside `depth` levels. -/
def print (depth : Nat) : Json String → List Char
  | null => "null".toList
  | bool b => (if b then "true" else "false").toList
  | integer negative n => (if negative then ['-'] else []) ++ Nat.toDigits 10 n
  | real => "0.0".toList
  | string s => quote s
  | array [] => ['[', ']']
  | array (x :: xs) =>
    '[' :: newline (depth + 1) ++ print (depth + 1) x ++ printItems (depth + 1) xs ++
      newline depth ++ [']']
  | object [] => ['\x7b', '\x7d']
  | object ((k, v) :: fs) =>
    '\x7b' :: newline (depth + 1) ++ quote k ++ [':', ' '] ++ print (depth + 1) v ++
      printFields (depth + 1) fs ++ newline depth ++ ['\x7d']

/-- Further items of an array. -/
def printItems (depth : Nat) : List (Json String) → List Char
  | [] => []
  | x :: xs => ',' :: newline depth ++ print depth x ++ printItems depth xs

/-- Further fields of an object. -/
def printFields (depth : Nat) : List (String × Json String) → List Char
  | [] => []
  | (k, v) :: fs =>
    ',' :: newline depth ++ quote k ++ [':', ' '] ++ print depth v ++ printFields depth fs

end

def pretty (j : Json String) : String := String.ofList (j.print 0)

end TraceTally.Json
