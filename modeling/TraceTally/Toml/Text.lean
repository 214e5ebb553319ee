import TraceTally.Text.Digits

/-! Strings of a TOML document. Each reader starts behind the opening quotes and also gives what
follows the closing ones. -/
namespace TraceTally.Toml

def isBlank (c : Char) : Bool := c = ' ' || c = '\t'

/-- A character that may stand for itself: no control but the tab. -/
def isPlain (c : Char) : Bool := c = '\t' || (0x20 ≤ c.toNat && c.toNat ≠ 0x7f)

/-- The character that an escape with hexadecimal digits stands for. -/
def hexChar? (ds : List Char) : Option Char := do
  let n ← Text.hexValue? ds
  if n.isValidChar then some (Char.ofNat n) else none

def shortEscape? : Char → Option Char
  | 'b' => some '\x08'
  | 't' => some '\t'
  | 'n' => some '\n'
  | 'f' => some '\x0c'
  | 'r' => some '\r'
  | '"' => some '"'
  | '\\' => some '\\'
  | _ => none

/-- How a character stands in a string on one line: quote, backslash and controls are escaped. -/
def basicChar (c : Char) : List Char :=
  if c = '"' then ['\\', '"']
  else if c = '\\' then ['\\', '\\']
  else if c.toNat < 0x20 ∨ c.toNat = 0x7f then
    ['\\', 'u', '0', '0', Nat.digitChar (c.toNat / 16), Nat.digitChar (c.toNat % 16)]
  else [c]

/-- A string as it is written on one line. -/
def basicString (s : String) : String :=
  String.ofList ('"' :: s.toList.flatMap basicChar ++ ['"'])

/-- A string on one line, with escapes. -/
def readBasic : List Char → Option (List Char × List Char)
  | [] => none
  | '"' :: cs => some ([], cs)
  | '\\' :: 'u' :: a :: b :: c :: d :: cs => do
    let x ← hexChar? [a, b, c, d]
    (readBasic cs).map (Text.prepend x)
  | '\\' :: 'U' :: a :: b :: c :: d :: e :: f :: g :: h :: cs => do
    let x ← hexChar? [a, b, c, d, e, f, g, h]
    (readBasic cs).map (Text.prepend x)
  | '\\' :: e :: cs => do
    let x ← shortEscape? e
    (readBasic cs).map (Text.prepend x)
  | c :: cs =>
    if isPlain c && c != '\\' then (readBasic cs).map (Text.prepend c) else none

/-- A string on one line, as it stands. -/
def readLiteral : List Char → Option (List Char × List Char)
  | [] => none
  | '\'' :: cs => some ([], cs)
  | c :: cs => if isPlain c then (readLiteral cs).map (Text.prepend c) else none

/-- What follows a line end, which is `\n` or `\r\n`. -/
def afterNewline? : List Char → Option (List Char)
  | '\n' :: cs => some cs
  | '\r' :: '\n' :: cs => some cs
  | _ => none

/-- Is there nothing but blanks up to the end of the line? -/
def lineIsBlank (cs : List Char) : Bool := (afterNewline? (cs.dropWhile isBlank)).isSome

/-- At three quotes: up to two more belong to the string. -/
def closing (quote : Char) : List Char → List Char × List Char
  | a :: b :: cs =>
    if a = quote then if b = quote then ([a, b], cs) else ([a], b :: cs) else ([], a :: b :: cs)
  | [a] => if a = quote then ([a], []) else ([], [a])
  | [] => ([], [])

/-- A string over several lines, with escapes. While `trimming`, after a backslash at the end of a
line, blanks and line ends are passed over. -/
def readMultiBasic (trimming : Bool) : List Char → Option (List Char × List Char)
  | [] => none
  | '"' :: '"' :: '"' :: cs => some (closing '"' cs)
  | '\\' :: 'u' :: a :: b :: c :: d :: cs => do
    let x ← hexChar? [a, b, c, d]
    (readMultiBasic false cs).map (Text.prepend x)
  | '\\' :: 'U' :: a :: b :: c :: d :: e :: f :: g :: h :: cs => do
    let x ← hexChar? [a, b, c, d, e, f, g, h]
    (readMultiBasic false cs).map (Text.prepend x)
  | '\\' :: e :: cs =>
    if lineIsBlank (e :: cs) then readMultiBasic true (e :: cs)
    else do
      let x ← shortEscape? e
      (readMultiBasic false cs).map (Text.prepend x)
  | '\r' :: '\n' :: cs =>
    if trimming then readMultiBasic true cs
    else (readMultiBasic false cs).map (Text.prepend '\n')
  | c :: cs =>
    if trimming && (isBlank c || c = '\n') then readMultiBasic true cs
    else if (isPlain c || c = '\n') && c != '\\' then
      (readMultiBasic false cs).map (Text.prepend c)
    else none

/-- A string over several lines, as it stands. -/
def readMultiLiteral : List Char → Option (List Char × List Char)
  | [] => none
  | '\'' :: '\'' :: '\'' :: cs => some (closing '\'' cs)
  | '\r' :: '\n' :: cs => (readMultiLiteral cs).map (Text.prepend '\n')
  | c :: cs =>
    if isPlain c || c = '\n' then (readMultiLiteral cs).map (Text.prepend c) else none

/-- A line end right behind the opening quotes does not belong to the string. -/
def dropNewline (cs : List Char) : List Char := (afterNewline? cs).getD cs

/-- A string of any kind, from its opening quotes on. -/
def readString : List Char → Option (List Char × List Char)
  | '"' :: '"' :: '"' :: cs => readMultiBasic false (dropNewline cs)
  | '"' :: cs => readBasic cs
  | '\'' :: '\'' :: '\'' :: cs => readMultiLiteral (dropNewline cs)
  | '\'' :: cs => readLiteral cs
  | _ => none

end TraceTally.Toml
