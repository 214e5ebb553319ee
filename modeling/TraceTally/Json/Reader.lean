import TraceTally.Json.Basic
import TraceTally.Text.Digits

/-! Reading JSON text. -/
namespace TraceTally.Json

def isBlank (c : Char) : Bool := c = ' ' || c = '\n' || c = '\t' || c = '\r'

def skipBlanks (cs : List Char) : List Char := cs.dropWhile isBlank

/-- A part of a string: a character, or a 16-bit unit that an escape gives. -/
inductive Part where
  | char (c : Char)
  | unit (n : Nat)
  deriving DecidableEq

def shortEscape? : Char → Option Char
  | '"' => some '"'
  | '\\' => some '\\'
  | '/' => some '/'
  | 'b' => some '\x08'
  | 'f' => some '\x0c'
  | 'n' => some '\n'
  | 'r' => some '\r'
  | 't' => some '\t'
  | _ => none

/-- The parts of a string after its first quote, and what follows its last. -/
def readParts : List Char → Option (List Part × List Char)
  | [] => none
  | '"' :: cs => some ([], cs)
  | '\\' :: 'u' :: a :: b :: c :: d :: cs => do
    let n ← Text.hexValue? [a, b, c, d]
    (readParts cs).map (Text.prepend (.unit n))
  | '\\' :: e :: cs => do
    let c ← shortEscape? e
    (readParts cs).map (Text.prepend (.char c))
  | c :: cs =>
    if 0x20 ≤ c.toNat ∧ c ≠ '\\' then (readParts cs).map (Text.prepend (.char c)) else none

def isHighSurrogate (n : Nat) : Bool := 0xd800 ≤ n && n ≤ 0xdbff

def isLowSurrogate (n : Nat) : Bool := 0xdc00 ≤ n && n ≤ 0xdfff

/-- The text of a string. A surrogate needs its partner. -/
def decodeParts : List Part → Option (List Char)
  | [] => some []
  | .char c :: ps => (c :: ·) <$> decodeParts ps
  | .unit h :: .unit l :: ps =>
    if isHighSurrogate h then
      if isLowSurrogate l then
        (Char.ofNat (0x10000 + (h - 0xd800) * 0x400 + (l - 0xdc00)) :: ·) <$> decodeParts ps
      else none
    else if isLowSurrogate h then none
    else (Char.ofNat h :: ·) <$> decodeParts (.unit l :: ps)
  | .unit h :: ps =>
    if isHighSurrogate h || isLowSurrogate h then none else (Char.ofNat h :: ·) <$> decodeParts ps

def readString (cs : List Char) : Option (Option String × List Char) := do
  let (ps, cs) ← readParts cs
  return ((decodeParts ps).map String.ofList, cs)

/-- A run of digits, at least one, and what follows. -/
def readDigits (cs : List Char) : Option (List Char × List Char) :=
  match cs.span Char.isDigit with
  | ([], _) => none
  | (ds, rest) => some (ds, rest)

/-- The rest after a fraction, if there is one. -/
def skipFraction : List Char → Option (Bool × List Char)
  | '.' :: cs => do
    let (_, cs) ← readDigits cs
    return (true, cs)
  | cs => some (false, cs)

/-- The rest after an exponent, if there is one. -/
def skipExponent : List Char → Option (Bool × List Char)
  | c :: cs =>
    if c = 'e' ∨ c = 'E' then do
      let cs := match cs with
        | '+' :: cs => cs
        | '-' :: cs => cs
        | cs => cs
      let (_, cs) ← readDigits cs
      return (true, cs)
    else some (false, c :: cs)
  | [] => some (false, [])

/-- A number without its sign. A zero in front stands alone. -/
def readNumber (negative : Bool) (cs : List Char) : Option (Read × List Char) := do
  let (ds, cs) ← readDigits cs
  guard (ds.head? != some '0' || ds.length == 1)
  let (fraction, cs) ← skipFraction cs
  let (exponent, cs) ← skipExponent cs
  return (if fraction || exponent then real else integer negative (Text.digitsValue 10 ds), cs)

/-- What follows `word` at the front of `cs`. -/
def afterWord? (word : String) (cs : List Char) : Option (List Char) :=
  if word.toList.isPrefixOf cs then some (cs.drop word.length) else none

/-- The rest of a list after its bracket: `close` at once, or items with commas between them and
`close` at the end. `fuel` bounds the number of items. -/
def readItems {α : Type} (close : Char) (item : List Char → Option (α × List Char)) :
    Nat → List Char → Option (List α × List Char)
  | 0, _ => none
  | fuel + 1, cs => do
    let (x, cs) ← item cs
    match skipBlanks cs with
    | [] => none
    | c :: cs =>
      if c = ',' then (readItems close item fuel cs).map (Text.prepend x)
      else if c = close then some ([x], cs)
      else none

def readList {α : Type} (close : Char) (item : List Char → Option (α × List Char)) (fuel : Nat)
    (cs : List Char) : Option (List α × List Char) :=
  match skipBlanks cs with
  | [] => none
  | c :: rest => if c = close then some ([], rest) else readItems close item fuel cs

def readField {α : Type} (value : List Char → Option (α × List Char)) (cs : List Char) :
    Option ((Option String × α) × List Char) := do
  match skipBlanks cs with
  | '"' :: cs =>
    let (k, cs) ← readString cs
    match skipBlanks cs with
    | ':' :: cs =>
      let (v, cs) ← value cs
      return ((k, v), cs)
    | _ => none
  | _ => none

/-- A value and what follows it. `fuel` bounds both the depth and the length of each list; the
number of characters is always enough. -/
def readValue : Nat → List Char → Option (Read × List Char)
  | 0, _ => none
  | fuel + 1, cs =>
    match skipBlanks cs with
    | '"' :: cs => (readString cs).map fun (s, cs) => (string s, cs)
    | '[' :: cs => (readList ']' (readValue fuel) fuel cs).map fun (xs, cs) => (array xs, cs)
    | '\x7b' :: cs =>
      (readList '\x7d' (readField (readValue fuel)) fuel cs).map fun (fs, cs) => (object fs, cs)
    | '-' :: cs => readNumber true cs
    | 'n' :: cs => (afterWord? "ull" cs).map fun cs => (null, cs)
    | 't' :: cs => (afterWord? "rue" cs).map fun cs => (bool true, cs)
    | 'f' :: cs => (afterWord? "alse" cs).map fun cs => (bool false, cs)
    | cs => readNumber false cs

/-- The value that a text is, with blanks around it. -/
def parse? (s : String) : Option Read := do
  let cs := s.toList
  let (j, cs) ← readValue (cs.length + 1) cs
  guard (skipBlanks cs).isEmpty
  return j

end TraceTally.Json
