import TraceTally.Toml.Date
import TraceTally.Toml.Number
import TraceTally.Toml.Table

/-! Reading a TOML document. -/
namespace TraceTally.Toml

def skipBlanks (cs : List Char) : List Char := cs.dropWhile isBlank

/-- What follows a comment, if there is one. -/
def skipComment : List Char → List Char
  | '#' :: cs => cs.dropWhile isPlain
  | cs => cs

/-- What follows the end of a line, with blanks and a comment in front of it. -/
def endLine (cs : List Char) : Option (List Char) :=
  match skipComment (skipBlanks cs) with
  | [] => some []
  | cs => afterNewline? cs

/-- What follows blanks, comments and line ends. -/
def skipLayout (inComment : Bool) : List Char → List Char
  | [] => []
  | '\r' :: '\n' :: cs => skipLayout false cs
  | c :: cs =>
    if c = '\n' then skipLayout false cs
    else if inComment then if isPlain c then skipLayout true cs else c :: cs
    else if isBlank c then skipLayout false cs
    else if c = '#' then skipLayout true cs
    else c :: cs

def isBareKeyChar (c : Char) : Bool := c.isAlphanum || c = '_' || c = '-'

/-- One name of a key and what follows it. -/
def readName : List Char → Option (String × List Char)
  | '"' :: cs => do
    let (s, cs) ← readBasic cs
    return (String.ofList s, cs)
  | '\'' :: cs => do
    let (s, cs) ← readLiteral cs
    return (String.ofList s, cs)
  | cs =>
    match cs.span isBareKeyChar with
    | ([], _) => none
    | (s, cs) => some (String.ofList s, cs)

/-- The names of a dotted key, at most as many as `limit`, and what follows them and the blanks
behind. -/
def readKey : (limit : Nat) → List Char → Option (List Key × List Char)
  | 0, _ => none
  | limit + 1, cs => do
    let start := skipBlanks cs
    let (name, stop) ← readName start
    let key : Key := ⟨name, start.length, stop.length⟩
    match skipBlanks stop with
    | '.' :: cs =>
      let (keys, cs) ← readKey limit cs
      return (key :: keys, cs)
    | cs => return ([key], cs)

/-- A key has fewer than this many names, and arrays and inline tables nest fewer times. -/
def depthLimit : Nat := 80

/-- What follows the values of an array behind its bracket. A comma may stand behind the last. -/
def skipItems (skipItem : List Char → Option (List Char)) : Nat → List Char → Option (List Char)
  | 0, _ => none
  | fuel + 1, cs =>
    match skipLayout false cs with
    | ']' :: cs => some cs
    | cs => do
      match skipLayout false (← skipItem cs) with
      | ',' :: cs => skipItems skipItem fuel cs
      | ']' :: cs => some cs
      | _ => none

/-- What follows the assignments of an inline table, once there is one to read. -/
def skipAssignments (skipItem : List Char → Option (List Char)) (es : Entries) :
    Nat → List Char → Option (List Char)
  | 0, _ => none
  | fuel + 1, cs => do
    match ← readKey (depthLimit - 1) cs with
    | (keys, '=' :: cs) =>
      let es ← es.assign (.value .table ⟨0, 0⟩) keys
      match skipBlanks (← skipItem (skipBlanks cs)) with
      | ',' :: cs => skipAssignments skipItem es fuel cs
      | '\x7d' :: cs => some cs
      | _ => none
    | _ => none

def skipInlineTable (skipItem : List Char → Option (List Char)) (fuel : Nat) (cs : List Char) :
    Option (List Char) :=
  match skipBlanks cs with
  | '\x7d' :: cs => some cs
  | cs => skipAssignments skipItem [] fuel cs

/-- A value and what follows it. `depth` is how many arrays and inline tables may still open. -/
def readValue (depth : Nat) (cs : List Char) : Option (Value × List Char) :=
  match cs with
  | [] => none
  | c :: rest =>
    if c = '"' ∨ c = '\'' then do
      let (s, cs) ← readString cs
      return (.string (String.ofList s), cs)
    else if c = '[' then
      match depth with
      | 0 => none
      | depth + 1 => do
        let skip := fun cs => (readValue depth cs).map (·.2)
        return (.array, ← skipItems skip cs.length rest)
    else if c = '\x7b' then
      match depth with
      | 0 => none
      | depth + 1 => do
        let skip := fun cs => (readValue depth cs).map (·.2)
        return (.table, ← skipInlineTable skip cs.length rest)
    else if c = 't' then
      if "true".toList.isPrefixOf cs then some (.boolean true, cs.drop 4) else none
    else if c = 'f' then
      if "false".toList.isPrefixOf cs then some (.boolean false, cs.drop 5) else none
    else match readDate cs with
      | some r => some r
      | none => readNumber cs

/-- A document as far as it was read: its entries, and the table that was opened last. -/
structure Progress where
  root : Entries := []
  opened : List Key := []

def readAssignment (p : Progress) (cs : List Char) : Option (Progress × List Char) := do
  match ← readKey (depthLimit - 1) cs with
  | (keys, '=' :: cs) =>
    let start := skipBlanks cs
    let (v, stop) ← readValue (depthLimit - 1) start
    let span : Span := ⟨start.length, stop.length⟩
    let root ← p.root.assignAt (.value v span) span keys p.opened
    return ({ p with root }, ← endLine stop)
  | _ => none

/-- A header of one or two brackets, from the first bracket on. -/
def readHeader (p : Progress) (cs : List Char) : Option (Progress × List Char) := do
  match cs with
  | '[' :: '[' :: inner =>
    match ← readKey (depthLimit - 1) inner with
    | (keys, ']' :: ']' :: stop) =>
      let root ← p.root.openTables ⟨cs.length, stop.length⟩ keys
      return (⟨root, keys⟩, ← endLine stop)
    | _ => none
  | '[' :: inner =>
    match ← readKey (depthLimit - 1) inner with
    | (keys, ']' :: stop) =>
      let root ← p.root.openTable ⟨cs.length, stop.length⟩ keys
      return (⟨root, keys⟩, ← endLine stop)
    | _ => none
  | _ => none

/-- One line of a document, or one assignment that runs over several. -/
def readLine (p : Progress) (cs : List Char) : Option (Progress × List Char) :=
  match skipBlanks cs with
  | '[' :: rest => readHeader p ('[' :: rest)
  | '#' :: rest => do return (p, ← endLine ('#' :: rest))
  | cs =>
    match afterNewline? cs with
    | some cs => some (p, cs)
    | none => readAssignment p cs

/-- All lines. `fuel` bounds their number. -/
def readLines (p : Progress) : Nat → List Char → Option Entries
  | 0, _ => none
  | fuel + 1, cs =>
    if (skipBlanks cs).isEmpty then some p.root
    else do
      let (p, cs) ← readLine p cs
      readLines p fuel cs

/-- The entries of a document, with a byte order mark in front or without. -/
def parse? (s : String) : Option Entries :=
  let cs := match s.toList with
    | '\ufeff' :: cs => cs
    | cs => cs
  readLines {} (cs.length + 1) cs

end TraceTally.Toml
