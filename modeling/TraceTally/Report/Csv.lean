import TraceTally.Tally.Column

/-! A tally as comma-separated values, and how such values are read. -/
namespace TraceTally.Report.Csv

/-- A field that holds a comma, a quote or a line end stands in quotes, its own quotes doubled. -/
def needsQuotes (c : Char) : Bool := c = ',' || c = '"' || c = '\n' || c = '\r'

def doubleQuotes (cs : List Char) : List Char :=
  cs.flatMap fun c => if c = '"' then ['"', '"'] else [c]

def field (s : String) : String :=
  if s.toList.any needsQuotes then String.ofList ('"' :: doubleQuotes s.toList ++ ['"']) else s

def row (fields : List String) : String := String.intercalate "," (fields.map field) ++ "\n"

def header : Mode → List String
  | .single => ["key", "count"]
  | .paired => ["key", "count", "duration"]

def record (mode : Mode) (e : Entry) : List String :=
  match mode with
  | .single => [e.key, e.countText]
  | .paired => [e.key, e.countText, e.durationText]

/-- The header, then one record for each entry. Only a paired tally shows durations. -/
def records (t : Tally) : List (List String) :=
  header t.mode :: t.entries.toList.map (record t.mode)

def render (t : Tally) : String := String.join ((records t).map row)

/-- Where a reader of records stands in a field: in front of it, in bare text, between quotes, or
behind a quote that may close them. -/
inductive FieldState where
  | start
  | bare
  | quoted
  | closed
  deriving DecidableEq

/-- The records of a text, each ended by a line feed. `field` is what was read of the current field,
last character first, and `fields` the fields in front of it, last first. -/
def readRecords (st : FieldState) (field : List Char) (fields : List String) :
    List Char → Option (List (List String))
  | [] => if st = .start ∧ fields = [] then some [] else none
  | c :: cs =>
    if st = .quoted then
      if c = '"' then readRecords .closed field fields cs
      else readRecords .quoted (c :: field) fields cs
    else if st = .closed ∧ c = '"' then readRecords .quoted (c :: field) fields cs
    else if c = ',' then readRecords .start [] (String.ofList field.reverse :: fields) cs
    else if c = '\n' then
      (readRecords .start [] [] cs).map ((String.ofList field.reverse :: fields).reverse :: ·)
    else if st = .closed then none
    else if st = .start ∧ c = '"' then readRecords .quoted [] fields cs
    else readRecords .bare (c :: field) fields cs

def parse? (s : String) : Option (List (List String)) := readRecords .start [] [] s.toList

end TraceTally.Report.Csv
