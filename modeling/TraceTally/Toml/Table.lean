import TraceTally.Toml.Basic

/-! Tables grow by assignments and headers. Nothing may be defined twice. -/
namespace TraceTally.Toml.Entries

def find? (es : Entries) (name : String) : Option Node :=
  (List.find? (fun (e : Key × Node) => e.1.name == name) es).map (·.2)

/-- Puts another node at a name that is there. -/
def replace (es : Entries) (name : String) (n : Node) : Entries :=
  es.map fun (k, old) => if k.name == name then (k, n) else (k, old)

def erase (es : Entries) (name : String) : Entries :=
  es.filter fun e => e.1.name != name

/-- Assigns a node along a dotted key. A table opened by a header is closed to dotted keys, and the
table that holds the last name must itself be one that dotted keys made. -/
def assign (n : Node) : List Key → Entries → Option Entries
  | [], _ => none
  | [k], es => if (es.find? k.name).isSome then none else some (es ++ [(k, n)])
  | k :: ks, es =>
    match es.find? k.name with
    | none => do return es ++ [(k, .table .dotted (← assign n ks []))]
    | some (.table .dotted sub) => do return es.replace k.name (.table .dotted (← assign n ks sub))
    | some (.table .implied sub) => do
      guard (ks.length ≠ 1)
      return es.replace k.name (.table .implied (← assign n ks sub))
    | some (.tables span last) => do
      guard (ks.length ≠ 1)
      return es.replace k.name (.tables span (← assign n ks last))
    | some _ => none

/-- Opens a table by its header. One that was only implied is moved to the end. -/
def openTable (span : Span) : List Key → Entries → Option Entries
  | [], _ => none
  | [k], es =>
    match es.find? k.name with
    | none => some (es ++ [(k, .table (.header span) [])])
    | some (.table .implied sub) => some (es.erase k.name ++ [(k, .table (.header span) sub)])
    | some _ => none
  | k :: ks, es =>
    match es.find? k.name with
    | none => do return es ++ [(k, .table .implied (← openTable span ks []))]
    | some (.table origin sub) => do
      return es.replace k.name (.table origin (← openTable span ks sub))
    | some (.tables all last) => do
      return es.replace k.name (.tables all (← openTable span ks last))
    | some (.value ..) => none

/-- Adds a table to an array of tables by its header. -/
def openTables (span : Span) : List Key → Entries → Option Entries
  | [], _ => none
  | [k], es =>
    match es.find? k.name with
    | none => some (es ++ [(k, .tables span [])])
    | some (.tables all _) => some (es.replace k.name (.tables (all.upTo span) []))
    | some _ => none
  | k :: ks, es =>
    match es.find? k.name with
    | none => do return es ++ [(k, .table .implied (← openTables span ks []))]
    | some (.table origin sub) => do
      return es.replace k.name (.table origin (← openTables span ks sub))
    | some (.tables all last) => do
      return es.replace k.name (.tables all (← openTables span ks last))
    | some (.value ..) => none

/-- Assigns inside the table that was opened last, at `path`, and stretches that table to the end of
the value. -/
def assignAt (n : Node) (valueSpan : Span) (keys : List Key) : List Key → Entries → Option Entries
  | [], es => assign n keys es
  | [k], es =>
    match es.find? k.name with
    | some (.table (.header span) sub) => do
      return es.replace k.name (.table (.header (span.upTo valueSpan)) (← assign n keys sub))
    | some (.tables span last) => do
      return es.replace k.name (.tables (span.upTo valueSpan) (← assign n keys last))
    | _ => none
  | k :: ks, es =>
    match es.find? k.name with
    | some (.table origin sub) => do
      return es.replace k.name (.table origin (← assignAt n valueSpan keys ks sub))
    | some (.tables span last) => do
      return es.replace k.name (.tables span (← assignAt n valueSpan keys ks last))
    | _ => none

end TraceTally.Toml.Entries
