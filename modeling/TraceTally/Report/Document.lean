import TraceTally.Json.Printer
import TraceTally.Json.Reader
import TraceTally.Tally.Totals

/-! A tally as a JSON document, written and read. -/
namespace TraceTally.Report

/-- Durations are there in a paired tally only. -/
structure DocumentEntry where
  key : String
  count : UInt64
  duration : Option Int64
  deriving DecidableEq

structure DocumentSummary where
  distinctKeys : UInt64
  totalCount : UInt64
  totalDuration : Option Int64
  deriving DecidableEq

/-- A document is what its fields say; they need not agree with each other. -/
structure Document where
  version : String
  format : String
  mode : Mode
  entries : List DocumentEntry
  summary : DocumentSummary
  deriving DecidableEq

namespace Document

def ofTally (t : Tally) : Document :=
  let shown (d : Int64) : Option Int64 :=
    match t.mode with
    | .single => none
    | .paired => some d
  let totals := t.totals
  { version := "0.1.0"
    format := "insttally-json-v1"
    mode := t.mode
    entries := t.entries.toList.map fun e => ⟨e.key, e.stats.count, shown e.stats.duration⟩
    summary := ⟨totals.distinctKeys.toUInt64, totals.count, shown totals.duration⟩ }

def modeName : Mode → String
  | .single => "single"
  | .paired => "paired"

def mode? (name : String) : Option Mode :=
  if name = "single" then some .single else if name = "paired" then some .paired else none

/-- A field that is left out when there is no duration. -/
def durationField (name : String) (d : Option Int64) : List (String × Json String) :=
  match d with
  | none => []
  | some d => [(name, .ofInt64 d)]

def entryToJson (e : DocumentEntry) : Json String :=
  .object <|
    [("key", .string e.key), ("count", .ofUInt64 e.count)] ++ durationField "duration" e.duration

def summaryToJson (s : DocumentSummary) : Json String :=
  .object <|
    [("distinct_keys", .ofUInt64 s.distinctKeys), ("total_count", .ofUInt64 s.totalCount)] ++
      durationField "total_duration" s.totalDuration

def toJson (d : Document) : Json String :=
  .object
    [("version", .string d.version),
      ("format", .string d.format),
      ("mode", .string (modeName d.mode)),
      ("entries", .array (d.entries.map entryToJson)),
      ("summary", summaryToJson d.summary)]

def render (d : Document) : String := d.toJson.pretty

def textOfJson? : Json.Read → Option String
  | .string s => s
  | _ => none

/-- A mode is its name, or an object with the name as its one field and nothing in it. -/
def modeOfJson? : Json.Read → Option Mode
  | .string (some name) => mode? name
  | .object [(some name, .null)] => mode? name
  | _ => none

/-- A duration may be missing or null. -/
def durationOfJson? : Option (Json.Read) → Option (Option Int64)
  | none => some none
  | some .null => some none
  | some j => j.toInt64?.map some

def entryOfJson? (j : Json.Read) : Option DocumentEntry := do
  match ← j.fields? ["key", "count", "duration"] with
  | [some key, some count, duration] =>
    return ⟨← textOfJson? key, ← count.toUInt64?, ← durationOfJson? duration⟩
  | _ => none

def summaryOfJson? (j : Json.Read) : Option DocumentSummary := do
  match ← j.fields? ["distinct_keys", "total_count", "total_duration"] with
  | [some keys, some count, duration] =>
    return ⟨← keys.toUInt64?, ← count.toUInt64?, ← durationOfJson? duration⟩
  | _ => none

def entriesOfJson? : Json.Read → Option (List DocumentEntry)
  | .array items => items.mapM entryOfJson?
  | _ => none

def ofJson? (j : Json.Read) : Option Document := do
  match ← j.fields? ["version", "format", "mode", "entries", "summary"] with
  | [some version, some format, some mode, some entries, some summary] =>
    return ⟨← textOfJson? version, ← textOfJson? format, ← modeOfJson? mode,
      ← entriesOfJson? entries, ← summaryOfJson? summary⟩
  | _ => none

def parse? (s : String) : Option Document := do ofJson? (← Json.parse? s)

end Document

end TraceTally.Report
