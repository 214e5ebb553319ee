import TraceTally.Decimal.Binary64

/-! Keys, values and tables of a TOML document, with where they stand in its text. -/
namespace TraceTally.Toml

/-- A stretch of text, by how many characters are left where it starts and where it stops. -/
structure Span where
  startLeft : Nat
  stopLeft : Nat
  deriving DecidableEq

/-- From the start of one stretch to the end of another. -/
def Span.upTo (a b : Span) : Span := ⟨a.startLeft, b.stopLeft⟩

structure Key where
  name : String
  span : Span
  deriving DecidableEq

inductive Number where
  | finite (negative : Bool) (magnitude : Decimal.Binary64)
  | infinite (negative : Bool)
  | nan
  deriving DecidableEq

/-- A value. What is inside dates, arrays and inline tables is checked when they are read and not
kept. -/
inductive Value where
  | string (s : String)
  | integer (n : Int)
  | float (x : Number)
  | boolean (b : Bool)
  | date
  | array
  | table
  deriving DecidableEq

/-- How a table came to be: named inside a dotted key, named on the way to another table's header,
or opened by a header of its own. -/
inductive Origin where
  | dotted
  | implied
  | header (span : Span)
  deriving DecidableEq

/-- What a key stands for. Of an array of tables only the last table can still grow, so only its
entries are kept; the span runs from the first table to the end of the last. -/
inductive Node where
  | value (v : Value) (span : Span)
  | table (origin : Origin) (entries : List (Key × Node))
  | tables (span : Span) (last : List (Key × Node))

abbrev Entries := List (Key × Node)

end TraceTally.Toml
