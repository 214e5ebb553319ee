import TraceTally.Log.Directive
import TraceTally.Text.Lines

/-! The filter that decides which events appear. -/
namespace TraceTally.Log

/-- Directives in the order they were given, and complaints about what was none. -/
structure Filter where
  directives : List Directive
  complaints : List String
  deriving DecidableEq

namespace Filter

def complaint (s : String) (f : Directive.Fault) : String := "ignoring `" ++ s ++ "`: " ++ f.message

/-- Takes up one more directive, or complains. -/
def add (filter : Filter) (s : String) : Filter :=
  match Directive.parse s.toList with
  | .ok d => { filter with directives := filter.directives ++ [d] }
  | .error f => { filter with complaints := filter.complaints ++ [complaint s f] }

/-- Directives with commas between them. Behind them stands one for everything, in place of any
level that was given alone. -/
def ofText (s : String) : Filter :=
  let given := ((s.splitOn ",").filter (· != "")).foldl add ⟨[], []⟩
  { given with directives := given.directives ++ [{}] }

/-- The closest of the directives that fit, of equally close ones the last. -/
def directiveFor (filter : Filter) (e : Event) : Directive :=
  (filter.directives.filter (·.fits e)).foldl (fun best d => if best.closer d then best else d) {}

def shows (filter : Filter) (e : Event) : Bool := e.severity.rank ≤ (filter.directiveFor e).limit

/-- The complaints, and after them the events that appear. -/
def render (filter : Filter) (es : List Event) : String :=
  Text.unlines (filter.complaints ++ (es.filter filter.shows).map Event.text)

end Filter

end TraceTally.Log
