/-! Lines of a text. A line feed, a carriage return, and the two together each end a line. -/
namespace TraceTally.Text

/-- The lines of `cs` when `line` holds, last character first, what the current line has so far. -/
def linesFrom (line : List Char) : List Char → List (List Char)
  | [] => if line.isEmpty then [] else [line.reverse]
  | '\r' :: '\n' :: cs => line.reverse :: linesFrom [] cs
  | c :: cs =>
    if c = '\n' ∨ c = '\r' then line.reverse :: linesFrom [] cs else linesFrom (c :: line) cs

/-- The lines of a text without their ends. An end at the close of the text adds no empty line. -/
def lines (s : String) : List String :=
  (linesFrom [] s.toList).map String.ofList

/-- Each line followed by a line feed. -/
def unlines (ls : List String) : String :=
  String.join (ls.map (· ++ "\n"))

end TraceTally.Text
