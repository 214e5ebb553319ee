import TraceTally.Proofs.LineBreaks

/-! Lines with their ends. Every text is laid out in lines and ends, and its lines are those of the
layout. They are also the pieces of the text once every end is made a line feed. -/
namespace TraceTally.Text

variable {c : Char} {cs l line : List Char}

inductive LineEnd where
  | lineFeed
  | carriageReturn
  | both
  deriving DecidableEq

def LineEnd.chars : LineEnd → List Char
  | .lineFeed => ['\n']
  | .carriageReturn => ['\r']
  | .both => ['\r', '\n']

/-- A line without breaks and the end behind it. -/
structure EndedLine where
  line : String
  ending : LineEnd
  oneLine : ∀ c ∈ line.toList, ¬ IsBreak c

def EndedLine.chars (l : EndedLine) : List Char := l.line.toList ++ l.ending.chars

/-- A carriage return and the line feed of an empty line would together be one end. -/
def EndedLine.Apart (a b : EndedLine) : Prop :=
  ¬ (a.ending = .carriageReturn ∧ b.line = "" ∧ b.ending = .lineFeed)

/-- Lines with their ends, and what stands behind the last end. -/
structure Layout where
  ended : List EndedLine
  rest : String
  oneLine : ∀ c ∈ rest.toList, ¬ IsBreak c
  apart : ended.IsChain EndedLine.Apart

namespace Layout

def chars (y : Layout) : List Char := y.ended.flatMap EndedLine.chars ++ y.rest.toList

def text (y : Layout) : String := String.ofList y.chars

/-- What stands behind the last end is a line only if it is not empty. -/
def lines (y : Layout) : List String :=
  y.ended.map (·.line) ++ if y.rest = "" then [] else [y.rest]

def ends (y : Layout) : List LineEnd := y.ended.map (·.ending)

end Layout

/-- The ends in a text. A carriage return belongs to a line feed right behind it. -/
def lineEnds : List Char → List LineEnd
  | [] => []
  | '\r' :: '\n' :: cs => .both :: lineEnds cs
  | c :: cs =>
    if c = '\n' then .lineFeed :: lineEnds cs
    else if c = '\r' then .carriageReturn :: lineEnds cs
    else lineEnds cs

/-- Every carriage return with a line feed behind it goes. -/
def joinPairs : List Char → List Char
  | [] => []
  | '\r' :: '\n' :: cs => '\n' :: joinPairs cs
  | c :: cs => c :: joinPairs cs

/-- Every end becomes a line feed: the pairs first, then each carriage return that is left. -/
def normalize (cs : List Char) : List Char :=
  (joinPairs cs).map fun c => if c = '\r' then '\n' else c

def dropEmptyLast (ps : List (List Char)) : List (List Char) :=
  if ps.getLast? = some [] then ps.dropLast else ps

/-- The pieces between the line feeds of the normalized text. -/
def pieces (s : String) : List String :=
  (dropEmptyLast ((normalize s.toList).splitOn '\n')).map String.ofList

theorem lineEnds_plain (hl : ∀ c ∈ l, ¬ IsBreak c) (cs : List Char) :
    lineEnds (l ++ cs) = lineEnds cs := by
  induction l with
  | nil => rfl
  | cons c l ih =>
    have hc : c ≠ '\n' ∧ c ≠ '\r' := not_or.mp (hl c (by simp))
    have hrest := ih fun d hd => hl d (List.mem_cons_of_mem c hd)
    simp [lineEnds, hc, hrest]

/-- An end is taken whole, unless a line feed follows that belongs to it. -/
theorem linesFrom_ending {e : LineEnd} (he : e = .carriageReturn → cs.head? ≠ some '\n')
    (line : List Char) : linesFrom line (e.chars ++ cs) = line.reverse :: linesFrom [] cs := by
  cases e with
  | lineFeed => simp [LineEnd.chars, linesFrom]
  | both => simp [LineEnd.chars, linesFrom]
  | carriageReturn =>
    have hcs := he rfl
    cases cs with
    | nil => simp [LineEnd.chars, linesFrom]
    | cons c cs =>
      have hc : c ≠ '\n' := by simpa using hcs
      simp [LineEnd.chars, linesFrom, hc]

theorem lineEnds_ending {e : LineEnd} (he : e = .carriageReturn → cs.head? ≠ some '\n') :
    lineEnds (e.chars ++ cs) = e :: lineEnds cs := by
  cases e with
  | lineFeed => simp [LineEnd.chars, lineEnds]
  | both => simp [LineEnd.chars, lineEnds]
  | carriageReturn =>
    have hcs := he rfl
    cases cs with
    | nil => simp [LineEnd.chars, lineEnds]
    | cons c cs =>
      have hc : c ≠ '\n' := by simpa using hcs
      simp [LineEnd.chars, lineEnds, hc]

namespace Layout

theorem head?_ne_lineFeed (y : Layout) {a : EndedLine} (ha : a.ending = .carriageReturn)
    (hnext : ∀ b ∈ y.ended.head?, a.Apart b) : y.chars.head? ≠ some '\n' := by
  intro hhead
  cases hy : y.ended with
  | nil =>
    have hrest : '\n' ∈ y.rest.toList := List.mem_of_head? (by simpa [chars, hy] using hhead)
    exact y.oneLine '\n' hrest (Or.inl rfl)
  | cons b bs =>
    have hb := hnext b (by simp [hy])
    simp only [chars, hy, List.flatMap_cons, EndedLine.chars] at hhead
    cases hline : b.line.toList with
    | nil =>
      have hempty : b.line = "" := String.toList_eq_nil_iff.mp hline
      cases hend : b.ending with
      | lineFeed => exact hb ⟨ha, hempty, hend⟩
      | carriageReturn => simp [hline, hend, LineEnd.chars] at hhead
      | both => simp [hline, hend, LineEnd.chars] at hhead
    | cons c cs =>
      have hc : c = '\n' := by simpa [hline] using hhead
      exact b.oneLine c (by simp [hline]) (Or.inl hc)

end Layout

/-- A scan of a layout's text finds its lines and its ends. -/
theorem scan_layout (y : Layout) :
    linesFrom [] y.chars = y.lines.map String.toList ∧ lineEnds y.chars = y.ends := by
  obtain ⟨es, rest, hrest, hes⟩ := y
  induction es with
  | nil =>
    have hchars : ∀ h, (Layout.mk [] rest hrest h).chars = rest.toList ++ [] := by
      intro h
      simp [Layout.chars]
    constructor
    · rw [hchars, linesFrom_plain hrest]
      by_cases h : rest = "" <;> simp [Layout.lines, linesFrom, h]
    · rw [hchars, lineEnds_plain hrest]
      rfl
  | cons e es ih =>
    obtain ⟨hnext, hes⟩ := List.isChain_cons.mp hes
    obtain ⟨hlines, hends⟩ := ih hes
    have hfollow : e.ending = .carriageReturn →
        (Layout.mk es rest hrest hes).chars.head? ≠ some '\n' :=
      fun he => Layout.head?_ne_lineFeed _ he hnext
    have hchars : ∀ h, (Layout.mk (e :: es) rest hrest h).chars =
        e.line.toList ++ (e.ending.chars ++ (Layout.mk es rest hrest hes).chars) := by
      intro h
      simp [Layout.chars, EndedLine.chars]
    constructor
    · rw [hchars, linesFrom_plain e.oneLine, linesFrom_ending hfollow, hlines]
      simp [Layout.lines]
    · rw [hchars, lineEnds_plain e.oneLine, lineEnds_ending hfollow, hends]
      simp [Layout.ends]

theorem exists_layout_ending (y : Layout) {e : LineEnd}
    (he : e = .carriageReturn → y.chars.head? ≠ some '\n') :
    ∃ z : Layout, z.chars = e.chars ++ y.chars := by
  have hchain : List.IsChain EndedLine.Apart (⟨"", e, by simp⟩ :: y.ended) := by
    refine List.isChain_cons.mpr ⟨?_, y.apart⟩
    rintro ⟨line, ending, hline⟩ hb ⟨hret, rfl, rfl⟩
    obtain ⟨bs, hbs⟩ := List.head?_eq_some_iff.mp hb
    exact he hret (by simp [Layout.chars, hbs, EndedLine.chars, LineEnd.chars])
  exact ⟨⟨_, y.rest, y.oneLine, hchain⟩, by simp [Layout.chars, EndedLine.chars]⟩

/-- A character that is no break goes in front of the first line, or of what has no end. -/
theorem exists_layout_char (y : Layout) (hc : ¬ IsBreak c) :
    ∃ z : Layout, z.chars = c :: y.chars := by
  obtain ⟨es, rest, hrest, hes⟩ := y
  cases es with
  | nil =>
    have hrest' : ∀ d ∈ (String.ofList (c :: rest.toList)).toList, ¬ IsBreak d := by
      simpa using ⟨hc, hrest⟩
    exact ⟨⟨[], _, hrest', .nil⟩, by simp [Layout.chars]⟩
  | cons e es =>
    have hline : ∀ d ∈ (String.ofList (c :: e.line.toList)).toList, ¬ IsBreak d := by
      simpa using ⟨hc, e.oneLine⟩
    have hchain : List.IsChain EndedLine.Apart (⟨_, e.ending, hline⟩ :: es) := by
      obtain ⟨hnext, hes⟩ := List.isChain_cons.mp hes
      exact List.isChain_cons.mpr ⟨hnext, hes⟩
    exact ⟨⟨_, rest, hrest, hchain⟩, by simp [Layout.chars, EndedLine.chars]⟩

/-- Every text has a layout. -/
theorem exists_layout (cs : List Char) : ∃ y : Layout, y.chars = cs := by
  fun_induction lineEnds cs with
  | case1 => exact ⟨⟨[], "", by simp, .nil⟩, rfl⟩
  | case2 cs ih =>
    obtain ⟨y, rfl⟩ := ih
    exact exists_layout_ending y (e := .both) (by simp)
  | case3 cs _ ih =>
    obtain ⟨y, rfl⟩ := ih
    exact exists_layout_ending y (e := .lineFeed) (by simp)
  | case4 cs hpair _ ih =>
    obtain ⟨y, rfl⟩ := ih
    refine exists_layout_ending y (e := .carriageReturn) ?_
    intro _ hhead
    obtain ⟨ds, hds⟩ := List.head?_eq_some_iff.mp hhead
    exact hpair ds rfl hds
  | case5 c cs _ hfeed hreturn ih =>
    obtain ⟨y, rfl⟩ := ih
    exact exists_layout_char y (not_or.mpr ⟨hfeed, hreturn⟩)

theorem lines_text (y : Layout) : lines y.text = y.lines := by
  rw [lines, Layout.text, String.toList_ofList, (scan_layout y).1, List.map_map]
  simp [Function.comp_def]

theorem normalize_pair (cs : List Char) : normalize ('\r' :: '\n' :: cs) = '\n' :: normalize cs := by
  simp [normalize, joinPairs]

theorem normalize_cons (h : ∀ ds, c = '\r' → cs = '\n' :: ds → False) :
    normalize (c :: cs) = (if c = '\r' then '\n' else c) :: normalize cs := by
  rw [normalize, joinPairs, List.map_cons, normalize]
  exact h

theorem dropEmptyLast_cons (p : List Char) {ps : List (List Char)} (h : ps ≠ []) :
    dropEmptyLast (p :: ps) = p :: dropEmptyLast ps := by
  obtain ⟨q, qs, rfl⟩ := List.exists_cons_of_ne_nil h
  simp only [dropEmptyLast, List.getLast?_cons_cons, List.dropLast_cons_cons]
  split <;> rfl

/-- The pieces when `line` stands in front of the first, last character first. -/
def piecesFrom (line cs : List Char) : List (List Char) :=
  dropEmptyLast ((cs.splitOn '\n').modifyHead (line.reverse ++ ·))

theorem piecesFrom_empty (cs : List Char) : piecesFrom [] cs = dropEmptyLast (cs.splitOn '\n') := by
  have hid : (fun p : List Char => [].reverse ++ p) = id := rfl
  rw [piecesFrom, hid, List.modifyHead_id, id]

theorem piecesFrom_lineFeed (line cs : List Char) :
    piecesFrom line ('\n' :: cs) = line.reverse :: piecesFrom [] cs := by
  have hne : cs.splitOn '\n' ≠ [] := List.splitOnP_ne_nil _ cs
  have hcut : ('\n' :: cs).splitOn '\n' = [] :: cs.splitOn '\n' := by
    simp [List.splitOn_eq_splitOnP, List.splitOnP_cons_eq_if_modifyHead]
  rw [piecesFrom, hcut, List.modifyHead_cons, List.append_nil, dropEmptyLast_cons _ hne,
    piecesFrom_empty]

theorem piecesFrom_plain (h : c ≠ '\n') (line cs : List Char) :
    piecesFrom line (c :: cs) = piecesFrom (c :: line) cs := by
  have hcut : (c :: cs).splitOn '\n' = (cs.splitOn '\n').modifyHead (c :: ·) := by
    simp [List.splitOn_eq_splitOnP, List.splitOnP_cons_eq_if_modifyHead, h]
  simp [piecesFrom, hcut, Function.comp_def]

/-- The scan and the cut agree from any place in a line on. -/
theorem linesFrom_eq_piecesFrom (line cs : List Char) :
    linesFrom line cs = piecesFrom line (normalize cs) := by
  fun_induction linesFrom line cs with
  | case1 line h =>
    obtain rfl : line = [] := by simpa using h
    rfl
  | case2 line h =>
    have hline : line ≠ [] := by simpa using h
    simp [normalize, joinPairs, piecesFrom, dropEmptyLast, hline]
  | case3 line cs ih => rw [normalize_pair, piecesFrom_lineFeed, ih]
  | case4 line c cs hpair hc ih =>
    have hfeed : (if c = '\r' then '\n' else c) = '\n' := by
      rcases hc with rfl | rfl <;> rfl
    rw [normalize_cons hpair, hfeed, piecesFrom_lineFeed, ih]
  | case5 line c cs hpair hc ih =>
    obtain ⟨hfeed, hreturn⟩ := not_or.mp hc
    rw [normalize_cons hpair, if_neg hreturn, piecesFrom_plain hfeed, ih]

theorem lines_eq_pieces (s : String) : lines s = pieces s := by
  rw [lines, pieces, linesFrom_eq_piecesFrom, piecesFrom_empty]

/-- The lines of a text are its pieces after every end has become a line feed, without an empty
last one, and none holds a break. Put back between them, the ends of the text give it again. The
other way round, lines and ends put together are found again, whatever they are, as long as no
carriage return meets the line feed of an empty line. -/
theorem lines_found_exactly :
    (∀ s : String, lines s = pieces s ∧ (∀ l ∈ lines s, ∀ c ∈ l.toList, ¬ IsBreak c) ∧
      ∃ y : Layout, y.lines = lines s ∧ y.ends = lineEnds s.toList ∧ y.text = s) ∧
    ∀ y : Layout, lines y.text = y.lines ∧ lineEnds y.text.toList = y.ends := by
  have hends : ∀ y : Layout, lineEnds y.text.toList = y.ends := by
    intro y
    rw [Layout.text, String.toList_ofList]
    exact (scan_layout y).2
  refine ⟨?_, fun y => ⟨lines_text y, hends y⟩⟩
  intro s
  obtain ⟨y, hy⟩ := exists_layout s.toList
  have htext : y.text = s := by rw [Layout.text, hy, String.ofList_toList]
  refine ⟨lines_eq_pieces s, fun l hl => not_isBreak_of_mem_lines hl, y, ?_, ?_, htext⟩
  · rw [← lines_text, htext]
  · rw [← hends, htext]

/-- All three ends, with empty lines between them. -/
theorem lines_found_exactly_mixed :
    let s := "a\r\r\n\n\rb"
    lines s = pieces s ∧ "a" ∈ lines s ∧ (∀ c ∈ "a".toList, ¬ IsBreak c) ∧
      ∃ y : Layout, y.lines = ["a", "", "", "", "b"] ∧
        y.ends = [.carriageReturn, .both, .lineFeed, .carriageReturn] ∧ y.text = s := by
  intro s
  have hlines : lines s = ["a", "", "", "", "b"] := by decide +kernel
  have hends : lineEnds s.toList = [.carriageReturn, .both, .lineFeed, .carriageReturn] := by
    decide +kernel
  have hmem : "a" ∈ lines s := by simp [hlines]
  obtain ⟨hpieces, hplain, y, hy, hye, htext⟩ := lines_found_exactly.1 s
  exact ⟨hpieces, hmem, hplain "a" hmem, y, hy.trans hlines, hye.trans hends, htext⟩

end TraceTally.Text
