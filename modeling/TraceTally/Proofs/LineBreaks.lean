import Mathlib
import TraceTally.Text.Lines

/-! Line breaks. No line holds one, and lines without one come back from their text. -/
namespace TraceTally.Text

variable {cs line : List Char} {s : String} {ls : List String}

/-- A line feed or a carriage return. -/
def IsBreak (c : Char) : Prop := c = '\n' ∨ c = '\r'

instance (c : Char) : Decidable (IsBreak c) := inferInstanceAs (Decidable (_ ∨ _))

theorem not_isBreak_of_isDigit {c : Char} (h : c.isDigit = true) : ¬ IsBreak c := by
  rintro (rfl | rfl) <;> cases h

theorem not_isBreak_of_mem_linesFrom (hline : ∀ c ∈ line, ¬ IsBreak c) :
    ∀ l ∈ linesFrom line cs, ∀ c ∈ l, ¬ IsBreak c := by
  fun_induction linesFrom line cs with
  | case1 => simp
  | case2 line hne => simpa using hline
  | case3 line cs ih => simpa using ⟨hline, ih (by simp)⟩
  | case4 line c cs _ hc ih => simpa using ⟨hline, ih (by simp)⟩
  | case5 line c cs _ hc ih => exact ih (by simpa using ⟨hc, hline⟩)

/-- No line of a text holds a line break. -/
theorem not_isBreak_of_mem_lines {l : String} (h : l ∈ lines s) :
    ∀ c ∈ l.toList, ¬ IsBreak c := by
  obtain ⟨cs, hcs, rfl⟩ := List.mem_map.mp h
  rw [String.toList_ofList]
  exact not_isBreak_of_mem_linesFrom (by simp) cs hcs

theorem linesFrom_plain {l : List Char} (hl : ∀ c ∈ l, ¬ IsBreak c) (line cs : List Char) :
    linesFrom line (l ++ cs) = linesFrom (l.reverse ++ line) cs := by
  induction l generalizing line with
  | nil => rfl
  | cons c l ih =>
    have hc : c ≠ '\n' ∧ c ≠ '\r' := not_or.mp (hl c (by simp))
    have hrest := ih (fun d hd => hl d (List.mem_cons_of_mem c hd)) (c :: line)
    simp [linesFrom, hc, hrest]

theorem linesFrom_append {l : List Char} (hl : ∀ c ∈ l, ¬ IsBreak c) (line cs : List Char) :
    linesFrom line (l ++ '\n' :: cs) = (line.reverse ++ l) :: linesFrom [] cs := by
  rw [linesFrom_plain hl]
  simp [linesFrom]

/-- Lines without line breaks are the lines of their text, empty ones included. -/
theorem lines_unlines (h : ∀ l ∈ ls, ∀ c ∈ l.toList, ¬ IsBreak c) : lines (unlines ls) = ls := by
  induction ls with
  | nil => rfl
  | cons l ls ih =>
    have hrest := ih fun l' hl' => h l' (List.mem_cons_of_mem l hl')
    have htext : (unlines (l :: ls)).toList = l.toList ++ '\n' :: (unlines ls).toList := by
      simp [unlines]
    rw [lines, htext, linesFrom_append (h l (by simp)), List.map_cons]
    simpa [lines] using hrest

theorem length_linesFrom_le (line cs : List Char) :
    (linesFrom line cs).length ≤ line.length + cs.length := by
  fun_induction linesFrom line cs with
  | case1 => simp
  | case2 line hne =>
    have hpos : 0 < line.length := List.length_pos_of_ne_nil (by simpa using hne)
    simp only [List.length_cons, List.length_nil]
    omega
  | case3 line cs ih =>
    simp only [List.length_cons, List.length_nil] at ih ⊢
    omega
  | case4 line c cs _ hc ih =>
    simp only [List.length_cons, List.length_nil] at ih ⊢
    omega
  | case5 line c cs _ hc ih =>
    simp only [List.length_cons] at ih ⊢
    omega

theorem length_lines_le (s : String) : (lines s).length ≤ s.length := by
  simpa [lines, String.length_toList] using length_linesFrom_le [] s.toList

end TraceTally.Text
