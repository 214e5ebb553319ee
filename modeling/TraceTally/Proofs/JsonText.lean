import Mathlib
import TraceTally.Json.Printer
import TraceTally.Json.Reader

/-! The parts of JSON text that hold no others: blanks, strings and numbers. Each reader takes back
exactly what the printer wrote and leaves what follows. -/
namespace TraceTally.Json

variable {c : Char} {cs rest : List Char} {ps : List Part} {n : Nat}

/-- No number goes on with `cs`. -/
def Ends (cs : List Char) : Prop :=
  ∀ c ∈ cs.head?, c.isDigit = false ∧ c ≠ '.' ∧ c ≠ 'e' ∧ c ≠ 'E'

theorem ends_of_isBlank (h : ∀ c ∈ cs, isBlank c = true) : Ends cs := by
  intro c hc
  have hb := h c (List.mem_of_mem_head? hc)
  simp only [isBlank, Bool.or_eq_true, decide_eq_true_eq] at hb
  rcases hb with ((rfl | rfl) | rfl) | rfl <;> decide

theorem ends_newline (depth : Nat) (cs : List Char) : Ends (newline depth ++ cs) := by
  intro c hc
  obtain rfl : '\n' = c := by simpa [newline] using hc
  decide

theorem ends_comma (cs : List Char) : Ends (',' :: cs) := by
  intro c hc
  obtain rfl : ',' = c := by simpa using hc
  decide

theorem skipBlanks_cons (h : isBlank c = false) : skipBlanks (c :: cs) = c :: cs := by
  simp [skipBlanks, h]

theorem isBlank_of_mem_newline {depth : Nat} (h : c ∈ newline depth) : isBlank c = true := by
  rw [newline, List.mem_cons, List.mem_replicate] at h
  obtain rfl | ⟨-, rfl⟩ := h <;> rfl

theorem skipBlanks_newline (depth : Nat) (cs : List Char) :
    skipBlanks (newline depth ++ cs) = skipBlanks cs :=
  List.dropWhile_append_of_pos fun _ => isBlank_of_mem_newline

/-- A character is written by a letter, by its number or as it is. -/
theorem escapeChar_cases (c : Char) :
    (∃ e, escapeChar c = ['\\', e] ∧ shortEscape? e = some c ∧ e ≠ 'u') ∨
      (c.toNat < 0x20 ∧ escapeChar c =
        ['\\', 'u', '0', '0', Nat.digitChar (c.toNat / 16), Nat.digitChar (c.toNat % 16)]) ∨
      (0x20 ≤ c.toNat ∧ c ≠ '"' ∧ c ≠ '\\' ∧ escapeChar c = [c]) := by
  by_cases hc : c ∈ ['"', '\\', '\x08', '\t', '\n', '\x0c', '\r']
  · simp only [List.mem_cons, List.not_mem_nil, or_false] at hc
    rcases hc with rfl | rfl | rfl | rfl | rfl | rfl | rfl <;>
      exact Or.inl ⟨_, rfl, rfl, by simp⟩
  · simp only [List.mem_cons, List.not_mem_nil, or_false, not_or] at hc
    by_cases hn : c.toNat < 0x20
    · exact Or.inr (Or.inl ⟨hn, by simp [escapeChar, hc, hn]⟩)
    · exact Or.inr (Or.inr ⟨by omega, hc.1, hc.2.1, by simp [escapeChar, hc, hn]⟩)

/-- The part that is read where a character was written. -/
def partOf (c : Char) : Part :=
  if (escapeChar c).length = 6 then .unit c.toNat else .char c

theorem readParts_escapeChar (c : Char) (cs : List Char) :
    readParts (escapeChar c ++ cs) = (readParts cs).map (Text.prepend (partOf c)) := by
  obtain ⟨e, hc, he, hu⟩ | ⟨hn, hc⟩ | ⟨hn, hq, hb, hc⟩ := escapeChar_cases c
  · simp [partOf, hc, readParts, he, hu]
  · simp [partOf, hc, readParts, Text.hexValue?_control c.toNat (by omega)]
  · simp [partOf, hc, readParts, hn, hb]

theorem readParts_quote (cs rest : List Char) :
    readParts (cs.flatMap escapeChar ++ '"' :: rest) = some (cs.map partOf, rest) := by
  induction cs with
  | nil => rfl
  | cons c cs ih =>
    rw [List.flatMap_cons, List.append_assoc, readParts_escapeChar, ih]
    rfl

/-- A unit that is no surrogate stands for itself. -/
theorem decodeParts_unit (h : n < 0x20) (ps : List Part) :
    decodeParts (.unit n :: ps) = (Char.ofNat n :: ·) <$> decodeParts ps := by
  have hh : isHighSurrogate n = false := by simp [isHighSurrogate]; omega
  have hl : isLowSurrogate n = false := by simp [isLowSurrogate]; omega
  cases ps with
  | nil => simp [decodeParts, hh, hl]
  | cons p ps => cases p <;> simp [decodeParts, hh, hl]

theorem decodeParts_partOf (c : Char) (ps : List Part) :
    decodeParts (partOf c :: ps) = (c :: ·) <$> decodeParts ps := by
  obtain ⟨e, hc, -, -⟩ | ⟨hn, hc⟩ | ⟨-, -, -, hc⟩ := escapeChar_cases c
  · simp [partOf, hc, decodeParts]
  · simp [partOf, hc, decodeParts_unit hn]
  · simp [partOf, hc, decodeParts]

theorem decodeParts_map_partOf (cs : List Char) : decodeParts (cs.map partOf) = some cs := by
  induction cs with
  | nil => rfl
  | cons c cs ih =>
    rw [List.map_cons, decodeParts_partOf, ih]
    rfl

theorem quote_eq (s : String) (rest : List Char) :
    quote s ++ rest = '"' :: (s.toList.flatMap escapeChar ++ '"' :: rest) := by
  simp [quote]

theorem readString_quote (s : String) (rest : List Char) :
    readString (s.toList.flatMap escapeChar ++ '"' :: rest) = some (some s, rest) := by
  simp [readString, readParts_quote, decodeParts_map_partOf]

/-- A run of digits is read up to its end. -/
theorem readDigits_append {ds : List Char} (hd : ∀ c ∈ ds, c.isDigit = true) (hne : ds ≠ [])
    (h : Ends rest) : readDigits (ds ++ rest) = some (ds, rest) := by
  have hrest : rest.takeWhile Char.isDigit = [] ∧ rest.dropWhile Char.isDigit = rest := by
    cases rest with
    | nil => exact ⟨rfl, rfl⟩
    | cons c cs => simp [(h c rfl).1]
  have hspan : (ds ++ rest).span Char.isDigit = (ds, rest) := by
    rw [List.span_eq_takeWhile_dropWhile, List.takeWhile_append_of_pos hd,
      List.dropWhile_append_of_pos hd, hrest.1, hrest.2, List.append_nil]
  rw [readDigits, hspan]
  cases ds with
  | nil => exact (hne rfl).elim
  | cons d ds => rfl

theorem skipFraction_of_ends (h : Ends rest) : skipFraction rest = some (false, rest) := by
  cases rest with
  | nil => rfl
  | cons c cs =>
    have hc := (h c rfl).2.1
    simp [skipFraction, hc]

theorem skipExponent_of_ends (h : Ends rest) : skipExponent rest = some (false, rest) := by
  cases rest with
  | nil => rfl
  | cons c cs =>
    have hc := (h c rfl).2.2
    simp [skipExponent, hc]

theorem isDigit_toDigits (n : Nat) : ∀ c ∈ Nat.toDigits 10 n, c.isDigit = true :=
  fun _ => Nat.isDigit_of_mem_toDigits (by omega) (by omega)

theorem toDigits_eq_cons (n : Nat) : ∃ c cs, Nat.toDigits 10 n = c :: cs ∧ c.isDigit = true := by
  cases h : Nat.toDigits 10 n with
  | nil => exact (Nat.toDigits_ne_nil h).elim
  | cons c cs => exact ⟨c, cs, rfl, isDigit_toDigits n c (by simp [h])⟩

theorem hexDigit?_of_isDigit (h : c.isDigit = true) :
    Text.hexDigit? c = some (c.toNat - '0'.toNat) := by
  have hc : '0' ≤ c ∧ c ≤ '9' := Char.isDigit_iff_toNat.mp h
  rw [Text.hexDigit?, if_pos hc]

theorem digitsValue_toDigits (n : Nat) : Text.digitsValue 10 (Nat.toDigits 10 n) = n := by
  have hfold : ∀ (ds : List Char) (m : Nat), (∀ c ∈ ds, c.isDigit = true) →
      ds.foldl (fun n c => 10 * n + (Text.hexDigit? c).getD 0) m = Nat.ofDigitChars 10 ds m := by
    intro ds
    induction ds with
    | nil => simp
    | cons d ds ih =>
      intro m hd
      rw [List.foldl_cons, Nat.ofDigitChars_cons, hexDigit?_of_isDigit (hd d (by simp))]
      exact ih _ fun c hc => hd c (by simp [hc])
  rw [Text.digitsValue, hfold _ _ (isDigit_toDigits n)]
  exact Nat.ofDigitChars_ten_toDigits

/-- Only zero is written with a zero in front. -/
theorem head?_toDigits (h : 0 < n) : (Nat.toDigits 10 n).head? ≠ some '0' := by
  induction n using Nat.strongRecOn with
  | ind n ih =>
    rw [Nat.toDigits_eq_if (by omega)]
    split
    · rename_i hn
      have hdigit : ∀ m < 10, 0 < m → Nat.digitChar m ≠ '0' := by decide
      simpa using hdigit n hn h
    · rename_i hn
      have hhead := ih (n / 10) (by omega) (by omega)
      rw [List.head?_append]
      cases hd : Nat.toDigits 10 (n / 10) with
      | nil => exact (Nat.toDigits_ne_nil hd).elim
      | cons d ds => simpa [hd] using hhead

theorem readNumber_toDigits (negative : Bool) (n : Nat) (h : Ends rest) :
    readNumber negative (Nat.toDigits 10 n ++ rest) = some (integer negative n, rest) := by
  have hd := readDigits_append (isDigit_toDigits n) Nat.toDigits_ne_nil h
  have hzero : (Nat.toDigits 10 n).head? ≠ some '0' ∨ (Nat.toDigits 10 n).length = 1 := by
    obtain rfl | hn := Nat.eq_zero_or_pos n
    · exact Or.inr rfl
    · exact Or.inl (head?_toDigits hn)
  simp [readNumber, hd, hzero, skipFraction_of_ends h, skipExponent_of_ends h,
    digitsValue_toDigits, guard]

/-- A fraction is passed over. -/
theorem readNumber_real (h : Ends rest) :
    readNumber false ('0' :: '.' :: '0' :: rest) = some (real, rest) := by
  have hd : readDigits (['0'] ++ rest) = some (['0'], rest) :=
    readDigits_append (List.forall_mem_singleton.mpr rfl) (by simp) h
  rw [List.singleton_append] at hd
  have hint : readDigits ('0' :: '.' :: '0' :: rest) = some (['0'], '.' :: '0' :: rest) := rfl
  simp [readNumber, hint, skipFraction, hd, skipExponent_of_ends h, guard]

end TraceTally.Json
