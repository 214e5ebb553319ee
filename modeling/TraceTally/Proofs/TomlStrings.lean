import Mathlib
import TraceTally.Toml.Reader

/-! Strings as they are written on one line of a TOML document: with escapes or as they stand,
between single or triple quotes. Each reader takes back what was written and leaves what follows. -/
namespace TraceTally.Toml

variable {c : Char} {ds s t rest : List Char} {unit : Char → List Char → Prop}

/-- The escapes of a character: a letter, or its number in four or in eight digits. -/
inductive Escape (c : Char) : List Char → Prop
  | letter {e : Char} (h : shortEscape? e = some c) : Escape c ['\\', e]
  | four {x₁ x₂ x₃ x₄ : Char} (h : Text.hexValue? [x₁, x₂, x₃, x₄] = some c.toNat) :
      Escape c ['\\', 'u', x₁, x₂, x₃, x₄]
  | eight {x₁ x₂ x₃ x₄ x₅ x₆ x₇ x₈ : Char}
      (h : Text.hexValue? [x₁, x₂, x₃, x₄, x₅, x₆, x₇, x₈] = some c.toNat) :
      Escape c ['\\', 'U', x₁, x₂, x₃, x₄, x₅, x₆, x₇, x₈]

/-- A character of a string with escapes. -/
inductive BasicUnit (c : Char) : List Char → Prop
  | plain (h : isPlain c = true) (hquote : c ≠ '"') (hescape : c ≠ '\\') : BasicUnit c [c]
  | escape {t : List Char} (h : Escape c t) : BasicUnit c t

/-- A character of a string that stands as it is. -/
inductive LiteralUnit (c : Char) : List Char → Prop
  | plain (h : isPlain c = true) (hquote : c ≠ '\'') : LiteralUnit c [c]

/-- Characters written one after the other. -/
inductive Body (unit : Char → List Char → Prop) : List Char → List Char → Prop
  | nil : Body unit [] []
  | cons {c : Char} {t cs ts : List Char} (hc : unit c t) (hcs : Body unit cs ts) :
      Body unit (c :: cs) (t ++ ts)

/-- The same between triple quotes, where up to two quotes may stand in a row. -/
inductive LongBody (quote : Char) (unit : Char → List Char → Prop) :
    List Char → List Char → Prop
  | last {n : Nat} (hn : n ≤ 2) :
      LongBody quote unit (List.replicate n quote) (List.replicate n quote)
  | cons {n : Nat} {c : Char} {t cs ts : List Char} (hn : n ≤ 2) (hc : unit c t)
      (hcs : LongBody quote unit cs ts) :
      LongBody quote unit (List.replicate n quote ++ c :: cs) (List.replicate n quote ++ (t ++ ts))

/-- A string and a way to write it on one line. -/
inductive StringText (s : List Char) : List Char → Prop
  | basic {t : List Char} (h : Body BasicUnit s t) : StringText s ('"' :: (t ++ ['"']))
  | literal {t : List Char} (h : Body LiteralUnit s t) : StringText s ('\'' :: (t ++ ['\'']))
  | longBasic {t : List Char} (h : LongBody '"' BasicUnit s t) :
      StringText s ('"' :: '"' :: '"' :: (t ++ ['"', '"', '"']))
  | longLiteral {t : List Char} (h : LongBody '\'' LiteralUnit s t) :
      StringText s ('\'' :: '\'' :: '\'' :: (t ++ ['\'', '\'', '\'']))

theorem hexChar?_of_hexValue? (h : Text.hexValue? ds = some c.toNat) : hexChar? ds = some c := by
  have hvalid : c.toNat.isValidChar := c.valid
  simp [hexChar?, h, hvalid, Char.ofNat_toNat]

/-- A letter of an escape starts no longer one, and no line ends at it. -/
theorem shortEscape?_letter {e : Char} (h : shortEscape? e = some c) :
    e ≠ 'u' ∧ e ≠ 'U' ∧ ∀ cs, lineIsBlank (e :: cs) = false := by
  unfold shortEscape? at h
  split at h
  case h_8 => cases h
  all_goals exact ⟨by decide, by decide, fun cs => rfl⟩

namespace Escape

theorem head (h : Escape c t) : ∃ ts, t = '\\' :: ts := by
  cases h <;> exact ⟨_, rfl⟩

theorem readBasic (h : Escape c t) (rest : List Char) :
    readBasic (t ++ rest) = (readBasic rest).map (Text.prepend c) := by
  cases h with
  | letter h =>
    obtain ⟨hu, hU, -⟩ := shortEscape?_letter h
    simp [Toml.readBasic, h, hu, hU]
  | four h => simp [Toml.readBasic, hexChar?_of_hexValue? h]
  | eight h => simp [Toml.readBasic, hexChar?_of_hexValue? h]

theorem readMultiBasic (h : Escape c t) (rest : List Char) :
    readMultiBasic false (t ++ rest) = (readMultiBasic false rest).map (Text.prepend c) := by
  cases h with
  | letter h =>
    obtain ⟨hu, hU, hblank⟩ := shortEscape?_letter h
    simp [Toml.readMultiBasic, h, hu, hU, hblank]
  | four h => simp [Toml.readMultiBasic, hexChar?_of_hexValue? h]
  | eight h => simp [Toml.readMultiBasic, hexChar?_of_hexValue? h]

end Escape

theorem ne_lineFeed_of_isPlain (h : isPlain c = true) : c ≠ '\n' := by
  rintro rfl
  cases h

theorem ne_return_of_isPlain (h : isPlain c = true) : c ≠ '\r' := by
  rintro rfl
  cases h

namespace BasicUnit

theorem head (h : BasicUnit c t) : ∃ x ts, t = x :: ts ∧ x ≠ '"' ∧ x ≠ '\n' ∧ x ≠ '\r' := by
  cases h with
  | plain h hquote _ =>
    exact ⟨c, [], rfl, hquote, ne_lineFeed_of_isPlain h, ne_return_of_isPlain h⟩
  | escape h =>
    obtain ⟨ts, rfl⟩ := h.head
    exact ⟨'\\', ts, rfl, by decide⟩

theorem readBasic (h : BasicUnit c t) (rest : List Char) :
    readBasic (t ++ rest) = (readBasic rest).map (Text.prepend c) := by
  cases h with
  | plain h hquote hescape => simp [Toml.readBasic, h, hescape]
  | escape h => exact h.readBasic rest

theorem readMultiBasic (h : BasicUnit c t) (rest : List Char) :
    readMultiBasic false (t ++ rest) = (readMultiBasic false rest).map (Text.prepend c) := by
  cases h with
  | plain h hquote hescape =>
    simp [Toml.readMultiBasic, h, hquote, hescape, ne_return_of_isPlain h]
  | escape h => exact h.readMultiBasic rest

end BasicUnit

namespace LiteralUnit

theorem head (h : LiteralUnit c t) :
    ∃ x ts, t = x :: ts ∧ x ≠ '\'' ∧ x ≠ '\n' ∧ x ≠ '\r' := by
  cases h with
  | plain h hquote =>
    exact ⟨c, [], rfl, hquote, ne_lineFeed_of_isPlain h, ne_return_of_isPlain h⟩

theorem readLiteral (h : LiteralUnit c t) (rest : List Char) :
    readLiteral (t ++ rest) = (readLiteral rest).map (Text.prepend c) := by
  cases h with
  | plain h hquote => simp [Toml.readLiteral, h]

theorem readMultiLiteral (h : LiteralUnit c t) (rest : List Char) :
    readMultiLiteral (t ++ rest) = (readMultiLiteral rest).map (Text.prepend c) := by
  cases h with
  | plain h hquote => simp [Toml.readMultiLiteral, h, hquote, ne_return_of_isPlain h]

end LiteralUnit

/-- A reader of strings that takes one written character at a time. -/
structure ReadsUnits (quote : Char) (unit : Char → List Char → Prop)
    (read : List Char → Option (List Char × List Char)) : Prop where
  head : ∀ {c t}, unit c t → ∃ x ts, t = x :: ts ∧ x ≠ quote ∧ x ≠ '\n' ∧ x ≠ '\r'
  unit : ∀ {c t}, unit c t → ∀ rest, read (t ++ rest) = (read rest).map (Text.prepend c)

/-- It stops at the first quote. -/
structure ReadsBody (quote : Char) (unit : Char → List Char → Prop)
    (read : List Char → Option (List Char × List Char)) : Prop
    extends ReadsUnits quote unit read where
  close : ∀ rest, read (quote :: rest) = some ([], rest)

/-- It stops at three quotes in a row and takes one or two as they are. -/
structure ReadsLongBody (quote : Char) (unit : Char → List Char → Prop)
    (read : List Char → Option (List Char × List Char)) : Prop
    extends ReadsUnits quote unit read where
  close : ∀ rest, read (quote :: quote :: quote :: rest) = some (closing quote rest)
  one : ∀ {x} rest, x ≠ quote →
    read (quote :: x :: rest) = (read (x :: rest)).map (Text.prepend quote)
  two : ∀ {x} rest, x ≠ quote →
    read (quote :: quote :: x :: rest) = (read (quote :: x :: rest)).map (Text.prepend quote)

theorem readsBody_readBasic : ReadsBody '"' BasicUnit readBasic where
  head h := h.head
  unit h := h.readBasic
  close _ := rfl

theorem readsBody_readLiteral : ReadsBody '\'' LiteralUnit readLiteral where
  head h := h.head
  unit h := h.readLiteral
  close _ := rfl

theorem readsLongBody_readMultiBasic :
    ReadsLongBody '"' BasicUnit (readMultiBasic false) where
  head h := h.head
  unit h := h.readMultiBasic
  close rest := by simp [readMultiBasic]
  one rest hx := by simp [readMultiBasic, hx, isPlain]
  two rest hx := by simp [readMultiBasic, hx, isPlain]

theorem readsLongBody_readMultiLiteral :
    ReadsLongBody '\'' LiteralUnit readMultiLiteral where
  head h := h.head
  unit h := h.readMultiLiteral
  close rest := by simp [readMultiLiteral]
  one rest hx := by simp [readMultiLiteral, hx, isPlain]
  two rest hx := by simp [readMultiLiteral, hx, isPlain]

variable {quote : Char} {read : List Char → Option (List Char × List Char)} {n : Nat}

theorem ReadsBody.body (hr : ReadsBody quote unit read) (h : Body unit s t) (rest : List Char) :
    read (t ++ quote :: rest) = some (s, rest) := by
  induction h with
  | nil => exact hr.close rest
  | cons hc _ ih =>
    rw [List.append_assoc, hr.unit hc, ih]
    rfl

/-- Quotes behind the three that close a string belong to it, if there are no more than two. -/
theorem closing_replicate (hn : n ≤ 2) (hrest : ∀ c ∈ rest.head?, c ≠ quote) :
    closing quote (List.replicate n quote ++ rest) = (List.replicate n quote, rest) := by
  obtain rfl | rfl | rfl : n = 0 ∨ n = 1 ∨ n = 2 := by omega
  · cases rest with
    | nil => rfl
    | cons c rest => cases rest <;> simp [closing, hrest c rfl]
  · cases rest with
    | nil => simp [closing]
    | cons c rest => simp [closing, hrest c rfl]
  · simp [closing, List.replicate_succ]

namespace ReadsLongBody

theorem quotes (hr : ReadsLongBody quote unit read) (hn : n ≤ 2) (hc : c ≠ quote)
    (rest : List Char) : read (List.replicate n quote ++ c :: rest) =
      (read (c :: rest)).map fun r => (List.replicate n quote ++ r.1, r.2) := by
  obtain rfl | rfl | rfl : n = 0 ∨ n = 1 ∨ n = 2 := by omega
  · simp
  · exact hr.one rest hc
  · change read (quote :: quote :: c :: rest) = _
    rw [hr.two rest hc, hr.one rest hc, Option.map_map]
    rfl

theorem body (hr : ReadsLongBody quote unit read) (h : LongBody quote unit s t)
    (hrest : ∀ c ∈ rest.head?, c ≠ quote) :
    read (t ++ quote :: quote :: quote :: rest) = some (s, rest) := by
  induction h with
  | @last n hn =>
    -- The first three quotes close the string, wherever its own quotes were meant to end.
    have hmove : List.replicate n quote ++ quote :: quote :: quote :: rest =
        quote :: quote :: quote :: (List.replicate n quote ++ rest) := by
      obtain rfl | rfl | rfl : n = 0 ∨ n = 1 ∨ n = 2 := by omega
      · rfl
      · rfl
      · rfl
    rw [hmove, hr.close, closing_replicate hn hrest]
  | @cons n c t cs ts hn hc _ ih =>
    obtain ⟨x, xs, rfl, hx, -⟩ := hr.head hc
    have hunit := hr.unit hc (ts ++ quote :: quote :: quote :: rest)
    rw [ih] at hunit
    rw [List.append_assoc, List.append_assoc, List.cons_append, hr.quotes hn hx,
      ← List.cons_append, hunit]
    rfl

/-- No line ends right behind the opening quotes. -/
theorem dropNewline_body (hr : ReadsLongBody quote unit read) (h : LongBody quote unit s t)
    (hn : quote ≠ '\n') (hret : quote ≠ '\r') (rest : List Char) :
    dropNewline (t ++ quote :: rest) = t ++ quote :: rest := by
  have hhead : ∃ x xs, t ++ quote :: rest = x :: xs ∧ x ≠ '\n' ∧ x ≠ '\r' := by
    cases h with
    | @last n _ =>
      cases n with
      | zero => exact ⟨quote, rest, rfl, hn, hret⟩
      | succ n => exact ⟨quote, _, rfl, hn, hret⟩
    | @cons n c t cs ts _ hc _ =>
      obtain ⟨x, xs, rfl, -, hx⟩ := hr.head hc
      cases n with
      | zero => exact ⟨x, _, rfl, hx⟩
      | succ n => exact ⟨quote, _, rfl, hn, hret⟩
  obtain ⟨x, xs, htext, hfeed, hreturn⟩ := hhead
  simp [dropNewline, htext, afterNewline?, hfeed, hreturn]

end ReadsLongBody

/-- No string goes on with `rest`. -/
def EndsString (rest : List Char) : Prop := ∀ c ∈ rest.head?, c ≠ '"' ∧ c ≠ '\''

/-- A string with single quotes does not start like one with triple quotes. -/
theorem ReadsBody.not_triple (hr : ReadsBody quote unit read) (h : Body unit s t)
    (hrest : ∀ c ∈ rest.head?, c ≠ quote) (cs : List Char) :
    t ++ quote :: rest ≠ quote :: quote :: cs := by
  cases h with
  | nil =>
    cases rest with
    | nil => simp
    | cons c rest => simp [hrest c rfl]
  | cons hc _ =>
    obtain ⟨x, xs, rfl, hx, -⟩ := hr.head hc
    simp [hx]

theorem readString_text (h : StringText s t) (hrest : EndsString rest) :
    readString (t ++ rest) = some (s, rest) := by
  have hdouble : ∀ c ∈ rest.head?, c ≠ '"' := fun c hc => (hrest c hc).1
  have hsingle : ∀ c ∈ rest.head?, c ≠ '\'' := fun c hc => (hrest c hc).2
  cases h with
  | @basic t h =>
    have hread := readsBody_readBasic.body h rest
    have htriple := readsBody_readBasic.not_triple h hdouble
    simp only [List.cons_append, List.append_assoc, List.nil_append]
    rw [readString]
    · exact hread
    · exact fun cs => htriple cs
  | @literal t h =>
    have hread := readsBody_readLiteral.body h rest
    have htriple := readsBody_readLiteral.not_triple h hsingle
    simp only [List.cons_append, List.append_assoc, List.nil_append]
    rw [readString]
    · exact hread
    · exact fun cs => htriple cs
  | @longBasic t h =>
    have hread := readsLongBody_readMultiBasic.body h hdouble
    simp only [List.cons_append, List.append_assoc, List.nil_append]
    rw [readString, readsLongBody_readMultiBasic.dropNewline_body h (by decide) (by decide)]
    exact hread
  | @longLiteral t h =>
    have hread := readsLongBody_readMultiLiteral.body h hsingle
    simp only [List.cons_append, List.append_assoc, List.nil_append]
    rw [readString, readsLongBody_readMultiLiteral.dropNewline_body h (by decide) (by decide)]
    exact hread

theorem StringText.head (h : StringText s t) : ∃ x xs, t = x :: xs ∧ (x = '"' ∨ x = '\'') := by
  cases h with
  | basic _ => exact ⟨_, _, rfl, Or.inl rfl⟩
  | literal _ => exact ⟨_, _, rfl, Or.inr rfl⟩
  | longBasic _ => exact ⟨_, _, rfl, Or.inl rfl⟩
  | longLiteral _ => exact ⟨_, _, rfl, Or.inr rfl⟩

theorem readValue_text (h : StringText s t) (hrest : EndsString rest) (depth : Nat) :
    readValue depth (t ++ rest) = some (.string (String.ofList s), rest) := by
  have hread := readString_text h hrest
  obtain ⟨x, xs, rfl, hx⟩ := h.head
  rw [List.cons_append] at hread ⊢
  unfold readValue
  simp [hx, hread]

theorem basicUnit_basicChar (c : Char) : BasicUnit c (basicChar c) := by
  by_cases hquote : c = '"'
  · subst hquote
    exact .escape (.letter rfl)
  · by_cases hescape : c = '\\'
    · subst hescape
      exact .escape (.letter rfl)
    · by_cases hcontrol : c.toNat < 0x20 ∨ c.toNat = 0x7f
      · rw [basicChar, if_neg hquote, if_neg hescape, if_pos hcontrol]
        exact .escape (.four (Text.hexValue?_control c.toNat (by omega)))
      · rw [basicChar, if_neg hquote, if_neg hescape, if_neg hcontrol]
        refine .plain ?_ hquote hescape
        simp only [isPlain, Bool.or_eq_true, Bool.and_eq_true, decide_eq_true_eq]
        omega

/-- Every string can be written. -/
theorem stringText_basicString (s : String) : StringText s.toList (basicString s).toList := by
  have hbody : Body BasicUnit s.toList (s.toList.flatMap basicChar) := by
    induction s.toList with
    | nil => exact .nil
    | cons c cs ih => exact .cons (basicUnit_basicChar c) ih
  rw [basicString, String.toList_ofList]
  exact .basic hbody

end TraceTally.Toml
