import Mathlib
import TraceTally.Error

/-! The texts of errors about durations. Whatever stood in the trace, such a text is one line of
visible characters, and what the error is about can be read off it. -/
namespace TraceTally

namespace Text

variable {bad hidden : Char → Bool} {c : Char} {cs : List Char} {n : Nat}

/-- Control characters: those of Unicode's category Cc, all line ends of ASCII among them. -/
def isControl (c : Char) : Bool := c.toNat < 0x20 || (0x7f ≤ c.toNat && c.toNat ≤ 0x9f)

def isVisibleAscii (c : Char) : Bool := 0x20 ≤ c.toNat && c.toNat < 0x7f

/-- Every visible character of ASCII is outside the class. -/
def SparesAscii (bad : Char → Bool) : Prop := ∀ c, isVisibleAscii c = true → bad c = false

/-- What a quoted text stands for, if nothing follows its closing quote. -/
def unquote? (s : String) : Option String :=
  match s.toList with
  | '"' :: cs =>
    match readQuoted .plain cs with
    | some (value, []) => some (String.ofList value)
    | _ => none
  | _ => none

theorem sparesAscii_isControl : SparesAscii isControl := by
  intro c hc
  simp only [isVisibleAscii, Bool.and_eq_true, decide_eq_true_eq] at hc
  simp only [isControl, Bool.or_eq_false_iff, Bool.and_eq_false_iff, decide_eq_false_iff_not]
  omega

theorem sparesAscii_isUnprintable : SparesAscii isUnprintable := by
  intro c hc
  simp only [isVisibleAscii, Bool.and_eq_true, decide_eq_true_eq] at hc
  have hranges : ∀ r ∈ unprintableRanges, r.2 < 0x20 ∨ 0x7f ≤ r.1 := by decide +kernel
  rw [isUnprintable, List.any_eq_false]
  intro r hr
  have hrange := hranges r hr
  simp only [Bool.and_eq_true, decide_eq_true_eq, not_and]
  omega

theorem isUnprintable_of_isControl (h : isControl c = true) : isUnprintable c = true := by
  simp only [isControl, Bool.or_eq_true, Bool.and_eq_true, decide_eq_true_eq] at h
  rw [isUnprintable, List.any_eq_true]
  rcases h with hlow | ⟨hlow, hhigh⟩
  · refine ⟨(0x0, 0x1f), by decide, ?_⟩
    simp only [Bool.and_eq_true, decide_eq_true_eq]
    omega
  · refine ⟨(0x7f, 0xa0), by decide, ?_⟩
    simp only [Bool.and_eq_true, decide_eq_true_eq]
    omega

theorem SparesAscii.of_all (h : SparesAscii bad) (hcs : cs.all isVisibleAscii = true) :
    ∀ c ∈ cs, bad c = false :=
  fun c hc => h c (List.all_eq_true.mp hcs c hc)

theorem hexDigit?_digitChar : ∀ d < 16, hexDigit? (Nat.digitChar d) = some d := by decide

theorem isVisibleAscii_digitChar : ∀ d < 16, isVisibleAscii (Nat.digitChar d) = true := by decide

theorem digitChar_ne_brace : ∀ d < 16, Nat.digitChar d ≠ '\x7d' := by decide

theorem exists_of_mem_toDigits (h : c ∈ Nat.toDigits 16 n) : ∃ d < 16, c = Nat.digitChar d := by
  induction n using Nat.strongRecOn with
  | ind n ih =>
    rw [Nat.toDigits_eq_if (by omega)] at h
    split at h
    · rename_i hn
      exact ⟨n, hn, by simpa using h⟩
    · rename_i hn
      rcases List.mem_append.mp h with hfront | hlast
      · exact ih (n / 16) (by omega) hfront
      · exact ⟨n % 16, by omega, by simpa using hlast⟩

/-- A character is written by a letter behind a backslash, by its number, or as it is. -/
theorem quotedChar_cases (hidden : Char → Bool) (c : Char) :
    (∃ e, quotedChar hidden c = ['\\', e] ∧ quotedEscape? e = some c ∧ e ≠ 'u' ∧
      isVisibleAscii e = true) ∨
    (quotedChar hidden c = '\\' :: 'u' :: '\x7b' :: Nat.toDigits 16 c.toNat ++ ['\x7d']) ∨
    (quotedChar hidden c = [c] ∧ c ≠ '"' ∧ c ≠ '\\' ∧ hidden c = false) := by
  by_cases hc : c ∈ ['"', '\\', '\x00', '\t', '\n', '\r']
  · simp only [List.mem_cons, List.not_mem_nil, or_false] at hc
    rcases hc with rfl | rfl | rfl | rfl | rfl | rfl <;>
      exact Or.inl ⟨_, rfl, rfl, by decide⟩
  · simp only [List.mem_cons, List.not_mem_nil, or_false, not_or] at hc
    by_cases hh : hidden c = true
    · exact Or.inr (Or.inl (by simp [quotedChar, hc, hh]))
    · exact Or.inr (Or.inr ⟨by simp [quotedChar, hc, hh], hc.1, hc.2.1, by simpa using hh⟩)

theorem not_mem_quotedChar (hb : SparesAscii bad) (hh : ∀ c, bad c = true → hidden c = true) :
    ∀ x ∈ quotedChar hidden c, bad x = false := by
  rcases quotedChar_cases hidden c with ⟨e, hc, -, -, he⟩ | hc | ⟨hc, -, -, hshown⟩
  · rw [hc]
    apply hb.of_all
    simpa using ⟨by decide, he⟩
  · have hdigits : (Nat.toDigits 16 c.toNat).all isVisibleAscii = true := by
      rw [List.all_eq_true]
      intro x hx
      obtain ⟨d, hd, rfl⟩ := exists_of_mem_toDigits hx
      exact isVisibleAscii_digitChar d hd
    rw [hc]
    apply hb.of_all
    simp only [List.cons_append, List.all_cons, List.all_append, hdigits]
    decide
  · rw [hc]
    intro x hx
    obtain rfl := List.mem_singleton.mp hx
    by_contra hbad
    simp [hh x (by simpa using hbad)] at hshown

/-- Quoting leaves no character of the class standing. -/
theorem not_mem_quotedWith (hb : SparesAscii bad) (hh : ∀ c, bad c = true → hidden c = true)
    (s : String) : ∀ x ∈ (quotedWith hidden s).toList, bad x = false := by
  intro x hx
  simp only [quotedWith, String.toList_ofList, List.cons_append, List.mem_cons, List.mem_append,
    List.mem_flatMap, List.not_mem_nil, or_false] at hx
  rcases hx with rfl | ⟨c, -, hx⟩ | rfl
  · exact hb _ (by decide)
  · exact not_mem_quotedChar hb hh x hx
  · exact hb _ (by decide)

theorem readQuoted_digitChar {d : Nat} (hd : d < 16) (m : Nat) (rest : List Char) :
    readQuoted (.hex m) (Nat.digitChar d :: rest) = readQuoted (.hex (16 * m + d)) rest := by
  simp [readQuoted, digitChar_ne_brace d hd, hexDigit?_digitChar d hd]

/-- The digits of a number are read to the number. -/
theorem readQuoted_toDigits (n : Nat) (rest : List Char) :
    readQuoted (.hex 0) (Nat.toDigits 16 n ++ rest) = readQuoted (.hex n) rest := by
  induction n using Nat.strongRecOn generalizing rest with
  | ind n ih =>
    rw [Nat.toDigits_eq_if (by omega)]
    split
    · rename_i hn
      rw [List.singleton_append, readQuoted_digitChar hn, Nat.mul_zero, Nat.zero_add]
    · rename_i hn
      rw [List.append_assoc, ih (n / 16) (by omega), List.singleton_append,
        readQuoted_digitChar (by omega), Nat.div_add_mod]

theorem readQuoted_quotedChar (hidden : Char → Bool) (c : Char) (rest : List Char) :
    readQuoted .plain (quotedChar hidden c ++ rest) = (readQuoted .plain rest).map (prepend c) := by
  rcases quotedChar_cases hidden c with ⟨e, hc, he, hu, -⟩ | hc | ⟨hc, hq, hb, -⟩
  · simp [hc, readQuoted, he, hu]
  · have hvalid : c.toNat.isValidChar := c.valid
    simp only [hc, List.cons_append, List.append_assoc, List.nil_append]
    simp [readQuoted, readQuoted_toDigits, hvalid, Char.ofNat_toNat]
  · simp [hc, readQuoted, hq, hb]

/-- A quoted text is read up to its closing quote, whatever was hidden. -/
theorem readQuoted_flatMap (hidden : Char → Bool) (cs rest : List Char) :
    readQuoted .plain (cs.flatMap (quotedChar hidden) ++ '"' :: rest) = some (cs, rest) := by
  induction cs with
  | nil => rfl
  | cons c cs ih =>
    rw [List.flatMap_cons, List.append_assoc, readQuoted_quotedChar, ih]
    rfl

theorem unquote?_quotedWith (hidden : Char → Bool) (s : String) :
    unquote? (quotedWith hidden s) = some s := by
  simp [unquote?, quotedWith, readQuoted_flatMap]

end Text

namespace Error

open Text (isControl isUnprintable isVisibleAscii quotedChar quotedWith SparesAscii)

/-- What an error about a duration is about: what stands on a line, or the key of a sum. -/
inductive Subject where
  | line (number : Nat) (value : String)
  | key (key : String)
  deriving DecidableEq

variable {bad hidden : Char → Bool} {e : Error} {x : Subject}

def subject? : Error → Option Subject
  | invalidDuration line value _ => some (.line line value)
  | durationOverflow key => some (.key key)
  | _ => none

namespace Subject

/-- What stood in the trace. -/
def content : Subject → String
  | .line _ value => value
  | .key k => k

/-- What an error is about, by what stands around the quotation in its text. If the text goes on
behind it, a key is quoted; if not, the digits in front number the line that is. -/
def ofParts (front : List Char) (content : String) (back : List Char) : Subject :=
  if back.isEmpty then .line (Nat.ofDigitChars 10 (front.filter Char.isDigit) 0) content
  else .key content

/-- Reads what an error is about off its text. The first quote opens the quotation. -/
def ofText? (text : String) : Option Subject :=
  let front := text.toList.takeWhile (· != '"')
  let rest := text.toList.dropWhile (· != '"')
  (Text.readQuoted .plain rest.tail).map fun (content, back) =>
    ofParts front (String.ofList content) back

end Subject

/-- Texts of errors about durations hold no control character, quote what stood in the trace so that
it can be read back, and tell what the error is about. -/
structure Telling (text : Error → String) : Prop where
  visible : ∀ e x, subject? e = some x → ∀ c ∈ (text e).toList, isControl c = false
  quotes : ∀ e x, subject? e = some x → ∃ front part back, text e = front ++ part ++ back ∧
    '"' ∉ front.toList ∧ '"' ∉ back.toList ∧ Text.unquote? part = some x.content
  subject : ∀ e x, subject? e = some x → Subject.ofText? (text e) = some x
  distinct : ∀ e e' x x', subject? e = some x → subject? e' = some x' → text e = text e' → x = x'

/-- Words around a quotation: visible, and without quotes of their own. -/
def isFrame (s : String) : Bool := s.toList.all fun c => isVisibleAscii c && c != '"'

theorem ne_quote_of_isFrame {s : String} (h : isFrame s = true) :
    ∀ c ∈ s.toList, (c != '"') = true := by
  intro c hc
  have hboth := List.all_eq_true.mp h c hc
  rw [Bool.and_eq_true] at hboth
  exact hboth.2

theorem not_mem_of_isFrame {s : String} (hb : SparesAscii bad) (h : isFrame s = true) :
    ∀ c ∈ s.toList, bad c = false := by
  intro c hc
  have hboth := List.all_eq_true.mp h c hc
  rw [Bool.and_eq_true] at hboth
  exact hb c hboth.1

theorem isFrame_append (s t : String) : isFrame (s ++ t) = (isFrame s && isFrame t) := by
  rw [isFrame, String.toList_append, List.all_append]
  rfl

theorem isFrame_toString (n : Nat) : isFrame (toString n) = true := by
  rw [isFrame, Nat.toString_eq_ofList_toDigits, String.toList_ofList, List.all_eq_true]
  intro c hc
  have hdigit : 48 ≤ c.toNat ∧ c.toNat ≤ 57 :=
    Char.isDigit_iff_toNat.mp (Nat.isDigit_of_mem_toDigits (by omega) (by omega) hc)
  have hquote : c ≠ '"' := by
    rintro rfl
    revert hdigit
    decide
  simp only [isVisibleAscii, Bool.and_eq_true, decide_eq_true_eq, bne_iff_ne]
  exact ⟨⟨by omega, by omega⟩, hquote⟩

/-- The line number is all the digits in front of the quotation. -/
theorem filter_isDigit_front (line : Nat) :
    ("Invalid duration on line " ++ toString line ++ ": ").toList.filter Char.isDigit =
      Nat.toDigits 10 line := by
  have hword : "Invalid duration on line ".toList.filter Char.isDigit = [] := by decide +kernel
  have hcolon : ": ".toList.filter Char.isDigit = [] := by decide +kernel
  have hnumber : (Nat.toDigits 10 line).filter Char.isDigit = Nat.toDigits 10 line :=
    List.filter_eq_self.mpr fun c => Nat.isDigit_of_mem_toDigits (by omega) (by omega)
  simp only [String.toList_append, List.filter_append, hword, hcolon, List.nil_append,
    List.append_nil, Nat.toString_eq_ofList_toDigits, String.toList_ofList, hnumber]

/-- Either text is a quotation in a frame, and the frame tells which of the two it is. -/
theorem exists_frame (hidden : Char → Bool) (h : e.subject? = some x) :
    ∃ front back, e.messageWith hidden = front ++ quotedWith hidden x.content ++ back ∧
      isFrame front = true ∧ isFrame back = true ∧
      Subject.ofParts front.toList x.content back.toList = x := by
  cases e with
  | invalidDuration line value cause =>
    obtain rfl := Option.some.inj h
    refine ⟨"Invalid duration on line " ++ toString line ++ ": ", "", ?_, ?_, rfl, ?_⟩
    · rw [String.append_empty]
      rfl
    · rw [isFrame_append, isFrame_append, isFrame_toString]
      decide +kernel
    · change Subject.line _ value = _
      rw [filter_isDigit_front, Nat.ofDigitChars_ten_toDigits]
  | durationOverflow key =>
    obtain rfl := Option.some.inj h
    exact ⟨"Duration sum for ", " overflowed", rfl, by decide +kernel, by decide +kernel, rfl⟩
  | unreadable path cause => cases h
  | oddLineCount n => cases h
  | invalidSettings detail => cases h

theorem not_mem_messageWith (hb : SparesAscii bad) (hh : ∀ c, bad c = true → hidden c = true)
    (h : e.subject? = some x) : ∀ c ∈ (e.messageWith hidden).toList, bad c = false := by
  obtain ⟨front, back, htext, hfront, hback, -⟩ := exists_frame hidden h
  rw [htext]
  simp only [String.toList_append, List.mem_append]
  rintro c ((hc | hc) | hc)
  · exact not_mem_of_isFrame hb hfront c hc
  · exact Text.not_mem_quotedWith hb hh x.content c hc
  · exact not_mem_of_isFrame hb hback c hc

theorem ofText?_messageWith (hidden : Char → Bool) (h : e.subject? = some x) :
    Subject.ofText? (e.messageWith hidden) = some x := by
  obtain ⟨front, back, htext, hfront, -, hx⟩ := exists_frame hidden h
  have hlist : (e.messageWith hidden).toList = front.toList ++
      '"' :: (x.content.toList.flatMap (quotedChar hidden) ++ '"' :: back.toList) := by
    simp only [htext, quotedWith, String.toList_append, String.toList_ofList, List.append_assoc,
      List.cons_append, List.nil_append]
  -- The words in front have no quote, so the first one of the text opens the quotation.
  have hquote := ne_quote_of_isFrame hfront
  simp only [Subject.ofText?, hlist, List.takeWhile_append_of_pos hquote,
    List.dropWhile_append_of_pos hquote]
  simp [Text.readQuoted_flatMap, hx]

theorem telling_messageWith (hh : ∀ c, isControl c = true → hidden c = true) :
    Telling (messageWith hidden) where
  visible e x h := not_mem_messageWith Text.sparesAscii_isControl hh h
  quotes e x h := by
    obtain ⟨front, back, htext, hfront, hback, -⟩ := exists_frame hidden h
    refine ⟨front, _, back, htext, ?_, ?_, Text.unquote?_quotedWith hidden x.content⟩
    · intro hmem
      simpa using ne_quote_of_isFrame hfront _ hmem
    · intro hmem
      simpa using ne_quote_of_isFrame hback _ hmem
  subject e x h := ofText?_messageWith hidden h
  distinct e e' x x' h h' heq := by
    have hx := ofText?_messageWith hidden h
    rw [heq, ofText?_messageWith hidden h'] at hx
    exact (Option.some.inj hx).symm

/-- The texts tell what the errors are about under every table of hidden characters that has the
controls, and so they do under the table in use, which leaves only printable characters. Quoted text
is read back under any table. -/
theorem message_tells_subject :
    (∀ hidden : Char → Bool, (∀ c, isControl c = true → hidden c = true) →
      Telling (messageWith hidden)) ∧
    Telling message ∧
    (∀ (e : Error) (x : Subject), e.subject? = some x →
      ∀ c ∈ e.message.toList, isUnprintable c = false) ∧
    ∀ (hidden : Char → Bool) (s : String), Text.unquote? (quotedWith hidden s) = some s := by
  refine ⟨fun hidden => telling_messageWith, ?_, ?_, Text.unquote?_quotedWith⟩
  · exact telling_messageWith fun c => Text.isUnprintable_of_isControl
  · intro e x h
    exact not_mem_messageWith Text.sparesAscii_isUnprintable (fun c hc => hc) h

/-- A key that seems to end the text early and holds what looks like an escape. -/
theorem message_tells_subject_lookalike :
    let e := durationOverflow "a\" overflowed\n\\u\x7b7\x7d\x07"
    subject? e = some (.key "a\" overflowed\n\\u\x7b7\x7d\x07") ∧
      e.messageWith isControl =
        "Duration sum for \"a\\\" overflowed\\n\\\\u\x7b7\x7d\\u\x7b7\x7d\" overflowed" ∧
      Subject.ofText? (e.messageWith isControl) =
        some (.key "a\" overflowed\n\\u\x7b7\x7d\x07") := by
  intro e
  exact ⟨rfl, by decide +kernel, (message_tells_subject.1 isControl fun c hc => hc).subject e _ rfl⟩

end Error

end TraceTally
