import Mathlib
import TraceTally.Duration
import TraceTally.Text.Digits

/-! The grammar of a duration: blanks, a sign, digits with single separators between them, blanks.
The reader takes exactly what the grammar spells within the range, and gives its value. -/
namespace TraceTally

namespace Text

variable {before after cs : List Char}

theorem isBlank_eq_false_of_isDigit {c : Char} (h : c.isDigit = true) : isBlank c = false := by
  have hc : 48 ≤ c.toNat ∧ c.toNat ≤ 57 := Char.isDigit_iff_toNat.mp h
  simp only [isBlank, Bool.or_eq_false_iff, Bool.and_eq_false_iff, decide_eq_false_iff_not]
  omega

theorem dropWhile_isBlank_append (hb : ∀ c ∈ before, isBlank c = true)
    (hc : ∀ c ∈ cs.head?, isBlank c = false) : (before ++ cs).dropWhile isBlank = cs := by
  rw [List.dropWhile_append_of_pos hb]
  cases cs with
  | nil => rfl
  | cons c cs => simp [hc c rfl]

/-- Blanks at both ends go, and nothing else. -/
theorem trim_append (hb : ∀ c ∈ before, isBlank c = true) (ha : ∀ c ∈ after, isBlank c = true)
    (hne : cs ≠ []) (hfirst : ∀ c ∈ cs.head?, isBlank c = false)
    (hlast : ∀ c ∈ cs.getLast?, isBlank c = false) : trim (before ++ cs ++ after) = cs := by
  have hfront : (before ++ (cs ++ after)).dropWhile isBlank = cs ++ after := by
    apply dropWhile_isBlank_append hb
    rwa [List.head?_append_of_ne_nil _ hne]
  have hback : (after.reverse ++ cs.reverse).dropWhile isBlank = cs.reverse := by
    apply dropWhile_isBlank_append
    · intro c hc
      exact ha c (List.mem_reverse.mp hc)
    · rwa [List.head?_reverse]
  rw [trim, List.append_assoc, hfront, List.reverse_append, hback, List.reverse_reverse]

theorem exists_trim (cs : List Char) : ∃ before after, cs = before ++ trim cs ++ after ∧
    (∀ c ∈ before, isBlank c = true) ∧ ∀ c ∈ after, isBlank c = true := by
  refine ⟨cs.takeWhile isBlank,
    ((cs.dropWhile isBlank).reverse.takeWhile isBlank).reverse, ?_, ?_, ?_⟩
  · rw [trim, List.append_assoc, ← List.reverse_append, List.takeWhile_append_dropWhile,
      List.reverse_reverse, List.takeWhile_append_dropWhile]
  · intro c hc
    exact List.mem_takeWhile_imp hc
  · intro c hc
    exact List.mem_takeWhile_imp (List.mem_reverse.mp hc)

end Text

namespace Duration

open Text (signed signed_false signed_true)

variable {c d : Char} {cs ds sign before after : List Char} {negative : Bool} {m n : Nat} {v : Int}

/-- Digits with single separators between them, and the digits alone. -/
inductive Separated : List Char → List Char → Prop
  | last {d : Char} (hd : d.isDigit = true) : Separated [d] [d]
  | digit {d : Char} {cs ds : List Char} (hd : d.isDigit = true) (h : Separated cs ds) :
      Separated (d :: cs) (d :: ds)
  | separator {d : Char} {cs ds : List Char} (hd : d.isDigit = true) (h : Separated cs ds) :
      Separated (d :: '_' :: cs) (d :: ds)

/-- The sign in front of a number, and whether it makes it negative. -/
inductive SignText : List Char → Bool → Prop
  | absent : SignText [] false
  | plus : SignText ['+'] false
  | minus : SignText ['-'] true

/-- The line is a decimal integer with blanks around it. -/
inductive Spells : String → Int → Prop
  | intro {before sign cs ds after : List Char} {negative : Bool}
      (hb : ∀ c ∈ before, Text.isBlank c = true) (ha : ∀ c ∈ after, Text.isBlank c = true)
      (hs : SignText sign negative) (hd : Separated cs ds) :
      Spells (String.ofList (before ++ (sign ++ cs) ++ after))
        (signed negative (Nat.ofDigitChars 10 ds 0))

theorem inRange_iff : InRange v ↔ -2 ^ 63 ≤ v ∧ v ≤ 2 ^ 63 - 1 := Iff.rfl

theorem inRange_signed_of_le (hmn : m ≤ n) (h : InRange (signed negative n)) :
    InRange (signed negative m) := by
  rw [inRange_iff] at h ⊢
  cases negative with
  | false =>
    rw [signed_false] at h ⊢
    omega
  | true =>
    rw [signed_true] at h ⊢
    omega

/-- One more digit takes a number further from zero, on either side. -/
theorem signed_next (negative : Bool) (m k : Nat) :
    (if negative then 10 * signed negative m - k else 10 * signed negative m + k) =
      signed negative (10 * m + k) := by
  cases negative with
  | false => simp
  | true =>
    simp only [if_true, signed_true]
    omega

theorem le_ofDigitChars (cs : List Char) (m : Nat) : m ≤ Nat.ofDigitChars 10 cs m := by
  induction cs generalizing m with
  | nil => simp
  | cons c cs ih =>
    rw [Nat.ofDigitChars_cons]
    exact Nat.le_trans (by omega) (ih _)

/-- Digits are read to the end exactly when all are digits and the whole number is in range: the
numbers on the way only grow. -/
theorem readDigits_eq_ok_iff {v : Int64} (h : InRange (signed negative m)) :
    readDigits negative (signed negative m) cs = .ok v ↔
      (∀ c ∈ cs, c.isDigit = true) ∧ InRange (signed negative (Nat.ofDigitChars 10 cs m)) ∧
        Int64.ofInt (signed negative (Nat.ofDigitChars 10 cs m)) = v := by
  induction cs generalizing m with
  | nil => simp [readDigits, h]
  | cons c cs ih =>
    by_cases hc : c.isDigit = true
    · have hd : digit? c = some (c.toNat - '0'.toNat) := by simp [digit?, hc]
      simp only [readDigits, hd, signed_next, Nat.ofDigitChars_cons]
      generalize 10 * m + (c.toNat - '0'.toNat) = next
      by_cases hr : InRange (signed negative next)
      · rw [if_pos hr, ih hr]
        simp [hc]
      · have hfinal : ¬ InRange (signed negative (Nat.ofDigitChars 10 cs next)) :=
          fun hfinal => hr (inRange_signed_of_le (le_ofDigitChars cs next) hfinal)
        simp [hr, hfinal]
    · have hd : digit? c = none := by simp [digit?, hc]
      simp [readDigits, hd, hc]

theorem readDigits_zero_eq_ok_iff {v : Int64} : readDigits negative 0 cs = .ok v ↔
    (∀ c ∈ cs, c.isDigit = true) ∧ InRange (signed negative (Nat.ofDigitChars 10 cs 0)) ∧
      Int64.ofInt (signed negative (Nat.ofDigitChars 10 cs 0)) = v := by
  have hzero : signed negative 0 = 0 := by cases negative <;> rfl
  rw [← hzero]
  apply readDigits_eq_ok_iff
  rw [hzero]
  decide

/-- A sign, if there is one, belongs to the number only if digits follow it. -/
theorem readInteger_sign_append (hs : SignText sign negative) (hne : ds ≠ [])
    (hd : ∀ c ∈ ds, c.isDigit = true) : readInteger (sign ++ ds) = readDigits negative 0 ds := by
  obtain ⟨d, ds, rfl⟩ := List.exists_cons_of_ne_nil hne
  cases hs with
  | plus => rfl
  | minus => rfl
  | absent =>
    have hdigit := hd d (by simp)
    have hplus : d ≠ '+' := by
      rintro rfl
      cases hdigit
    have hminus : d ≠ '-' := by
      rintro rfl
      cases hdigit
    simp [readInteger, hplus, hminus]

theorem exists_of_readInteger {v : Int64} : readInteger cs = .ok v →
    ∃ sign negative ds, cs = sign ++ ds ∧ SignText sign negative ∧ ds ≠ [] ∧
      readDigits negative 0 ds = .ok v := by
  fun_cases readInteger cs with
  | case1 => nofun
  | case2 => nofun
  | case3 => nofun
  | case4 ds hne => exact fun h => ⟨['+'], false, ds, rfl, .plus, by simpa using hne, h⟩
  | case5 ds hne => exact fun h => ⟨['-'], true, ds, rfl, .minus, by simpa using hne, h⟩
  | case6 _ hne => exact fun h => ⟨[], false, cs, rfl, .absent, hne, h⟩

theorem ne_separator_of_isDigit (h : c.isDigit = true) : c ≠ '_' := by
  rintro rfl
  cases h

theorem wellSeparated_cons (hc : c ≠ '_') (before : Option Char) (cs : List Char) :
    wellSeparated before (c :: cs) = wellSeparated (some c) cs := by
  simp [wellSeparated, hc]

/-- A separator is well placed between a digit and a digit. -/
theorem wellSeparated_separator {before : Option Char} :
    wellSeparated before ('_' :: cs) = true ↔ before.any Char.isDigit = true ∧
      ∃ d ds, cs = d :: ds ∧ d.isDigit = true ∧ wellSeparated (some d) ds = true := by
  cases cs with
  | nil => simp [wellSeparated]
  | cons d ds =>
    by_cases hd : d.isDigit = true
    · simp [wellSeparated, hd, ne_separator_of_isDigit hd]
    · simp [wellSeparated, hd]

namespace Separated

theorem head (h : Separated cs ds) : ∃ d cs', cs = d :: cs' ∧ d.isDigit = true := by
  cases h with
  | last hd => exact ⟨_, _, rfl, hd⟩
  | digit hd _ => exact ⟨_, _, rfl, hd⟩
  | separator hd _ => exact ⟨_, _, rfl, hd⟩

theorem isDigit_getLast? (h : Separated cs ds) : ∀ c ∈ cs.getLast?, c.isDigit = true := by
  induction h with
  | last hd => simpa using hd
  | digit hd h ih =>
    obtain ⟨d, cs', rfl, -⟩ := h.head
    simpa using ih
  | separator hd h ih =>
    obtain ⟨d, cs', rfl, -⟩ := h.head
    simpa using ih

theorem ne_nil (h : Separated cs ds) : ds ≠ [] := by
  cases h <;> simp

theorem isDigit (h : Separated cs ds) : ∀ c ∈ ds, c.isDigit = true := by
  induction h with
  | last hd => simpa using hd
  | digit hd _ ih => simpa [hd] using ih
  | separator hd _ ih => simpa [hd] using ih

theorem filter_eq (h : Separated cs ds) : cs.filter (· != '_') = ds := by
  induction h with
  | last hd => simp [ne_separator_of_isDigit hd]
  | digit hd _ ih => simp [ne_separator_of_isDigit hd, ih]
  | separator hd _ ih => simp [ne_separator_of_isDigit hd, ih]

theorem wellSeparated (h : Separated cs ds) (before : Option Char) :
    wellSeparated before cs = true := by
  induction h generalizing before with
  | last hd => simp [Duration.wellSeparated, ne_separator_of_isDigit hd]
  | digit hd _ ih =>
    rw [wellSeparated_cons (ne_separator_of_isDigit hd)]
    exact ih _
  | @separator d cs ds hd h ih =>
    obtain ⟨d', cs', rfl, hd'⟩ := h.head
    have hrest := ih none
    rw [wellSeparated_cons (ne_separator_of_isDigit hd')] at hrest
    rw [wellSeparated_cons (ne_separator_of_isDigit hd), wellSeparated_separator]
    exact ⟨by simpa using hd, d', cs', rfl, hd', hrest⟩

end Separated

theorem separated_self (hne : ds ≠ []) (hd : ∀ c ∈ ds, c.isDigit = true) : Separated ds ds := by
  induction ds with
  | nil => exact (hne rfl).elim
  | cons d ds ih =>
    cases ds with
    | nil => exact .last (hd d (by simp))
    | cons d' ds => exact .digit (hd d (by simp)) (ih (by simp) fun c hc => hd c (by simp [hc]))

/-- A digit, then digits and separators that are well placed. The induction takes two characters at
a time, because a separator brings the digit behind it along. -/
theorem separated_filter (hd : d.isDigit = true) (hw : wellSeparated (some d) cs = true)
    (hc : ∀ c ∈ cs, c = '_' ∨ c.isDigit = true) :
    Separated (d :: cs) (d :: cs.filter (· != '_')) := by
  induction cs using List.twoStepInduction generalizing d with
  | nil => exact .last hd
  | singleton c =>
    have hplain : c ≠ '_' := by
      rintro rfl
      simp [wellSeparated] at hw
    have hdigit := (hc c (by simp)).resolve_left hplain
    simpa [hplain] using Separated.digit hd (.last hdigit)
  | cons_cons x y cs ih ih' =>
    by_cases hx : x = '_'
    · subst x
      obtain ⟨-, d', ds, heq, hy, hrest⟩ := wellSeparated_separator.mp hw
      obtain ⟨rfl, rfl⟩ := List.cons.inj heq
      have hsep := ih hy hrest fun c hcs => hc c (by simp [hcs])
      simpa [ne_separator_of_isDigit hy] using Separated.separator hd hsep
    · rw [wellSeparated_cons hx] at hw
      have hdigit := (hc x (by simp)).resolve_left hx
      have hsep := ih' y hdigit hw fun c hcs => hc c (List.mem_cons_of_mem x hcs)
      simpa [hx] using Separated.digit hd hsep

/-- Well placed separators among digits, with no digit in front. -/
theorem separated_of_wellSeparated {before : Option Char} (hb : before.any Char.isDigit = false)
    (hw : wellSeparated before cs = true) (hne : cs.filter (· != '_') ≠ [])
    (hd : ∀ c ∈ cs.filter (· != '_'), c.isDigit = true) :
    Separated cs (cs.filter (· != '_')) := by
  cases cs with
  | nil => exact (hne rfl).elim
  | cons c cs =>
    have hc : c ≠ '_' := by
      rintro rfl
      have hany := (wellSeparated_separator.mp hw).1
      rw [hb] at hany
      cases hany
    have hfilter : (c :: cs).filter (· != '_') = c :: cs.filter (· != '_') := by simp [hc]
    rw [hfilter] at hd ⊢
    rw [wellSeparated_cons hc] at hw
    refine separated_filter (hd c (by simp)) hw ?_
    intro x hx
    by_cases hsep : x = '_'
    · exact Or.inl hsep
    · exact Or.inr (hd x (by simp [hx, hsep]))

namespace SignText

theorem ne_separator (hs : SignText sign negative) : ∀ c ∈ sign, c ≠ '_' := by
  cases hs <;> simp

theorem wellSeparated_append (hs : SignText sign negative) (hd : Separated cs ds) :
    wellSeparated none (sign ++ cs) = true := by
  cases hs with
  | absent => exact hd.wellSeparated none
  | plus => exact (wellSeparated_cons (by simp) none cs).trans (hd.wellSeparated _)
  | minus => exact (wellSeparated_cons (by simp) none cs).trans (hd.wellSeparated _)

theorem filter_append (hs : SignText sign negative) (hd : Separated cs ds) :
    (sign ++ cs).filter (· != '_') = sign ++ ds := by
  have hsign : sign.filter (· != '_') = sign := by
    rw [List.filter_eq_self]
    simpa using hs.ne_separator
  rw [List.filter_append, hsign, hd.filter_eq]

theorem isBlank_head? (hs : SignText sign negative) (hd : Separated cs ds) :
    ∀ c ∈ (sign ++ cs).head?, Text.isBlank c = false := by
  obtain ⟨d, cs', rfl, hdigit⟩ := hd.head
  cases hs with
  | absent => simpa using Text.isBlank_eq_false_of_isDigit hdigit
  | plus => simp [Text.isBlank]
  | minus => simp [Text.isBlank]

theorem trim_eq (hs : SignText sign negative) (hd : Separated cs ds)
    (hb : ∀ c ∈ before, Text.isBlank c = true) (ha : ∀ c ∈ after, Text.isBlank c = true) :
    Text.trim (before ++ (sign ++ cs) ++ after) = sign ++ cs := by
  obtain ⟨d, cs', rfl, -⟩ := hd.head
  refine Text.trim_append hb ha (by simp) (hs.isBlank_head? hd) ?_
  rw [List.getLast?_append_of_ne_nil _ (by simp)]
  intro c hc
  exact Text.isBlank_eq_false_of_isDigit (hd.isDigit_getLast? c hc)

end SignText

/-- What the grammar spells is read digit by digit, without its separators. -/
theorem parse_spelled (hb : ∀ c ∈ before, Text.isBlank c = true)
    (ha : ∀ c ∈ after, Text.isBlank c = true) (hs : SignText sign negative)
    (hd : Separated cs ds) : parse (String.ofList (before ++ (sign ++ cs) ++ after)) =
      readDigits negative 0 ds := by
  rw [parse, String.toList_ofList, hs.trim_eq hd hb ha]
  simp only [hs.wellSeparated_append hd, if_true]
  rw [hs.filter_append hd]
  exact readInteger_sign_append hs hd.ne_nil hd.isDigit

/-- No separator stands in front of the first character that is none. -/
theorem exists_cons_of_filter (hw : wellSeparated none cs = true)
    (hf : cs.filter (· != '_') = c :: ds) :
    ∃ cs', cs = c :: cs' ∧ cs'.filter (· != '_') = ds ∧ wellSeparated (some c) cs' = true := by
  cases cs with
  | nil => cases hf
  | cons c' cs' =>
    have hc : c' ≠ '_' := by
      rintro rfl
      simpa using (wellSeparated_separator.mp hw).1
    have hfilter : (c' :: cs').filter (· != '_') = c' :: cs'.filter (· != '_') := by simp [hc]
    rw [hfilter] at hf
    obtain ⟨rfl, hrest⟩ := List.cons.inj hf
    rw [wellSeparated_cons hc] at hw
    exact ⟨cs', rfl, hrest, hw⟩

/-- Without its separators a text has the same sign as with them. -/
theorem exists_separated (hs : SignText sign negative) (hw : wellSeparated none cs = true)
    (hf : cs.filter (· != '_') = sign ++ ds) (hne : ds ≠ [])
    (hd : ∀ c ∈ ds, c.isDigit = true) : ∃ cs', cs = sign ++ cs' ∧ Separated cs' ds := by
  cases hs with
  | absent =>
    rw [List.nil_append] at hf
    subst hf
    exact ⟨cs, rfl, separated_of_wellSeparated rfl hw hne hd⟩
  | plus =>
    obtain ⟨cs', rfl, rfl, hw⟩ := exists_cons_of_filter hw hf
    exact ⟨cs', rfl, separated_of_wellSeparated rfl hw hne hd⟩
  | minus =>
    obtain ⟨cs', rfl, rfl, hw⟩ := exists_cons_of_filter hw hf
    exact ⟨cs', rfl, separated_of_wellSeparated rfl hw hne hd⟩

/-- What is read is spelled by the grammar. Separators that are not well placed are kept, and then
the text is no number. -/
theorem exists_spelled {line : String} {v : Int64} (h : parse line = .ok v) :
    ∃ before sign cs ds after negative, line = String.ofList (before ++ (sign ++ cs) ++ after) ∧
      (∀ c ∈ before, Text.isBlank c = true) ∧ (∀ c ∈ after, Text.isBlank c = true) ∧
      SignText sign negative ∧ Separated cs ds ∧ readDigits negative 0 ds = .ok v := by
  obtain ⟨before, after, hline, hb, ha⟩ := Text.exists_trim line.toList
  rw [parse] at h
  generalize Text.trim line.toList = body at h hline
  suffices hbody : ∃ sign cs ds negative, body = sign ++ cs ∧ SignText sign negative ∧
      Separated cs ds ∧ readDigits negative 0 ds = .ok v by
    obtain ⟨sign, cs, ds, negative, rfl, hs, hd, hv⟩ := hbody
    refine ⟨before, sign, cs, ds, after, negative, ?_, hb, ha, hs, hd, hv⟩
    rw [← hline, String.ofList_toList]
  obtain ⟨sign, negative, ds, hds, hs, hne, hv⟩ := exists_of_readInteger h
  have hdigit := (readDigits_zero_eq_ok_iff.mp hv).1
  cases hw : wellSeparated none body with
  | true =>
    rw [hw, if_pos rfl] at hds
    obtain ⟨cs, rfl, hd⟩ := exists_separated hs hw hds hne hdigit
    exact ⟨sign, cs, ds, negative, rfl, hs, hd, hv⟩
  | false =>
    rw [hw, if_neg (by simp)] at hds
    exact ⟨sign, ds, ds, negative, hds, hs, separated_self hne hdigit, hv⟩

/-- The reader takes exactly what the grammar spells within the range, and gives its value. -/
theorem parse_iff_spells {line : String} : (∃ d : Int64, parse line = .ok d ∧ d.toInt = v) ↔
    Spells line v ∧ InRange v := by
  constructor
  · rintro ⟨d, hd, rfl⟩
    obtain ⟨before, sign, cs, ds, after, negative, rfl, hb, ha, hs, hsep, hv⟩ := exists_spelled hd
    obtain ⟨-, hrange, rfl⟩ := readDigits_zero_eq_ok_iff.mp hv
    rw [toInt_ofInt hrange]
    exact ⟨.intro hb ha hs hsep, hrange⟩
  · rintro ⟨⟨hb, ha, hs, hsep⟩, hrange⟩
    refine ⟨_, ?_, toInt_ofInt hrange⟩
    rw [parse_spelled hb ha hs hsep, readDigits_zero_eq_ok_iff]
    exact ⟨hsep.isDigit, hrange, rfl⟩

theorem ofDigitChars_zeros (zeros n : Nat) :
    Nat.ofDigitChars 10 (List.replicate zeros '0' ++ Nat.toDigits 10 n) 0 = n := by
  induction zeros with
  | zero => exact Nat.ofDigitChars_ten_toDigits
  | succ zeros ih =>
    rw [List.replicate_succ, List.cons_append, Nat.ofDigitChars_cons]
    exact ih

/-- The sign that the text of a duration starts with. -/
def signOf (d : Int64) : List Char := if d < 0 then ['-'] else []

theorem signOf_cases (d : Int64) :
    (d.toInt < 0 ∧ signOf d = ['-']) ∨ (0 ≤ d.toInt ∧ signOf d = []) := by
  have hsign : d < 0 ↔ d.toInt < 0 := Int64.lt_iff_toInt_lt
  by_cases hd : d < 0
  · exact Or.inl ⟨hsign.mp hd, if_pos hd⟩
  · exact Or.inr ⟨Int.not_lt.mp fun h => hd (hsign.mpr h), if_neg hd⟩

theorem toList_text (d : Int64) : (text d).toList = signOf d ++ Nat.toDigits 10 d.toInt.natAbs := by
  have htext : text d = Int.repr d.toInt := rfl
  rw [htext]
  obtain ⟨hneg, hs⟩ | ⟨hpos, hs⟩ := signOf_cases d
  · obtain ⟨n, hn⟩ := Int.eq_negSucc_of_lt_zero hneg
    rw [hs, hn]
    simp [Int.repr, Nat.repr_eq_ofList_toDigits]
  · obtain ⟨n, hn⟩ := Int.eq_ofNat_of_zero_le hpos
    rw [hs, hn]
    simp [Int.repr, Nat.repr_eq_ofList_toDigits]

theorem signText_signOf (d : Int64) :
    ∃ negative, SignText (signOf d) negative ∧ signed negative d.toInt.natAbs = d.toInt := by
  obtain ⟨hneg, hs⟩ | ⟨hpos, hs⟩ := signOf_cases d
  · rw [hs]
    refine ⟨true, .minus, ?_⟩
    rw [signed_true]
    omega
  · rw [hs]
    refine ⟨false, .absent, ?_⟩
    rw [signed_false]
    omega

/-- A line is read exactly when the grammar spells a number in range, which is then the value. The
text of a duration is read back, also with blanks around it, and with zeros in front of its digits
and separators between them. -/
theorem parse_spells_exactly :
    (∀ (line : String) (v : Int), (∃ d : Int64, parse line = .ok d ∧ d.toInt = v) ↔
      Spells line v ∧ -2 ^ 63 ≤ v ∧ v ≤ 2 ^ 63 - 1) ∧
    ∀ d : Int64, (text d).toList = signOf d ++ Nat.toDigits 10 d.toInt.natAbs ∧
      ∀ (zeros : Nat) (cs before after : List Char),
        Separated cs (List.replicate zeros '0' ++ Nat.toDigits 10 d.toInt.natAbs) →
        (∀ c ∈ before, Text.isBlank c = true) → (∀ c ∈ after, Text.isBlank c = true) →
        parse (String.ofList (before ++ (signOf d ++ cs) ++ after)) = .ok d := by
  refine ⟨fun line v => parse_iff_spells, fun d => ⟨toList_text d, ?_⟩⟩
  intro zeros cs before after hsep hb ha
  obtain ⟨negative, hs, hvalue⟩ := signText_signOf d
  have hspells := Spells.intro hb ha hs hsep
  rw [ofDigitChars_zeros, hvalue] at hspells
  obtain ⟨d', hd', hint⟩ := parse_iff_spells.mpr ⟨hspells, inRange_toInt d⟩
  rw [hd', Int64.toInt_inj.mp hint]

/-- The smallest duration, with wide blanks around it, zeros in front and separators. -/
theorem parse_spells_exactly_minValue :
    let cs := "0_0_9223372036_854_775_80_8".toList
    Separated cs (List.replicate 2 '0' ++ Nat.toDigits 10 Int64.minValue.toInt.natAbs) ∧
      parse "\u3000-0_0_9223372036_854_775_80_8 \t" = .ok Int64.minValue := by
  intro cs
  have hfilter : cs.filter (· != '_') =
      List.replicate 2 '0' ++ Nat.toDigits 10 Int64.minValue.toInt.natAbs := by decide +kernel
  have hline : "\u3000-0_0_9223372036_854_775_80_8 \t" =
      String.ofList (['\u3000'] ++ (signOf Int64.minValue ++ cs) ++ [' ', '\t']) := by
    decide +kernel
  have hw : wellSeparated none cs = true := by decide +kernel
  have hsep : Separated cs (cs.filter (· != '_')) :=
    separated_of_wellSeparated rfl hw (by decide +kernel) (by simp [cs])
  rw [hfilter] at hsep
  refine ⟨hsep, ?_⟩
  rw [hline]
  exact (parse_spells_exactly.2 Int64.minValue).2 2 cs _ _ hsep (by simp [Text.isBlank])
    (by simp [Text.isBlank])

end Duration

end TraceTally
