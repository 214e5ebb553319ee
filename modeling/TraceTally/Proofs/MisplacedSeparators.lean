import TraceTally.Proofs.DurationGrammar

/-! Durations with a separator out of place. None is read. The problem that is met first from the
left is reported, so the number in front of the first character that is no digit decides: while it
is in range a digit is missed, and otherwise it was too large or too small before that. -/
namespace TraceTally.Duration

open Text (signed signed_false signed_true)

variable {c : Char} {cs front back : List Char} {negative : Bool} {m : Nat}

/-- Some separator does not stand directly between two digits. -/
def Misplaced (cs : List Char) : Prop :=
  ∃ front back, cs = front ++ '_' :: back ∧
    ¬ (front.getLast?.any Char.isDigit = true ∧ back.head?.any Char.isDigit = true)

/-- The number that digits spell up to the first character that is none. -/
def leadingDigits (cs : List Char) : Nat := Nat.ofDigitChars 10 (cs.takeWhile Char.isDigit) 0

/-- The same behind a sign, if there is one. -/
def leadingNumber : List Char → Int
  | '+' :: cs => signed false (leadingDigits cs)
  | '-' :: cs => signed true (leadingDigits cs)
  | cs => signed false (leadingDigits cs)

/-- One problem for each place a number can have: in the range, above it and below it. -/
structure ReportsPlace (n : Int) (f : Fault) : Prop where
  invalidDigit : f = .invalidDigit ↔ -2 ^ 63 ≤ n ∧ n ≤ 2 ^ 63 - 1
  tooLarge : f = .tooLarge ↔ 2 ^ 63 - 1 < n
  tooSmall : f = .tooSmall ↔ n < -2 ^ 63

/-- The neighbours of a separator are looked at wherever it stands. `before` is in front of all. -/
theorem wellSeparated_neighbours {before : Option Char}
    (h : wellSeparated before (front ++ '_' :: back) = true) :
    (front.getLast?.or before).any Char.isDigit = true ∧ back.head?.any Char.isDigit = true := by
  induction front generalizing before with
  | nil =>
    obtain ⟨hbefore, d, ds, rfl, hd, -⟩ := wellSeparated_separator.mp h
    exact ⟨hbefore, by simpa using hd⟩
  | cons c front ih =>
    have hrest : wellSeparated (some c) (front ++ '_' :: back) = true := by
      rw [List.cons_append, wellSeparated, Bool.and_eq_true] at h
      exact h.2
    obtain ⟨hfront, hback⟩ := ih hrest
    refine ⟨?_, hback⟩
    rw [List.getLast?_cons]
    cases hlast : front.getLast? with
    | none => simpa [hlast] using hfront
    | some d => simpa [hlast] using hfront

theorem Misplaced.wellSeparated_eq_false (h : Misplaced cs) : wellSeparated none cs = false := by
  obtain ⟨front, back, rfl, hneighbours⟩ := h
  rw [Bool.eq_false_iff]
  intro hw
  apply hneighbours
  simpa using wellSeparated_neighbours hw

theorem Misplaced.mem (h : Misplaced cs) : '_' ∈ cs := by
  obtain ⟨front, back, rfl, -⟩ := h
  simp

/-- Reading stops at the first character that is no digit, unless the number has left the range by
then. -/
theorem readDigits_eq_error (hm : InRange (signed negative m)) (hc : c ∈ cs)
    (hd : c.isDigit = false) :
    let n := signed negative (Nat.ofDigitChars 10 (cs.takeWhile Char.isDigit) m)
    readDigits negative (signed negative m) cs = .error
      (if InRange n then .invalidDigit else if negative then .tooSmall else .tooLarge) := by
  induction cs generalizing m with
  | nil => cases hc
  | cons x cs ih =>
    by_cases hx : x.isDigit = true
    · have hrest : c ∈ cs := by
        rcases List.mem_cons.mp hc with rfl | hrest
        · simp [hx] at hd
        · exact hrest
      have hdigit : digit? x = some (x.toNat - '0'.toNat) := by simp [digit?, hx]
      simp only [readDigits, hdigit, signed_next, List.takeWhile_cons, hx, if_true,
        Nat.ofDigitChars_cons]
      generalize 10 * m + (x.toNat - '0'.toNat) = next
      by_cases hr : InRange (signed negative next)
      · rw [if_pos hr]
        exact ih hr hrest
      · -- More digits only lead further away, so the last number is out of range as well.
        have hfinal : ¬ InRange (signed negative
            (Nat.ofDigitChars 10 (cs.takeWhile Char.isDigit) next)) :=
          fun hfinal => hr (inRange_signed_of_le (le_ofDigitChars _ next) hfinal)
        rw [if_neg hr, if_neg hfinal]
    · have hdigit : digit? x = none := by simp [digit?, hx]
      simp [readDigits, hdigit, hx, hm]

theorem reportsPlace_signed (negative : Bool) (n : Nat) : ReportsPlace (signed negative n)
    (if InRange (signed negative n) then .invalidDigit
      else if negative then .tooSmall else .tooLarge) := by
  cases negative with
  | false =>
    rw [signed_false]
    by_cases hr : InRange n
    · have hn := inRange_iff.mp hr
      rw [if_pos hr]
      constructor <;> simp <;> omega
    · have hn := mt inRange_iff.mpr hr
      rw [if_neg hr]
      constructor <;> simp <;> omega
  | true =>
    rw [signed_true]
    by_cases hr : InRange (-n : Int)
    · have hn := inRange_iff.mp hr
      rw [if_pos hr]
      constructor <;> simp <;> omega
    · have hn := mt inRange_iff.mpr hr
      rw [if_neg hr]
      constructor <;> simp <;> omega

theorem exists_fault_of_readDigits (negative : Bool) (h : '_' ∈ cs) :
    ∃ f, readDigits negative 0 cs = .error f ∧
      ReportsPlace (signed negative (leadingDigits cs)) f := by
  have hzero : signed negative 0 = 0 := by cases negative <;> rfl
  have hr : InRange (signed negative 0) := by
    rw [hzero]
    decide
  have hread := readDigits_eq_error hr h (by decide)
  rw [hzero] at hread
  exact ⟨_, hread, reportsPlace_signed negative (leadingDigits cs)⟩

/-- A separator that is kept is never read, behind a sign or not. -/
theorem exists_fault_of_readInteger (h : '_' ∈ cs) :
    ∃ f, readInteger cs = .error f ∧ ReportsPlace (leadingNumber cs) f := by
  fun_cases readInteger cs with
  | case1 => cases h
  | case2 => simp at h
  | case3 => simp at h
  | case4 cs => exact exists_fault_of_readDigits false (by simpa using h)
  | case5 cs => exact exists_fault_of_readDigits true (by simpa using h)
  | case6 hplus hminus =>
    have hleading : leadingNumber cs = signed false (leadingDigits cs) := by
      fun_cases leadingNumber cs <;> simp_all
    rw [hleading]
    exact exists_fault_of_readDigits false h

/-- A line with a separator out of place is refused. What is reported depends on the number in front
of the first character that is no digit, and on nothing else. -/
theorem parse_misplaced_reports_place (line : String) (h : Misplaced (Text.trim line.toList)) :
    ∃ f, parse line = .error f ∧ ReportsPlace (leadingNumber (Text.trim line.toList)) f := by
  rw [parse, h.wellSeparated_eq_false]
  exact exists_fault_of_readInteger h.mem

theorem parse_misplaced_reports_place_below :
    let line := " -9223372036854775809_1_\t"
    Misplaced (Text.trim line.toList) ∧ parse line = .error .tooSmall := by
  intro line
  have h : Misplaced (Text.trim line.toList) :=
    ⟨"-9223372036854775809_1".toList, [], by decide +kernel, by decide +kernel⟩
  have hnumber : leadingNumber (Text.trim line.toList) = -2 ^ 63 - 1 := by decide +kernel
  obtain ⟨f, hparse, hplace⟩ := parse_misplaced_reports_place line h
  rw [hnumber] at hplace
  refine ⟨h, ?_⟩
  rw [hparse, hplace.tooSmall.mpr (by omega)]

/-- A number that is too large by the time the separator is met hides it. -/
theorem misplaced_separator_hidden :
    Misplaced (Text.trim "9223372036854775808_".toList) ∧
      parse "9223372036854775808_" = .error .tooLarge ∧
      ¬ ∀ line, Misplaced (Text.trim line.toList) → parse line = .error .invalidDigit := by
  have h : Misplaced (Text.trim "9223372036854775808_".toList) :=
    ⟨"9223372036854775808".toList, [], by decide +kernel, by decide +kernel⟩
  have hparse : parse "9223372036854775808_" = .error .tooLarge := by decide +kernel
  refine ⟨h, hparse, ?_⟩
  intro hall
  have hinvalid := hall _ h
  rw [hparse] at hinvalid
  cases hinvalid

end TraceTally.Duration
