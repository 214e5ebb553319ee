import TraceTally.Proofs.TomlStrings
import TraceTally.Settings

/-! Settings from documents that assign strings to names, one on each line. What is assigned to a
field of the settings is taken exactly, a field that is left out keeps its default, and of all other
names the first is the one that the text of the error tells. -/
namespace TraceTally

namespace Toml

variable {c x : Char} {t text rest next : List Char} {name : String} {a : String × String}
  {as : List (String × String)} {p : Progress}

/-- A name that is written without quotes. -/
def IsBare (name : String) : Prop := name ≠ "" ∧ name.toList.all isBareKeyChar = true

instance (name : String) : Decidable (IsBare name) := inferInstanceAs (Decidable (_ ∧ _))

/-- A line that assigns a string to a name. -/
inductive LineText : String × String → List Char → Prop
  | intro {name value : String} {t : List Char} (hname : IsBare name)
      (hvalue : StringText value.toList t) :
      LineText (name, value) (name.toList ++ ' ' :: '=' :: ' ' :: t)

inductive NewlineText : List Char → Prop
  | lineFeed : NewlineText ['\n']
  | returnLineFeed : NewlineText ['\r', '\n']

/-- Assignments on a line each. The last line need not be ended. -/
inductive DocumentText : List (String × String) → List Char → Prop
  | nil : DocumentText [] []
  | last {a : String × String} {t : List Char} (ha : LineText a t) : DocumentText [a] t
  | line {a : String × String} {as : List (String × String)} {t newline rest : List Char}
      (ha : LineText a t) (hn : NewlineText newline) (has : DocumentText as rest) :
      DocumentText (a :: as) (t ++ (newline ++ rest))

/-- What is kept of an assignment, but for where it stands. -/
def Keeps (a : String × String) (e : Key × Node) : Prop :=
  e.1.name = a.1 ∧ ∃ span, e.2 = .value (.string a.2) span

theorem ne_of_isBareKeyChar (hc : isBareKeyChar c = true) (hx : isBareKeyChar x = false) :
    c ≠ x := by
  rintro rfl
  rw [hc] at hx
  cases hx

theorem isBlank_of_isBareKeyChar (hc : isBareKeyChar c = true) : isBlank c = false := by
  have hspace : c ≠ ' ' := ne_of_isBareKeyChar hc (by decide)
  have htab : c ≠ '\t' := ne_of_isBareKeyChar hc (by decide)
  simp [isBlank, hspace, htab]

theorem skipBlanks_cons (hc : isBlank c = false) : skipBlanks (c :: t) = c :: t := by
  simp [skipBlanks, hc]

theorem IsBare.head (h : IsBare name) : ∃ c cs, name.toList = c :: cs ∧ isBareKeyChar c = true := by
  cases hname : name.toList with
  | nil => exact (h.1 (String.toList_eq_nil_iff.mp hname)).elim
  | cons c cs => exact ⟨c, cs, rfl, List.all_eq_true.mp h.2 c (by simp [hname])⟩

theorem readName_bare (h : IsBare name) (rest : List Char) :
    readName (name.toList ++ ' ' :: rest) = some (name, ' ' :: rest) := by
  have hspan : (name.toList ++ ' ' :: rest).span isBareKeyChar = (name.toList, ' ' :: rest) := by
    have hspace : isBareKeyChar ' ' = false := by decide
    have hall := List.all_eq_true.mp h.2
    rw [List.span_eq_takeWhile_dropWhile, List.takeWhile_append_of_pos hall,
      List.dropWhile_append_of_pos hall]
    simp [hspace]
  obtain ⟨c, cs, hname, hc⟩ := h.head
  have hdouble : c ≠ '"' := ne_of_isBareKeyChar hc (by decide)
  have hsingle : c ≠ '\'' := ne_of_isBareKeyChar hc (by decide)
  have hback : String.ofList (c :: cs) = name := by rw [← hname, String.ofList_toList]
  rw [hname, List.cons_append] at hspan ⊢
  rw [readName, hspan]
  · simp [hback]
  · simpa using hdouble
  · simpa using hsingle

/-- A bare name in front of its equals sign. -/
theorem readKey_bare (h : IsBare name) (limit : Nat) (rest : List Char) :
    ∃ span, readKey (limit + 1) (name.toList ++ ' ' :: '=' :: rest) =
      some ([⟨name, span⟩], '=' :: rest) := by
  have hread := readName_bare h ('=' :: rest)
  obtain ⟨c, cs, hname, hc⟩ := h.head
  have hstart : skipBlanks (name.toList ++ ' ' :: '=' :: rest) =
      name.toList ++ ' ' :: '=' :: rest := by
    rw [hname, List.cons_append, skipBlanks_cons (isBlank_of_isBareKeyChar hc)]
  have hstop : skipBlanks (' ' :: '=' :: rest) = '=' :: rest := by
    simp [skipBlanks, isBlank]
  rw [readKey, hstart, hread]
  simp only [Option.bind_eq_bind, Option.bind_some, hstop]
  exact ⟨_, rfl⟩

theorem endLine_newline {newline : List Char} (h : NewlineText newline) (rest : List Char) :
    endLine (newline ++ rest) = some rest := by
  cases h with
  | lineFeed => simp [endLine, skipBlanks, isBlank, skipComment, afterNewline?]
  | returnLineFeed => simp [endLine, skipBlanks, isBlank, skipComment, afterNewline?]

theorem endsString_newline {newline : List Char} (h : NewlineText newline) (rest : List Char) :
    EndsString (newline ++ rest) := by
  intro c hc
  cases h with
  | lineFeed =>
    obtain rfl : '\n' = c := by simpa using hc
    decide
  | returnLineFeed =>
    obtain rfl : '\r' = c := by simpa using hc
    decide

theorem LineText.isBare (h : LineText a t) : IsBare a.1 := by
  cases h with
  | intro hname _ => exact hname

theorem LineText.head (h : LineText a t) : ∃ c cs, t = c :: cs ∧ isBareKeyChar c = true := by
  cases h with
  | intro hname _ =>
    obtain ⟨c, cs, hcs, hc⟩ := hname.head
    exact ⟨c, _, by rw [hcs, List.cons_append], hc⟩

theorem LineText.length_pos (h : LineText a t) : 0 < t.length := by
  obtain ⟨c, cs, rfl, -⟩ := h.head
  simp

/-- The assignment of a line is put behind those before it. -/
theorem readAssignment_text (h : LineText a t) (hend : endLine rest = some next)
    (hrest : EndsString rest) (hp : p.opened = []) (hnew : p.root.find? a.1 = none) :
    ∃ e, Keeps a e ∧
      readAssignment p (t ++ rest) = some ({ p with root := p.root ++ [e] }, next) := by
  cases h with
  | @intro name value t hname hvalue =>
    obtain ⟨span, hkey⟩ := readKey_bare hname (depthLimit - 2) (' ' :: (t ++ rest))
    have hvalue' := readValue_text hvalue hrest (depthLimit - 1)
    rw [String.ofList_toList] at hvalue'
    have hstart : skipBlanks (' ' :: (t ++ rest)) = t ++ rest := by
      obtain ⟨x, xs, rfl, hx⟩ := hvalue.head
      rcases hx with rfl | rfl <;> simp [skipBlanks, isBlank]
    have hassign : ∀ n valueSpan, p.root.assignAt n valueSpan [⟨name, span⟩] p.opened =
        some (p.root ++ [(⟨name, span⟩, n)]) := by
      intro n valueSpan
      simp [hp, Entries.assignAt, Entries.assign, hnew]
    refine ⟨(⟨name, span⟩, .value (.string value) ⟨(t ++ rest).length, rest.length⟩),
      ⟨rfl, _, rfl⟩, ?_⟩
    have hlimit : depthLimit - 1 = depthLimit - 2 + 1 := by decide
    simp only [readAssignment, List.append_assoc, List.cons_append, hlimit, hkey] at hvalue' ⊢
    simp only [Option.bind_eq_bind, Option.bind_some, hstart, hvalue', hassign, hend]
    rfl

theorem readLine_text (h : LineText a t) (hend : endLine rest = some next)
    (hrest : EndsString rest) (hp : p.opened = []) (hnew : p.root.find? a.1 = none) :
    ∃ e, Keeps a e ∧ readLine p (t ++ rest) = some ({ p with root := p.root ++ [e] }, next) := by
  obtain ⟨e, hkeeps, hread⟩ := readAssignment_text h hend hrest hp hnew
  refine ⟨e, hkeeps, ?_⟩
  obtain ⟨c, cs, rfl, hc⟩ := h.head
  rw [List.cons_append] at hread ⊢
  have hbracket : c ≠ '[' := ne_of_isBareKeyChar hc (by decide)
  have hcomment : c ≠ '#' := ne_of_isBareKeyChar hc (by decide)
  have hfeed : c ≠ '\n' := ne_of_isBareKeyChar hc (by decide)
  have hreturn : c ≠ '\r' := ne_of_isBareKeyChar hc (by decide)
  have hnewline : afterNewline? (c :: (cs ++ rest)) = none := by
    simp [afterNewline?, hfeed, hreturn]
  rw [readLine, skipBlanks_cons (isBlank_of_isBareKeyChar hc)]
  simp [hbracket, hcomment, hnewline, hread]

theorem find?_append_eq_none {es : Entries} {e : Key × Node} (h : es.find? name = none)
    (hne : e.1.name ≠ name) : Entries.find? (es ++ [e]) name = none := by
  simp only [Entries.find?, Option.map_eq_none_iff] at h ⊢
  simp [List.find?_append, h, hne]

theorem readLines_line {e : Key × Node} (h : LineText a t)
    (hread : readLine p (t ++ rest) = some ({ p with root := p.root ++ [e] }, next)) (fuel : Nat) :
    readLines p (fuel + 1) (t ++ rest) = readLines { p with root := p.root ++ [e] } fuel next := by
  obtain ⟨c, cs, rfl, hc⟩ := h.head
  have hblank : (skipBlanks ((c :: cs) ++ rest)).isEmpty = false := by
    rw [List.cons_append, skipBlanks_cons (isBlank_of_isBareKeyChar hc)]
    rfl
  rw [readLines, hblank, hread]
  rfl

/-- All lines are read in order, as long as no name comes twice. -/
theorem readLines_text {fuel : Nat} (h : DocumentText as text) (hfuel : text.length ≤ fuel)
    (hp : p.opened = []) (hnodup : (as.map Prod.fst).Nodup)
    (hnew : ∀ a ∈ as, p.root.find? a.1 = none) :
    ∃ es, readLines p (fuel + 1) text = some (p.root ++ es) ∧ List.Forall₂ Keeps as es := by
  induction h generalizing p fuel with
  | nil => exact ⟨[], by simp [readLines, skipBlanks], .nil⟩
  | @last a t ha =>
    obtain ⟨e, hkeeps, hread⟩ := readLine_text ha (show endLine [] = some [] from rfl)
      (by simp [EndsString]) hp (hnew a (by simp))
    have hlines := readLines_line ha hread fuel
    have hlength := ha.length_pos
    obtain ⟨n, rfl⟩ := Nat.exists_eq_succ_of_ne_zero (show fuel ≠ 0 by omega)
    refine ⟨[e], ?_, .cons hkeeps .nil⟩
    rw [List.append_nil] at hlines
    rw [hlines]
    rfl
  | @line a as t newline rest ha hn has ih =>
    obtain ⟨e, hkeeps, hread⟩ := readLine_text ha (endLine_newline hn rest)
      (endsString_newline hn rest) hp (hnew a (by simp))
    have hlines := readLines_line ha hread fuel
    -- A line has a character at least, so what is left of the fuel covers the lines behind it.
    have hlength := ha.length_pos
    simp only [List.length_append] at hfuel
    obtain ⟨n, rfl⟩ := Nat.exists_eq_succ_of_ne_zero (show fuel ≠ 0 by omega)
    rw [List.map_cons, List.nodup_cons] at hnodup
    have hnew' : ∀ b ∈ as, Entries.find? (p.root ++ [e]) b.1 = none := by
      intro b hb
      apply find?_append_eq_none (hnew b (by simp [hb]))
      intro heq
      exact hnodup.1 (List.mem_map.mpr ⟨b, hb, heq.symm.trans hkeeps.1⟩)
    have hfuel' : rest.length ≤ n := by omega
    obtain ⟨es, hes, hall⟩ :=
      ih (p := { p with root := p.root ++ [e] }) hfuel' hp hnodup.2 hnew'
    refine ⟨e :: es, ?_, .cons hkeeps hall⟩
    rw [hlines, hes, List.append_assoc, List.singleton_append]

theorem DocumentText.isBare (h : DocumentText as text) : ∀ a ∈ as, IsBare a.1 := by
  induction h with
  | nil => simp
  | last ha =>
    intro b hb
    obtain rfl := List.mem_singleton.mp hb
    exact ha.isBare
  | line ha _ _ ih =>
    intro b hb
    rcases List.mem_cons.mp hb with rfl | hb
    · exact ha.isBare
    · exact ih b hb

theorem DocumentText.head (h : DocumentText as text) :
    ∀ c ∈ text.head?, isBareKeyChar c = true := by
  cases h with
  | nil => simp
  | last ha =>
    obtain ⟨c, cs, rfl, hc⟩ := ha.head
    simpa using hc
  | line ha _ _ =>
    obtain ⟨c, cs, rfl, hc⟩ := ha.head
    simpa using hc

theorem parse?_text {text : String} (h : DocumentText as text.toList)
    (hnodup : (as.map Prod.fst).Nodup) :
    ∃ es, parse? text = some es ∧ List.Forall₂ Keeps as es := by
  have hmark : ∀ cs, text.toList ≠ '\ufeff' :: cs := by
    intro cs hcs
    have hbare := h.head '\ufeff' (by rw [hcs]; rfl)
    revert hbare
    decide
  obtain ⟨es, hread, hall⟩ :=
    readLines_text (p := {}) h (Nat.le_refl _) rfl hnodup fun a _ => rfl
  refine ⟨es, ?_, hall⟩
  rw [parse?]
  simpa [hmark] using hread

end Toml

namespace Settings

open Toml (DocumentText IsBare LineText StringText Keeps Key Node isBareKeyChar
  ne_of_isBareKeyChar)

variable {as : List (String × String)} {es : List (Key × Node)} {a : String × String}
  {e : Key × Node} {s : Settings}

/-- A name that the settings have a field for. -/
def IsField (name : String) : Prop := name = "paired_input" ∨ name = "single_input"

instance (name : String) : Decidable (IsField name) := inferInstanceAs (Decidable (_ ∨ _))

/-- The last of lines that are all ended. -/
def lastLine (cs : List Char) : List Char := cs.dropLast.rtakeWhile (· ≠ '\n')

/-- The field that the last line of a text complains about, up to the quote behind it. -/
def unknownField? (text : String) : Option String :=
  ((lastLine text.toList).dropPrefix? "unknown field \x60".toList).map fun cs =>
    String.ofList (cs.takeWhile (· ≠ '\x60'))

/-- The settings with one field set to what was assigned. -/
def set (s : Settings) (a : String × String) : Settings :=
  if a.1 = "paired_input" then { s with pairedInput := a.2 } else { s with singleInput := a.2 }

theorem accept_field (text : String) (s : Settings) (he : Keeps a e) (ha : IsField a.1) :
    accept text s e = .ok (s.set a) := by
  obtain ⟨key, node⟩ := e
  obtain ⟨hname, span, rfl⟩ := he
  simp only at hname
  rcases ha with ha | ha <;>
    simp [accept, set, hname, ha, path, bind, Except.bind, pure, Except.pure]

theorem accept_other (text : String) (s : Settings) (he : Keeps a e) (ha : ¬ IsField a.1) :
    ∃ place, accept text s e = .error (.unknownField a.1 place) := by
  obtain ⟨key, node⟩ := e
  obtain ⟨hname, span, rfl⟩ := he
  simp only at hname
  rw [IsField, not_or] at ha
  exact ⟨_, by simp [accept, hname, ha]; rfl⟩

/-- Fields are taken one after the other. -/
theorem foldlM_accept (text : String) (s : Settings) (h : List.Forall₂ Keeps as es)
    (hfields : ∀ a ∈ as, IsField a.1) : es.foldlM (accept text) s = .ok (as.foldl set s) := by
  induction h generalizing s with
  | nil => rfl
  | @cons a e as es he _ ih =>
    rw [List.foldlM_cons, accept_field text s he (hfields a (by simp))]
    exact ih _ fun b hb => hfields b (by simp [hb])

/-- The first name that is no field ends it. -/
theorem exists_foldlM_error (text : String) (s : Settings) {front back : List (String × String)}
    {name value : String} (h : List.Forall₂ Keeps (front ++ (name, value) :: back) es)
    (hfields : ∀ a ∈ front, IsField a.1) (hother : ¬ IsField name) :
    ∃ place, es.foldlM (accept text) s = .error (.unknownField name place) := by
  induction front generalizing s es with
  | nil =>
    obtain ⟨e, rest, he, -, rfl⟩ := List.forall₂_cons_left_iff.mp h
    obtain ⟨place, hplace⟩ := accept_other text s he hother
    refine ⟨place, ?_⟩
    rw [List.foldlM_cons, hplace]
    rfl
  | cons a front ih =>
    obtain ⟨e, rest, he, hrest, rfl⟩ := List.forall₂_cons_left_iff.mp h
    rw [List.foldlM_cons, accept_field text s he (hfields a (by simp))]
    exact ih _ hrest fun b hb => hfields b (by simp [hb])

theorem lookup_eq_none {name : String} (h : name ∉ as.map Prod.fst) : as.lookup name = none := by
  rw [List.lookup_eq_none_iff]
  intro a ha
  rw [bne_iff_ne]
  rintro rfl
  exact h (List.mem_map_of_mem ha)

/-- Each field is what was assigned to it, or what it was before. -/
theorem foldl_set (s : Settings) (hfields : ∀ a ∈ as, IsField a.1)
    (hnodup : (as.map Prod.fst).Nodup) : as.foldl set s =
      { pairedInput := (as.lookup "paired_input").getD s.pairedInput
        singleInput := (as.lookup "single_input").getD s.singleInput } := by
  induction as generalizing s with
  | nil => rfl
  | cons a as ih =>
    obtain ⟨name, value⟩ := a
    rw [List.map_cons, List.nodup_cons] at hnodup
    have hnone := lookup_eq_none hnodup.1
    rw [List.foldl_cons, ih _ (fun b hb => hfields b (by simp [hb])) hnodup.2]
    rcases hfields (name, value) (by simp) with rfl | rfl
    · simp [List.lookup_cons, hnone, set]
    · simp [List.lookup_cons, hnone, set]

theorem lastLine_append {front line : List Char} (h : '\n' ∉ line) :
    lastLine (front ++ '\n' :: (line ++ ['\n'])) = line := by
  have hline : ∀ c ∈ line.reverse, decide (c ≠ '\n') = true := by
    intro c hc
    rw [decide_eq_true_iff]
    rintro rfl
    exact h (List.mem_reverse.mp hc)
  have hdrop : (front ++ '\n' :: (line ++ ['\n'])).dropLast = front ++ '\n' :: line := by
    rw [← List.cons_append, ← List.append_assoc, List.dropLast_concat]
  rw [lastLine, hdrop, List.rtakeWhile, List.reverse_append, List.reverse_cons, List.append_assoc,
    List.takeWhile_append_of_pos hline]
  simp

theorem Excerpt.exists_render (e : Excerpt) : ∃ front, e.render = front ++ "\n" := by
  unfold Excerpt.render
  exact ⟨_, rfl⟩

/-- The excerpt ends its own lines, so the complaint is all that stands on the last one. -/
theorem unknownField?_message {name : String} (h : IsBare name) (place : Excerpt) :
    unknownField? (Error.invalidSettings (Fault.unknownField name place).message).message =
      some name := by
  let line := "unknown field \x60".toList ++
    (name.toList ++ '\x60' :: ", expected \x60paired_input\x60 or \x60single_input\x60".toList)
  have htext : (Error.invalidSettings (Fault.unknownField name place).message).message =
      "Invalid config: " ++ (place.render ++ "unknown field \x60" ++ name ++
        "\x60, expected \x60paired_input\x60 or \x60single_input\x60\n") := rfl
  obtain ⟨excerpt, hexcerpt⟩ := place.exists_render
  have hlines : (Error.invalidSettings (Fault.unknownField name place).message).message.toList =
      ("Invalid config: " ++ excerpt).toList ++ '\n' :: (line ++ ['\n']) := by
    rw [htext, hexcerpt]
    simp [line]
  -- A bare name ends neither the line nor the quotation it stands in.
  have hname : ∀ c ∈ name.toList, isBareKeyChar c = true := List.all_eq_true.mp h.2
  have hquote : ∀ c ∈ name.toList, decide (c ≠ '\x60') = true := by
    intro c hc
    simpa using ne_of_isBareKeyChar (hname c hc) (by decide)
  have hbreak : '\n' ∉ line := by
    have hfeed : '\n' ∉ name.toList := fun hc => ne_of_isBareKeyChar (hname _ hc) (by decide) rfl
    simp [line, hfeed]
  rw [unknownField?, hlines, lastLine_append hbreak,
    List.dropPrefix?_append_of_beq _ (BEq.refl "unknown field \x60".toList), Option.map_some,
    List.takeWhile_append_of_pos hquote]
  simp

/-- Every string can be written, and however the strings of a document are: with fields only, in any
order, they are taken exactly, and what is left out has its default. Any other name is an error, and
its text tells the first of them. -/
theorem ofToml_document :
    (∀ value : String, StringText value.toList (Toml.basicString value).toList) ∧
    ∀ (as : List (String × String)) (text : String), DocumentText as text.toList →
      (as.map Prod.fst).Nodup →
      ((∀ a ∈ as, IsField a.1) → ofToml text = .ok
        { pairedInput := (as.lookup "paired_input").getD "transferFrom.txt"
          singleInput := (as.lookup "single_input").getD "all.txt" }) ∧
      ∀ front name value back, as = front ++ (name, value) :: back →
        (∀ a ∈ front, IsField a.1) → ¬ IsField name →
        ∃ detail, ofToml text = .error (.invalidSettings detail) ∧
          unknownField? (Error.invalidSettings detail).message = some name := by
  refine ⟨Toml.stringText_basicString, ?_⟩
  intro as text h hnodup
  obtain ⟨es, hparse, hkeeps⟩ := Toml.parse?_text h hnodup
  constructor
  · intro hfields
    rw [ofToml_eq_ok_iff, parse, hparse]
    exact (foldlM_accept text {} hkeeps hfields).trans
      (congrArg Except.ok (foldl_set {} hfields hnodup))
  · rintro front name value back rfl hfields hother
    obtain ⟨place, hplace⟩ := exists_foldlM_error text {} hkeeps hfields hother
    have hfault : parse text = .error (.unknownField name place) := by
      rw [parse, hparse]
      exact hplace
    have hbare : IsBare name := h.isBare (name, value) (by simp)
    exact ⟨_, ofToml_eq_error hfault, unknownField?_message hbare place⟩

/-- Strings of all four kinds. The second document has lines of its own among those of the first. -/
theorem ofToml_document_mixed :
    let p := "a\"b\\c\n\x07.txt"
    let fields := [("single_input", "C:\\t"), ("paired_input", p)]
    let others := [("single_input", "C:\\t"), ("x-1", "\""), ("paired_input", p), ("2", "")]
    let fieldsText :=
      "single_input = 'C:\\t'\r\npaired_input = \"a\\\"b\\\\c\\u000a\\u0007.txt\""
    let othersText := "single_input = 'C:\\t'\r\nx-1 = \"\"\"\"\"\"\"\n" ++
      "paired_input = \"a\\\"b\\\\c\\u000a\\u0007.txt\"\n2 = ''''''\n"
    (DocumentText fields fieldsText.toList ∧ ofToml fieldsText = .ok ⟨p, "C:\\t"⟩) ∧
      DocumentText others othersText.toList ∧
      ∃ detail, ofToml othersText = .error (.invalidSettings detail) ∧
        unknownField? (Error.invalidSettings detail).message = some "x-1" := by
  intro p fields others fieldsText othersText
  have hsingle := LineText.intro (show IsBare "single_input" by decide +kernel)
    (show StringText "C:\\t".toList ['\'', 'C', ':', '\\', 't', '\''] from
      .literal (.cons (.plain rfl (by decide)) (.cons (.plain rfl (by decide))
        (.cons (.plain rfl (by decide)) (.cons (.plain rfl (by decide)) .nil)))))
  have hother := LineText.intro (show IsBare "x-1" by decide +kernel)
    (show StringText "\"".toList (List.replicate 7 '"') from
      .longBasic (.last (n := 1) (by decide)))
  have hpaired := LineText.intro (show IsBare "paired_input" by decide +kernel) (ofToml_document.1 p)
  have hlast := LineText.intro (show IsBare "2" by decide +kernel)
    (show StringText "".toList (List.replicate 6 '\'') from
      .longLiteral (.last (n := 0) (by decide)))
  have hfields : DocumentText fields fieldsText.toList := by
    have h := DocumentText.line hsingle .returnLineFeed (.last hpaired)
    convert h using 1
    decide +kernel
  have hothers : DocumentText others othersText.toList := by
    have h := DocumentText.line hsingle .returnLineFeed (.line hother .lineFeed
      (.line hpaired .lineFeed (.line hlast .lineFeed .nil)))
    convert h using 1
    decide +kernel
  refine ⟨⟨hfields, (ofToml_document.2 _ _ hfields (by decide +kernel)).1 ?_⟩, hothers,
    (ofToml_document.2 _ _ hothers (by decide +kernel)).2 [("single_input", "C:\\t")] "x-1" _ _ rfl
      ?_ (by decide +kernel)⟩
  · simp [fields, IsField]
  · simp [IsField]

end Settings

end TraceTally
