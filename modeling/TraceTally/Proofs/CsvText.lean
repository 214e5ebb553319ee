import TraceTally.Proofs.History
import TraceTally.Report.Csv

/-! Comma-separated values, written and read. The reader takes exactly the texts of a grammar, and
the text of a tally is one of them whatever its keys hold. -/
namespace TraceTally.Report.Csv

variable {c : Char} {cs ds rest field value : List Char} {s : String} {fs fields : List String}
  {rs : List (List String)} {st : FieldState}

/-- How a value stands in a field: as it is, or between quotes with its own quotes doubled. -/
inductive FieldText : List Char → List Char → Prop
  | bare {cs : List Char} (hq : cs.head? ≠ some '"') (hc : ∀ c ∈ cs, c ≠ ',' ∧ c ≠ '\n') :
      FieldText cs cs
  | quoted (cs : List Char) : FieldText ('"' :: doubleQuotes cs ++ ['"']) cs

/-- A record: fields with commas between them, ended by a line feed. -/
inductive RecordText : List Char → List String → Prop
  | last {cs : List Char} {s : String} (h : FieldText cs s.toList) : RecordText (cs ++ ['\n']) [s]
  | cons {cs ds : List Char} {s : String} {fs : List String} (h : FieldText cs s.toList)
      (ht : RecordText ds fs) : RecordText (cs ++ ',' :: ds) (s :: fs)

/-- Records one after the other. -/
inductive TableText : List Char → List (List String) → Prop
  | nil : TableText [] []
  | cons {cs ds : List Char} {fs : List String} {rs : List (List String)} (h : RecordText cs fs)
      (ht : TableText ds rs) : TableText (cs ++ ds) (fs :: rs)

theorem doubleQuotes_append (cs ds : List Char) :
    doubleQuotes (cs ++ ds) = doubleQuotes cs ++ doubleQuotes ds := by
  simp [doubleQuotes]

theorem readRecords_comma (h : st ≠ .quoted) (field : List Char) (fields : List String)
    (rest : List Char) : readRecords st field fields (',' :: rest) =
      readRecords .start [] (String.ofList field.reverse :: fields) rest := by
  simp [readRecords, h]

theorem readRecords_lineFeed (h : st ≠ .quoted) (field : List Char) (fields : List String)
    (rest : List Char) : readRecords st field fields ('\n' :: rest) =
      (readRecords .start [] [] rest).map
        ((String.ofList field.reverse :: fields).reverse :: ·) := by
  simp [readRecords, h]

/-- Between quotes everything is taken up to the quote that closes them. -/
theorem readRecords_doubleQuotes (cs field : List Char) (fields : List String)
    (rest : List Char) : readRecords .quoted field fields (doubleQuotes cs ++ '"' :: rest) =
      readRecords .closed (cs.reverse ++ field) fields rest := by
  induction cs generalizing field with
  | nil => simp [doubleQuotes, readRecords]
  | cons c cs ih =>
    rw [← List.singleton_append, doubleQuotes_append, List.append_assoc]
    by_cases hc : c = '"'
    · subst c
      simp [doubleQuotes, readRecords, ← ih]
    · simp [doubleQuotes, readRecords, hc, ← ih]

theorem readRecords_bare (hc : ∀ c ∈ cs, c ≠ ',' ∧ c ≠ '\n') (field : List Char)
    (fields : List String) (rest : List Char) : readRecords .bare field fields (cs ++ rest) =
      readRecords .bare (cs.reverse ++ field) fields rest := by
  induction cs generalizing field with
  | nil => rfl
  | cons c cs ih =>
    obtain ⟨hcomma, hfeed⟩ := hc c (by simp)
    have hcs := ih (fun d hd => hc d (by simp [hd])) (c :: field)
    simp [readRecords, hcomma, hfeed, hcs]

/-- The reader comes to the end of a field outside quotes and with the value in hand. -/
theorem readRecords_fieldText (h : FieldText cs value) (fields : List String)
    (rest : List Char) : ∃ st, st ≠ .quoted ∧
      readRecords .start [] fields (cs ++ rest) = readRecords st value.reverse fields rest := by
  cases h with
  | bare hq hc =>
    cases cs with
    | nil => exact ⟨.start, by simp, rfl⟩
    | cons c cs =>
      obtain ⟨hcomma, hfeed⟩ := hc c (by simp)
      have hquote : c ≠ '"' := by simpa using hq
      have hcs := readRecords_bare (fun d hd => hc d (List.mem_cons_of_mem c hd)) [c] fields rest
      refine ⟨.bare, by simp, ?_⟩
      simp [readRecords, hcomma, hfeed, hquote, hcs]
  | quoted =>
    refine ⟨.closed, by simp, ?_⟩
    have hcs := readRecords_doubleQuotes value [] fields rest
    simp [readRecords, hcs]

theorem readRecords_recordText (h : RecordText cs fs) (fields : List String)
    (rest : List Char) : readRecords .start [] fields (cs ++ rest) =
      (readRecords .start [] [] rest).map ((fields.reverse ++ fs) :: ·) := by
  induction h generalizing fields with
  | last h =>
    obtain ⟨st, hst, hread⟩ := readRecords_fieldText h fields ('\n' :: rest)
    rw [List.append_assoc, List.singleton_append, hread, readRecords_lineFeed hst]
    simp
  | @cons cs ds s fs h _ ih =>
    obtain ⟨st, hst, hread⟩ := readRecords_fieldText h fields (',' :: (ds ++ rest))
    rw [List.append_assoc, List.cons_append, hread, readRecords_comma hst, ih]
    simp

theorem readRecords_of_tableText (h : TableText cs rs) :
    readRecords .start [] [] cs = some rs := by
  induction h with
  | nil => rfl
  | cons h _ ih =>
    rw [readRecords_recordText h, ih]
    rfl

/-- The text of what was read of a field so far. -/
inductive Begun : FieldState → List Char → List Char → Prop
  | start : Begun .start [] []
  | bare {c : Char} {cs : List Char} (hq : c ≠ '"') (hc : ∀ d ∈ c :: cs, d ≠ ',' ∧ d ≠ '\n') :
      Begun .bare (c :: cs) (c :: cs)
  | quoted (cs : List Char) : Begun .quoted ('"' :: doubleQuotes cs) cs
  | closed (cs : List Char) : Begun .closed ('"' :: doubleQuotes cs ++ ['"']) cs

theorem Begun.fieldText (h : Begun st cs value) (hst : st ≠ .quoted) : FieldText cs value := by
  cases h with
  | start => exact .bare (by simp) (by simp)
  | bare hq hc => exact .bare (by simpa using hq) hc
  | quoted => exact (hst rfl).elim
  | closed => exact .quoted value

theorem Begun.eq_nil (h : Begun .start cs value) : cs = [] := by
  cases h
  rfl

/-- The text after the fields of a record that were read, which stand last first. -/
inductive RestText : List String → List Char → List (List String) → Prop
  | nil : RestText [] [] []
  | record {cs ds : List Char} {fs fields : List String} {rs : List (List String)}
      (h : RecordText cs fs) (ht : TableText ds rs) :
      RestText fields (cs ++ ds) ((fields.reverse ++ fs) :: rs)

theorem RestText.tableText (h : RestText [] cs rs) : TableText cs rs := by
  cases h with
  | nil => exact .nil
  | record h ht => exact .cons h ht

theorem RestText.comma (h : FieldText cs s.toList) (ht : RestText (s :: fields) ds rs) :
    RestText fields (cs ++ ',' :: ds) rs := by
  cases ht with
  | @record cs' ds' fs _ rs' h' ht' =>
    have hrest : RestText fields _ _ := .record (.cons h h') ht'
    simpa using hrest

theorem RestText.lineFeed (h : FieldText cs s.toList) (ht : TableText ds rs) :
    RestText fields (cs ++ '\n' :: ds) ((s :: fields).reverse :: rs) := by
  have hrest : RestText fields _ _ := .record (.last h) ht
  simpa using hrest

theorem Begun.quoted_snoc (h : Begun .quoted cs value) (hc : c ≠ '"') :
    Begun .quoted (cs ++ [c]) (value ++ [c]) := by
  cases h
  have hq := Begun.quoted (value ++ [c])
  simpa [doubleQuotes_append, doubleQuotes, hc] using hq

theorem Begun.close (h : Begun .quoted cs value) : Begun .closed (cs ++ ['"']) value := by
  cases h
  exact .closed value

/-- A quote behind a closing one takes it back and counts as part of the value. -/
theorem Begun.reopen (h : Begun .closed cs value) :
    Begun .quoted (cs ++ ['"']) (value ++ ['"']) := by
  cases h
  have hq := Begun.quoted (value ++ ['"'])
  simpa [doubleQuotes_append, doubleQuotes] using hq

theorem Begun.bare_snoc (h : Begun st cs value) (hst : st ≠ .quoted ∧ st ≠ .closed)
    (hq : st = .start → c ≠ '"') (hc : c ≠ ',' ∧ c ≠ '\n') :
    Begun .bare (cs ++ [c]) (value ++ [c]) := by
  cases h with
  | start => exact .bare (hq rfl) (by simpa using hc)
  | bare hfirst hcs =>
    refine .bare hfirst ?_
    intro d hd
    obtain hd | hd := List.mem_append.mp (List.cons_append ▸ hd)
    · exact hcs d hd
    · rw [List.mem_singleton.mp hd]
      exact hc
  | quoted => exact (hst.1 rfl).elim
  | closed => exact (hst.2 rfl).elim

/-- What the reader accepts from any place in a field on. Each character leads from one begun field
to the next, or ends the field. -/
theorem restText_of_readRecords (hb : Begun st cs field.reverse)
    (h : readRecords st field fields ds = some rs) : RestText fields (cs ++ ds) rs := by
  fun_induction readRecords st field fields ds generalizing cs rs with
  | case1 st field fields hst =>
    obtain ⟨rfl, rfl⟩ := hst
    cases h
    rw [hb.eq_nil]
    exact .nil
  | case2 => cases h
  | case3 field fields ds ih =>
    rw [List.append_cons]
    exact ih hb.close h
  | case4 field fields c ds hc ih =>
    rw [List.append_cons]
    exact ih (by simpa using hb.quoted_snoc hc) h
  | case5 st field fields c ds _ hst ih =>
    obtain ⟨rfl, rfl⟩ := hst
    rw [List.append_cons]
    exact ih (by simpa using hb.reopen) h
  | case6 st field fields ds hst _ ih =>
    have hf : FieldText cs (String.ofList field.reverse).toList := by
      simpa using hb.fieldText hst
    exact .comma hf (ih .start h)
  | case7 st field fields ds hst _ _ ih =>
    have hf : FieldText cs (String.ofList field.reverse).toList := by
      simpa using hb.fieldText hst
    obtain ⟨rs, hrs, rfl⟩ := Option.map_eq_some_iff.mp h
    exact .lineFeed hf (ih .start hrs).tableText
  | case8 => cases h
  | case9 st field fields c ds _ _ _ _ _ hst ih =>
    obtain ⟨rfl, rfl⟩ := hst
    rw [hb.eq_nil]
    exact ih (.quoted []) h
  | case10 st field fields c ds hquoted _ hcomma hfeed hclosed hstart ih =>
    have hq : st = .start → c ≠ '"' := fun hst hc => hstart ⟨hst, hc⟩
    rw [List.append_cons]
    exact ih (by simpa using hb.bare_snoc ⟨hquoted, hclosed⟩ hq ⟨hcomma, hfeed⟩) h

theorem parse?_eq_some_iff : parse? s = some rs ↔ TableText s.toList rs := by
  constructor
  · intro h
    exact (restText_of_readRecords .start h).tableText
  · exact readRecords_of_tableText

theorem fieldText_field (s : String) : FieldText (Csv.field s).toList s.toList := by
  unfold Csv.field
  split
  · rw [String.toList_ofList]
    exact .quoted s.toList
  · rename_i h
    rw [List.any_eq_true, not_exists] at h
    have hchar : ∀ c ∈ s.toList, c ≠ ',' ∧ c ≠ '"' ∧ c ≠ '\n' := by
      intro c hc
      have hplain : ¬ needsQuotes c = true := fun hq => h c ⟨hc, hq⟩
      simp only [needsQuotes, Bool.or_eq_true, decide_eq_true_eq, not_or] at hplain
      exact ⟨hplain.1.1.1, hplain.1.1.2, hplain.1.2⟩
    refine .bare ?_ ?_
    · intro hq
      exact (hchar '"' (List.mem_of_head? hq)).2.1 rfl
    · intro c hc
      exact ⟨(hchar c hc).1, (hchar c hc).2.2⟩

theorem recordText_row (s : String) (fs : List String) :
    RecordText (row (s :: fs)).toList (s :: fs) := by
  induction fs generalizing s with
  | nil => simpa [row] using RecordText.last (fieldText_field s)
  | cons f fs ih => simpa [row] using RecordText.cons (fieldText_field s) (ih f)

/-- No value runs over into the next, whatever it holds. -/
theorem tableText_rows (rs : List (List String)) (h : ∀ fs ∈ rs, fs ≠ []) :
    TableText (String.join (rs.map row)).toList rs := by
  induction rs with
  | nil => exact .nil
  | cons fs rs ih =>
    obtain ⟨f, fs, rfl⟩ := List.exists_cons_of_ne_nil (h fs (by simp))
    have hrs := ih fun gs hg => h gs (by simp [hg])
    simpa using TableText.cons (recordText_row f fs) hrs

theorem ne_nil_of_mem_records {t : Tally} (h : fs ∈ records t) : fs ≠ [] := by
  rw [records, List.mem_cons, List.mem_map] at h
  obtain rfl | ⟨e, -, rfl⟩ := h
  · cases t.mode <;> simp [header]
  · cases t.mode <;> simp [record]

/-- Every tally is read back from its text. -/
theorem parse?_render_eq (t : Tally) : parse? (render t) = some (records t) :=
  parse?_eq_some_iff.mpr (tableText_rows _ fun _ => ne_nil_of_mem_records)

theorem render_inj {t t' : Tally} : render t = render t' ↔ records t = records t' := by
  constructor
  · intro h
    have hread := congrArg parse? h
    rw [parse?_render_eq, parse?_render_eq] at hread
    exact Option.some.inj hread
  · intro h
    rw [render, render, h]

/-- The record of an account, which has a time in paired mode only. -/
def accountRecord (mode : Mode) (a : Account) : List String :=
  match mode with
  | .single => [a.key, toString a.count]
  | .paired => [a.key, toString a.count, toString a.time]

theorem record_eq_accountRecord (mode : Mode) (e : Entry) :
    record mode e = accountRecord mode e.account := by
  cases mode <;> rfl

theorem records_of_reports {t : Tally} {accounts : List Account} (h : t.Reports accounts) :
    records t = header t.mode :: accounts.map (accountRecord t.mode) := by
  simp [records, ← h.entries, record_eq_accountRecord]

/-- Keys, counts and durations of a tally, in order of first sight. -/
def keyTimes (t : Tally) : List (String × UInt64 × Int64) :=
  t.entries.toList.map fun e => (e.key, e.stats.count, e.stats.duration)

def countCells (p : String × UInt64) : List String := [p.1, toString p.2.toNat]

def timeCells (p : String × UInt64 × Int64) : List String :=
  [p.1, toString p.2.1.toNat, Duration.text p.2.2]

theorem toString_toNat_inj {m n : UInt64} (h : toString m.toNat = toString n.toNat) : m = n :=
  UInt64.toNat_inj.mp (Nat.repr_injective h)

theorem text_inj {a b : Int64} (h : Duration.text a = Duration.text b) : a = b :=
  Int64.toInt_inj.mp (Int.repr_inj.mp h)

theorem countCells_injective : Function.Injective countCells := by
  rintro ⟨k, m⟩ ⟨k', n⟩ h
  simp only [countCells, List.cons.injEq, and_true] at h
  rw [h.1, toString_toNat_inj h.2]

theorem timeCells_injective : Function.Injective timeCells := by
  rintro ⟨k, m, a⟩ ⟨k', n, b⟩ h
  simp only [timeCells, List.cons.injEq, and_true] at h
  rw [h.1, toString_toNat_inj h.2.1, text_inj h.2.2]

theorem records_single {t : Tally} (h : t.mode = .single) :
    records t = ["key", "count"] :: t.counted.map countCells := by
  rw [records, h, Tally.counted, List.map_map]
  rfl

theorem records_paired {t : Tally} (h : t.mode = .paired) :
    records t = ["key", "count", "duration"] :: (keyTimes t).map timeCells := by
  rw [records, h, keyTimes, List.map_map]
  rfl

theorem records_inj {t t' : Tally} : records t = records t' ↔
    (t.mode = .single ∧ t'.mode = .single ∧ t.counted = t'.counted) ∨
      (t.mode = .paired ∧ t'.mode = .paired ∧ keyTimes t = keyTimes t') := by
  have hcounts := (List.map_injective_iff.mpr countCells_injective).eq_iff
    (a := t.counted) (b := t'.counted)
  have htimes := (List.map_injective_iff.mpr timeCells_injective).eq_iff
    (a := keyTimes t) (b := keyTimes t')
  cases h : t.mode with
  | single =>
    cases h' : t'.mode with
    | single => simp [records_single h, records_single h', hcounts]
    | paired => simp [records_single h, records_paired h']
  | paired =>
    cases h' : t'.mode with
    | single => simp [records_paired h, records_single h']
    | paired => simp [records_paired h, records_paired h', htimes]

/-- The reader takes exactly the texts of the grammar, and every history leaves a tally whose text
it takes back: the header, then for each key its number of accepted recordings and, in paired mode,
the exact sum of their durations. So the text shows all of this and nothing else. -/
theorem parse?_render_ledger :
    (∀ (s : String) (rs : List (List String)), parse? s = some rs ↔ TableText s.toList rs) ∧
      (∀ (mode : Mode) (rs : List Recording),
        let t := ((Tally.empty mode).run rs).1
        let ok := Tally.accepted rs ((Tally.empty mode).run rs).2
        parse? (render t) = some (header mode ::
            ((Recording.ledger ok).map Account.wrap).map (accountRecord mode)) ∧
          (rs.length < 2 ^ 64 → parse? (render t) = some (header mode ::
            (Recording.ledger ok).map (accountRecord mode)))) ∧
      ∀ t t' : Tally, render t = render t' ↔
        (t.mode = .single ∧ t'.mode = .single ∧ t.counted = t'.counted) ∨
          (t.mode = .paired ∧ t'.mode = .paired ∧ keyTimes t = keyTimes t') := by
  refine ⟨fun s rs => parse?_eq_some_iff, ?_, fun t t' => render_inj.trans records_inj⟩
  intro mode rs t ok
  have hk : Tally.Keeps t ok := (Tally.keeps_empty mode).keeps_run rs
  have hmode : t.mode = mode := Tally.mode_run _ rs
  rw [parse?_render_eq, ← hmode]
  refine ⟨by rw [records_of_reports hk.reports], ?_⟩
  intro hl
  have hok : ok.length < 2 ^ 64 := Nat.lt_of_le_of_lt (Tally.length_accepted_le rs _) hl
  rw [records_of_reports (hk.reports_exact hok)]

/-- A key that looks like a row, one that is a quote, and an empty one. -/
theorem parse?_render_ledger_hostile :
    let rs : List Recording := [.timed "a,1,2\nb" (-5), .timed "\"" Int64.maxValue, .timed "\"" 1,
      .plain "", .plain "x\r"]
    let t := ((Tally.empty .paired).run rs).1
    rs.length < 2 ^ 64 ∧ parse? (render t) = some
      [["key", "count", "duration"], ["a,1,2\nb", "1", "-5"], ["\"", "1", "9223372036854775807"],
        ["", "1", "0"], ["x\r", "1", "0"]] := by
  intro rs t
  have hl : rs.length < 2 ^ 64 := by decide
  have hledger : Recording.ledger (Tally.accepted rs ((Tally.empty .paired).run rs).2) =
      [⟨"a,1,2\nb", 1, -5⟩, ⟨"\"", 1, 2 ^ 63 - 1⟩, ⟨"", 1, 0⟩, ⟨"x\r", 1, 0⟩] := by
    decide +kernel
  refine ⟨hl, ?_⟩
  rw [(parse?_render_ledger.2.1 .paired rs).2 hl, hledger]
  decide +kernel

end TraceTally.Report.Csv
