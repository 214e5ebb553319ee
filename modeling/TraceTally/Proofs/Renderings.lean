import TraceTally.Proofs.CsvText
import TraceTally.Proofs.DocumentText
import TraceTally.Proofs.DurationGrammar
import TraceTally.Proofs.LineBreaks
import TraceTally.Proofs.Passes
import TraceTally.Proofs.SessionOutcome

/-! The forms in which a session prints one input. Columns, records and document say the same of
every key, whichever was selected and whether or not a summary was asked for. -/
namespace TraceTally

open CommandLine (Format Invocation)

namespace Entry

theorem not_isBreak_countText (e : Entry) : ∀ c ∈ e.countText.toList, ¬ Text.IsBreak c := by
  intro c hc
  have htext : e.countText = Nat.repr e.stats.count.toNat := rfl
  rw [htext, Nat.repr_eq_ofList_toDigits, String.toList_ofList] at hc
  exact Text.not_isBreak_of_isDigit (Json.isDigit_toDigits _ c hc)

theorem not_isBreak_durationText (e : Entry) :
    ∀ c ∈ e.durationText.toList, ¬ Text.IsBreak c := by
  intro c hc
  rw [durationText, Duration.toList_text, List.mem_append] at hc
  obtain hc | hc := hc
  · obtain ⟨-, hs⟩ | ⟨-, hs⟩ := Duration.signOf_cases e.stats.duration
    · obtain rfl : c = '-' := by simpa [hs] using hc
      decide
    · simp [hs] at hc
  · exact Text.not_isBreak_of_isDigit (Json.isDigit_toDigits _ c hc)

end Entry

namespace Tally

variable {t : Tally}

/-- No key holds a line break. -/
def OneLineKeys (t : Tally) : Prop := ∀ k ∈ t.keys, ∀ c ∈ k.toList, ¬ Text.IsBreak c

theorem oneLineKeys_ofLines (s : String) : (ofLines (Text.lines s)).OneLineKeys :=
  fun _ hk => Text.not_isBreak_of_mem_lines (mem_of_mem_keys_ofLines hk)

theorem oneLineKeys_ofPairedLines {s : String} (h : ofPairedLines (Text.lines s) = .ok t) :
    t.OneLineKeys :=
  fun _ hk => Text.not_isBreak_of_mem_lines (mem_of_mem_keys_ofPairedLines h hk)

/-- A column comes back from its text, which quotes nothing. -/
theorem lines_columnText (h : t.OneLineKeys) (sel : Selector) :
    Text.lines (t.columnText sel) = t.column sel := by
  apply Text.lines_unlines
  intro l hl
  obtain ⟨e, he, rfl⟩ := List.mem_map.mp hl
  cases sel with
  | keys => exact h e.key (List.mem_map_of_mem he)
  | counts => exact e.not_isBreak_countText
  | durations => exact e.not_isBreak_durationText

end Tally

namespace Report

variable {t : Tally} {ok : List Recording}

/-- What an entry of a document says, in the texts that a record would hold. -/
def DocumentEntry.cells (e : DocumentEntry) : List String :=
  [e.key, toString e.count.toNat] ++ (e.duration.map Duration.text).toList

/-- Records and a document that say the same, row by row. The document also sums it up, in words. -/
structure SameTable (mode : Mode) (csv json : String) (rows : List (List String))
    (d : Document) : Prop where
  records : Csv.parse? csv = some (Csv.header mode :: rows)
  document : Document.parse? json = some d
  mode : d.mode = mode
  entries : d.entries.map DocumentEntry.cells = rows
  distinctKeys : d.summary.distinctKeys = UInt64.ofNat rows.length
  totalCount : d.summary.totalCount = UInt64.ofNat (d.entries.map (·.count.toNat)).sum

/-- The summary of a document gives the number of its keys, which is `n`, and the sum of its
counts. -/
structure SummedUp (d : Document) (n : Nat) : Prop where
  distinctKeys : d.summary.distinctKeys.toNat = n
  totalCount : d.summary.totalCount.toNat = (d.entries.map (·.count.toNat)).sum

/-- The columns of a paired tally have one value each for every row. -/
structure PairedColumns (keys counts times : List String) (rows : List (List String)) : Prop where
  keys_length : keys.length = rows.length
  counts_length : counts.length = rows.length
  times_length : times.length = rows.length
  row : ∀ i < rows.length, ∃ k c d, keys[i]? = some k ∧ counts[i]? = some c ∧
    times[i]? = some d ∧ rows[i]? = some [k, c, d]

/-- The keys of a single tally stand in front of the rows. -/
structure SingleColumn (keys : List String) (rows : List (List String)) : Prop where
  keys_length : keys.length = rows.length
  row : ∀ i < rows.length, ∃ k c, keys[i]? = some k ∧ rows[i]? = some [k, c]

/-- The records of a tally below the header. -/
def Csv.body (t : Tally) : List (List String) := t.entries.toList.map (Csv.record t.mode)

theorem cells_ofTally (t : Tally) :
    (Document.ofTally t).entries.map DocumentEntry.cells = Csv.body t := by
  rw [Document.ofTally, Csv.body, List.map_map]
  apply List.map_congr_left
  intro e _
  cases t.mode <;> rfl

theorem counts_ofTally (t : Tally) : (Document.ofTally t).entries.map (·.count.toNat) =
    t.entries.toList.map fun e => e.stats.count.toNat := by
  rw [Document.ofTally, List.map_map]
  rfl

theorem Document.parse?_render_lineFeed (d : Document) :
    Document.parse? (d.render ++ "\n") = some d := by
  have hblank : ∀ c ∈ "\n".toList, Json.isBlank c = true := by simp [Json.isBlank]
  rw [Document.parse?, Document.render, Json.parse?_pretty_append _ _ hblank]
  exact Document.ofJson?_toJson d

theorem sameTable_of_tally (t : Tally) :
    SameTable t.mode (Csv.render t) ((Document.ofTally t).render ++ "\n") (Csv.body t)
      (Document.ofTally t) where
  records := Csv.parse?_render_eq t
  document := Document.parse?_render_lineFeed _
  mode := rfl
  entries := cells_ofTally t
  distinctKeys := by simp [Document.ofTally, Tally.totals, Tally.size, Csv.body]
  totalCount := by
    rw [counts_ofTally]
    exact t.totals_count

/-- Words are wide enough as long as the recordings can be counted in one. -/
theorem summedUp_ofTally (h : Tally.Keeps t ok) (hl : ok.length < 2 ^ 64) :
    SummedUp (Document.ofTally t) (Csv.body t).length := by
  have hsize : (Csv.body t).length = t.size := by simp [Csv.body, Tally.size]
  have hkeys : t.size < 2 ^ 64 := by
    rw [Tally.size_eq h]
    exact Nat.lt_of_le_of_lt (Recording.length_firstKeys_le ok) hl
  have hsum := Tally.sum_counts h hl
  constructor
  · rw [hsize]
    exact UInt64.toNat_ofNat_of_lt' hkeys
  · have htotal : (Document.ofTally t).summary.totalCount = t.totals.count := rfl
    rw [htotal, t.totals_count, counts_ofTally, hsum]
    exact UInt64.toNat_ofNat_of_lt' hl

theorem getElem?_column {e : Entry} {i : Nat} (h : t.entries.toList[i]? = some e)
    (sel : Selector) : (t.column sel)[i]? = some (e.cell sel) := by
  rw [Tally.column, List.getElem?_map, h, Option.map_some]

theorem getElem?_body {e : Entry} {i : Nat} (h : t.entries.toList[i]? = some e) :
    (Csv.body t)[i]? = some (Csv.record t.mode e) := by
  rw [Csv.body, List.getElem?_map, h, Option.map_some]

theorem exists_entry_of_lt {i : Nat} (h : i < (Csv.body t).length) :
    ∃ e, t.entries.toList[i]? = some e := by
  rw [Csv.body, List.length_map] at h
  exact ⟨_, List.getElem?_eq_getElem h⟩

theorem length_column (t : Tally) (sel : Selector) :
    (t.column sel).length = (Csv.body t).length := by
  rw [Tally.column, Csv.body, List.length_map, List.length_map]

theorem pairedColumns_of_mode (h : t.mode = .paired) :
    PairedColumns (t.column .keys) (t.column .counts) (t.column .durations) (Csv.body t) where
  keys_length := length_column t .keys
  counts_length := length_column t .counts
  times_length := length_column t .durations
  row := by
    intro i hi
    obtain ⟨e, he⟩ := exists_entry_of_lt hi
    have hrow := getElem?_body he
    rw [h] at hrow
    exact ⟨_, _, _, getElem?_column he .keys, getElem?_column he .counts,
      getElem?_column he .durations, hrow⟩

theorem singleColumn_of_mode (h : t.mode = .single) :
    SingleColumn (t.column .keys) (Csv.body t) where
  keys_length := length_column t .keys
  row := by
    intro i hi
    obtain ⟨e, he⟩ := exists_entry_of_lt hi
    have hrow := getElem?_body he
    rw [h] at hrow
    exact ⟨_, _, getElem?_column he .keys, hrow⟩

end Report

namespace Session

open Report

variable {tree : FileTree} {inv : Invocation} {t : Tally} {sel : Selector} {filter : String}

theorem stdout_of_tallied (h : Tallied tree.Holds inv t) (hsel : Selected inv.command sel) :
    (outcome tree.read filter inv).stdout = render t sel inv.format := by
  have hresult := result_eq_ok_iff_tallied.mpr h
  exact (outcome_of_selected hresult (selectorOf_of_selected hsel)).2.1

theorem exists_selected {text : String} (h : text ∈ ["1", "2", "3"]) :
    ∃ sel, Selected (.paired text) sel := by
  simp only [List.mem_cons, List.not_mem_nil, or_false] at h
  obtain rfl | rfl | rfl := h
  · exact ⟨_, .keys⟩
  · exact ⟨_, .counts⟩
  · exact ⟨_, .durations⟩

/-- A summary goes elsewhere. -/
theorem stdout_summary (read : String → Except ReadFault String) (filter : String)
    (inv : Invocation) (summary : Bool) :
    (outcome read filter { inv with summary }).stdout = (outcome read filter inv).stdout := by
  -- The way to the tally does not look at the flag.
  have hresult : result read { inv with summary } = result read inv := rfl
  cases h : result read inv with
  | error f => rw [(outcome_of_error h).2, (outcome_of_error (hresult.trans h)).2]
  | ok t =>
    cases hsel : selectorOf inv.command with
    | none =>
      rw [(outcome_of_nothing_selected h hsel).2.1,
        (outcome_of_nothing_selected (hresult.trans h) hsel).2.1]
    | some sel =>
      rw [(outcome_of_selected h hsel).2.1, (outcome_of_selected (hresult.trans h) hsel).2.1]

/-- Columns quote nothing; they stay in step because no key goes on to the next line. -/
theorem pairedColumns_render (hmode : t.mode = .paired) (h : t.OneLineKeys) :
    PairedColumns (Text.lines (render t .keys .text)) (Text.lines (render t .counts .text))
      (Text.lines (render t .durations .text)) (Csv.body t) := by
  simp only [render, Tally.lines_columnText h]
  exact pairedColumns_of_mode hmode

theorem singleColumn_render (hmode : t.mode = .single) (h : t.OneLineKeys) :
    SingleColumn (Text.lines (render t .keys .text)) (Csv.body t) := by
  rw [render, Tally.lines_columnText h]
  exact singleColumn_of_mode hmode

theorem sameTable_render {mode : Mode} (hmode : t.mode = mode) (sel : Selector) :
    SameTable mode (render t sel .csv) (render t sel .json) (Csv.body t) (Document.ofTally t) := by
  rw [← hmode]
  exact sameTable_of_tally t

/-- A text has no more lines than characters, so its lines can be counted. -/
theorem summedUp_of_paired {content : String} (hl : content.length < 2 ^ 64)
    (h : Tally.ofPairedLines (Text.lines content) = .ok t) :
    SummedUp (Document.ofTally t) (Csv.body t).length := by
  apply summedUp_ofTally (Tally.keeps_ofPairedLines h).1
  have hlines := Text.length_lines_le content
  rw [Tally.length_pairRecordings]
  omega

theorem summedUp_of_single {content : String} (hl : content.length < 2 ^ 64) :
    SummedUp (Document.ofTally (Tally.ofLines (Text.lines content)))
      (Csv.body (Tally.ofLines (Text.lines content))).length := by
  apply summedUp_ofTally (Tally.keeps_ofLines _)
  have hlines := Text.length_lines_le content
  rw [List.length_map]
  omega

/-- All forms of one input agree. A paired tally shows the same rows as three columns, as records
and as a document, a single tally the same keys, and the document sums them up. Records and document
do not depend on the column selected, and no form on whether a summary is asked for. -/
theorem renderings_agree (tree : FileTree) (filter content : String) (config input : Option String)
    (debug : Bool) :
    (∀ t, Input tree.Holds config input .paired content →
      Tally.ofPairedLines (Text.lines content) = .ok t →
      let out (text : String) (format : Format) (summary : Bool) : String :=
        (outcome tree.read filter ⟨input, config, format, summary, debug, .paired text⟩).stdout
      (∀ text format, out text format true = out text format false) ∧
        (∀ text ∈ ["1", "2", "3"], out text .csv false = out "1" .csv false ∧
          out text .json false = out "1" .json false) ∧
        ∃ rows d, SameTable .paired (out "1" .csv false) (out "1" .json false) rows d ∧
          PairedColumns (Text.lines (out "1" .text false)) (Text.lines (out "2" .text false))
            (Text.lines (out "3" .text false)) rows ∧
          (content.length < 2 ^ 64 → SummedUp d rows.length)) ∧
      (Input tree.Holds config input .single content →
        let out (format : Format) (summary : Bool) : String :=
          (outcome tree.read filter ⟨input, config, format, summary, debug, .single⟩).stdout
        (∀ format, out format true = out format false) ∧
          ∃ rows d, SameTable .single (out .csv false) (out .json false) rows d ∧
            SingleColumn (Text.lines (out .text false)) rows ∧
            (content.length < 2 ^ 64 → SummedUp d rows.length)) := by
  constructor
  · intro t hi ht out
    have hmode := (Tally.keeps_ofPairedLines ht).2
    have hout : ∀ text sel format, Selected (.paired text) sel →
        out text format false = render t sel format := by
      intro text sel format hsel
      exact stdout_of_tallied (.paired rfl hi ht) hsel
    refine ⟨?_, ?_, Csv.body t, Document.ofTally t, ?_, ?_, fun hl => summedUp_of_paired hl ht⟩
    · intro text format
      exact stdout_summary tree.read filter ⟨input, config, format, false, debug, .paired text⟩ true
    · intro text htext
      obtain ⟨sel, hsel⟩ := exists_selected htext
      rw [hout text sel _ hsel, hout text sel _ hsel, hout "1" _ _ .keys, hout "1" _ _ .keys]
      exact ⟨rfl, rfl⟩
    · rw [hout "1" _ _ .keys, hout "1" _ _ .keys]
      exact sameTable_render hmode .keys
    · rw [hout "1" _ _ .keys, hout "2" _ _ .counts, hout "3" _ _ .durations]
      exact pairedColumns_render hmode (Tally.oneLineKeys_ofPairedLines ht)
  · intro hi out
    have hmode := Tally.mode_ofLines (Text.lines content)
    have hout : ∀ format, out format false =
        render (Tally.ofLines (Text.lines content)) .keys format := by
      intro format
      exact stdout_of_tallied (.single rfl hi) .single
    refine ⟨?_, _, _, ?_, ?_, summedUp_of_single⟩
    · intro format
      exact stdout_summary tree.read filter ⟨input, config, format, false, debug, .single⟩ true
    · rw [hout, hout]
      exact sameTable_render hmode .keys
    · rw [hout]
      exact singleColumn_render hmode (Tally.oneLineKeys_ofLines content)

/-- Keys with a comma and a quote, in lines that end in three ways, read as pairs and as keys. -/
theorem renderings_agree_mixed :
    let content := "a,b\r1\n\"\r\n2_0\na,b\r-3"
    let tree := FileTree.ofEntries [(["t"], content.toUTF8)] []
    let paired (text : String) (format : Format) (summary : Bool) : String :=
      (outcome tree.read "" ⟨some "t", none, format, summary, false, .paired text⟩).stdout
    let single (format : Format) : String :=
      (outcome tree.read "" ⟨some "t", none, format, false, false, .single⟩).stdout
    Input tree.Holds none (some "t") .paired content ∧
      Input tree.Holds none (some "t") .single content ∧
      (∃ t, Tally.ofPairedLines (Text.lines content) = .ok t) ∧ content.length < 2 ^ 64 ∧
      paired "7" .text true = paired "7" .text false ∧
      paired "3" .json false = paired "1" .json false ∧
      (∃ rows d, SameTable .paired (paired "1" .csv false) (paired "1" .json false) rows d ∧
        PairedColumns (Text.lines (paired "1" .text false)) (Text.lines (paired "2" .text false))
          (Text.lines (paired "3" .text false)) rows ∧ SummedUp d rows.length) ∧
      ∃ rows d, SameTable .single (single .csv) (single .json) rows d ∧
        SingleColumn (Text.lines (single .text)) rows ∧ SummedUp d rows.length := by
  intro content tree paired single
  have hholds : tree.Holds "t" content := by
    have hp : tree.resolve "t" = .ok ["tmp", "work", "t"] := by cbv
    exact ⟨hp, by decide +kernel, by cbv, by decide +kernel⟩
  have hinput : ∀ mode, Input tree.Holds none (some "t") mode content :=
    fun mode => .intro .usual (.given "t" mode) hholds
  obtain ⟨t, ht⟩ : ∃ t, Tally.ofPairedLines (Text.lines content) = .ok t := by
    have hok : (Tally.ofPairedLines (Text.lines content)).isOk = true := by decide +kernel
    cases h : Tally.ofPairedLines (Text.lines content) with
    | ok t => exact ⟨t, rfl⟩
    | error e => simp [h, Except.isOk, Except.toBool] at hok
  have hl : content.length < 2 ^ 64 := by decide
  obtain ⟨hboth, hone⟩ := renderings_agree tree "" content none (some "t") false
  obtain ⟨hsummary, hsel, rows, d, htable, hcolumns, hsum⟩ := hboth t (hinput .paired) ht
  obtain ⟨-, rows', d', htable', hcolumn', hsum'⟩ := hone (hinput .single)
  exact ⟨hinput .paired, hinput .single, ⟨t, ht⟩, hl, hsummary "7" .text,
    (hsel "3" (by decide)).2, ⟨rows, d, htable, hcolumns, hsum hl⟩,
    rows', d', htable', hcolumn', hsum' hl⟩

end Session

end TraceTally
