import TraceTally.Proofs.Renderings

/-! The summary table. Its rows are the entries in a stable order by count, and each row is read back
however wide its numbers are and whatever its key looks like. The average in it is the quotient of
its duration by its count, as long as there are not too many recordings for a signed word. -/
namespace TraceTally.Report.Summary

open Text (padLeft IsBreak)

variable {t t' : Tally} {s name : String} {total d : Int64} {n : UInt64} {e : Entry}

/-- The entries by falling count. Entries with the same count stay in the order they had. -/
structure StablyRanked (es ranked : List Entry) : Prop where
  perm : ranked.Perm es
  falling : ranked.Pairwise fun a b => b.stats.count ≤ a.stats.count
  stable : ∀ c, ranked.filter (·.stats.count = c) = es.filter (·.stats.count = c)

/-- What a row says: the share as it is written, three numbers, and a name. -/
structure Cells where
  share : String
  duration : Int
  average : Int
  count : Nat
  name : String
  deriving DecidableEq

/-- The next cell behind any blanks, and what follows the blank that ends it. -/
def readCell (cs : List Char) : List Char × List Char :=
  let cs := cs.dropWhile (· = ' ')
  (cs.takeWhile (· ≠ ' '), (cs.dropWhile (· ≠ ' ')).drop 1)

/-- Four cells, then the name, which is all that is left. -/
def readRow? (s : String) : Option Cells := do
  let (share, cs) := readCell s.toList
  let (duration, cs) := readCell cs
  let (average, cs) := readCell cs
  let (count, cs) := readCell cs
  let duration ← (String.ofList duration).toInt?
  let average ← (String.ofList average).toInt?
  let count ← (String.ofList count).toNat?
  return ⟨String.ofList share, duration, average, count, String.ofList cs⟩

/-- The rows between the first two lines and the last two. -/
def readTable? (s : String) : Option (List Cells) :=
  ((Text.lines s).drop 2).dropLast.dropLast.mapM readRow?

/-- What the row of an entry is to say. -/
def cells (total : Int64) (e : Entry) : Cells where
  share := percent e.stats.duration total
  duration := e.stats.duration.toInt
  average := (average e.stats.duration e.stats.count).toInt
  count := e.stats.count.toNat
  name := e.key

/-- What a row says is true of an entry, with the average as a quotient without its fraction. -/
structure Cells.Tells (c : Cells) (e : Entry) : Prop where
  name : c.name = e.key
  count : c.count = e.stats.count.toNat
  duration : c.duration = e.stats.duration.toInt
  average : c.average = e.stats.duration.toInt.tdiv e.stats.count.toNat

def Cells.entry (c : Cells) : Entry := ⟨c.name, ⟨.ofNat c.count, .ofInt c.duration⟩⟩

theorem entry_cells (total : Int64) (e : Entry) : (cells total e).entry = e := by
  simp [cells, Cells.entry]

theorem count_le_trans (a b c : Entry) (hab : decide (b.stats.count ≤ a.stats.count) = true)
    (hbc : decide (c.stats.count ≤ b.stats.count) = true) :
    decide (c.stats.count ≤ a.stats.count) = true := by
  simp only [decide_eq_true_eq] at hab hbc ⊢
  exact UInt64.le_trans hbc hab

theorem count_le_total (a b : Entry) : (decide (b.stats.count ≤ a.stats.count) ||
    decide (a.stats.count ≤ b.stats.count)) = true := by
  simpa using UInt64.le_total _ _

/-- Entries of one count stand in order, so that sorting leaves them as they are. -/
theorem stable_ranked (t : Tally) (c : UInt64) :
    (ranked t).filter (·.stats.count = c) = t.entries.toList.filter (·.stats.count = c) := by
  let same := t.entries.toList.filter (·.stats.count = c)
  have hsame : ∀ e ∈ same, e.stats.count = c := fun e he => by simpa using List.of_mem_filter he
  have hsorted : same.Pairwise fun a b => decide (b.stats.count ≤ a.stats.count) = true := by
    apply List.pairwise_of_forall_mem_list
    intro a ha b hb
    simp [hsame a ha, hsame b hb]
  have hsub : same.Sublist (ranked t) :=
    List.sublist_mergeSort count_le_trans count_le_total hsorted List.filter_sublist
  have hfilter := hsub.filter (·.stats.count = c)
  rw [List.filter_filter] at hfilter
  simp only [Bool.and_self] at hfilter
  have hlength := ((List.mergeSort_perm t.entries.toList fun a b =>
    decide (b.stats.count ≤ a.stats.count)).filter (·.stats.count = c)).length_eq
  exact (hfilter.eq_of_length hlength.symm).symm

theorem stablyRanked_ranked (t : Tally) : StablyRanked t.entries.toList (ranked t) where
  perm := List.mergeSort_perm _ _
  falling := by
    have hsorted := List.pairwise_mergeSort count_le_trans count_le_total t.entries.toList
    exact hsorted.imp fun h => by simpa using h
  stable := stable_ranked t

/-- The quotient behind an average. It is taken, the count is the divisor as it stands, and the
division is neither by zero nor of the least duration by minus one. -/
structure ExactAverage (d : Int64) (n : UInt64) : Prop where
  counted : 0 < n
  divisor : n.toInt64.toInt = n.toNat
  one_le : 1 ≤ n.toInt64.toInt
  defined : n.toInt64 ≠ 0 ∧ ¬ (d = Int64.minValue ∧ n.toInt64 = -1)
  quotient : average d n = d / n.toInt64
  truncated : (average d n).toInt = d.toInt.tdiv n.toNat

theorem toInt_toInt64_of_lt (h : n.toNat < 2 ^ 63) : n.toInt64.toInt = n.toNat := by
  have hhalf : 2 * n.toBitVec.toNat < 2 ^ 64 := by
    rw [UInt64.toNat_toBitVec]
    omega
  rw [← Int64.toInt_toBitVec, UInt64.toBitVec_toInt64, BitVec.toInt_eq_toNat_of_lt hhalf,
    UInt64.toNat_toBitVec]

/-- A count that is not zero and fits into a signed word makes an exact average, whatever the
duration: as a divisor it is positive. -/
theorem exactAverage_of_lt (d : Int64) (hpos : 1 ≤ n.toNat) (hlt : n.toNat < 2 ^ 63) :
    ExactAverage d n := by
  have hdivisor := toInt_toInt64_of_lt hlt
  have hcounted : 0 < n := UInt64.lt_iff_toNat_lt.mpr hpos
  have hzero : n.toInt64 ≠ 0 := by
    intro h
    rw [h, Int64.toInt_zero] at hdivisor
    omega
  have hneg : n.toInt64 ≠ -1 := by
    intro h
    rw [h] at hdivisor
    change (-1 : Int) = n.toNat at hdivisor
    omega
  have hquotient : average d n = d / n.toInt64 := if_pos hcounted
  refine ⟨hcounted, hdivisor, ?_, ⟨hzero, fun h => hneg h.2⟩, hquotient, ?_⟩
  · omega
  · rw [hquotient, Int64.toInt_div_of_ne_right _ _ hneg, hdivisor]

/-- Every count of a history is a divisor as it stands, if the recordings can be counted in a signed
word. -/
theorem exactAverage_of_run {mode : Mode} {rs : List Recording} (hl : rs.length < 2 ^ 63)
    (he : e ∈ ((Tally.empty mode).run rs).1.entries.toList) :
    ExactAverage e.stats.duration e.stats.count := by
  obtain ⟨ok, hk, hle⟩ := Tally.exists_keeps_run mode rs
  obtain ⟨hpos, hlt⟩ := hk.bounds_of_mem (by omega) he
  exact exactAverage_of_lt _ hpos hlt

theorem ExactAverage.tells_cells (h : ExactAverage e.stats.duration e.stats.count)
    (total : Int64) : (cells total e).Tells e :=
  ⟨rfl, rfl, rfl, h.truncated⟩

/-- What can stand in a number. -/
def IsNumeral (c : Char) : Prop := c.isDigit = true ∨ c = '-' ∨ c = '.'

instance (c : Char) : Decidable (IsNumeral c) := inferInstanceAs (Decidable (_ ∨ _ ∨ _))

theorem IsNumeral.ne_blank {c : Char} (h : IsNumeral c) : c ≠ ' ' := by
  rintro rfl
  revert h
  decide

theorem IsNumeral.not_isBreak {c : Char} (h : IsNumeral c) : ¬ IsBreak c := by
  rcases h with h | rfl | rfl
  · exact Text.not_isBreak_of_isDigit h
  · decide
  · decide

/-- A number as text: not empty, and nothing in it but what can stand in a number. -/
structure Numeral (s : String) : Prop where
  ne_nil : s.toList ≠ []
  chars : ∀ c ∈ s.toList, IsNumeral c

theorem Numeral.append_left {front : String} (hf : ∀ c ∈ front.toList, IsNumeral c)
    (hs : Numeral s) : Numeral (front ++ s) := by
  constructor
  · simp [hs.ne_nil]
  · intro c hc
    rw [String.toList_append, List.mem_append] at hc
    rcases hc with hc | hc
    · exact hf c hc
    · exact hs.chars c hc

theorem numeral_nat (n : Nat) : Numeral (toString n) := by
  have htext : (toString n).toList = Nat.toDigits 10 n := by
    have hrepr : toString n = Nat.repr n := rfl
    rw [hrepr, Nat.repr_eq_ofList_toDigits, String.toList_ofList]
  constructor
  · rw [htext]
    exact Nat.toDigits_ne_nil
  · intro c hc
    rw [htext] at hc
    exact Or.inl (Json.isDigit_toDigits n c hc)

theorem numeral_duration (d : Int64) : Numeral (Duration.text d) := by
  have htext := Duration.toList_text d
  constructor
  · simp [htext, Nat.toDigits_ne_nil]
  · intro c hc
    rw [htext, List.mem_append] at hc
    rcases hc with hc | hc
    · rcases Duration.signOf_cases d with ⟨-, hs⟩ | ⟨-, hs⟩
      · exact Or.inr (Or.inl (by simpa [hs] using hc))
      · simp [hs] at hc
    · exact Or.inl (Json.isDigit_toDigits _ c hc)

theorem Numeral.padLeft (hs : Numeral s) (width : Nat) : Numeral (Text.padLeft width '0' s) := by
  apply hs.append_left
  intro c hc
  have hzero : c = '0' := List.eq_of_mem_replicate (by simpa [Text.copies] using hc)
  exact Or.inl (by simp [hzero])

theorem numeral_fixed (places num den : Nat) : Numeral (Decimal.fixed places num den) := by
  have hpoint : ∀ c ∈ ".".toList, IsNumeral c := by simp [IsNumeral]
  rw [Decimal.fixed, String.append_assoc]
  exact (((numeral_nat _).padLeft places).append_left hpoint).append_left (numeral_nat _).chars

theorem numeral_percent (d total : Int64) : Numeral (percent d total) := by
  unfold percent
  split
  · apply (numeral_fixed _ _ _).append_left
    split <;> simp [IsNumeral]
  · exact ⟨by simp, by simp [IsNumeral]⟩

/-- A number comes back from its cell, however wide it is. -/
theorem readCell_padLeft (hs : Numeral s) (width : Nat) (rest : List Char) :
    readCell ((padLeft width ' ' s).toList ++ ' ' :: rest) = (s.toList, rest) := by
  have hpad : (padLeft width ' ' s).toList = List.replicate (width - s.length) ' ' ++ s.toList := by
    simp [padLeft, Text.copies]
  have hblank : ∀ c ∈ List.replicate (width - s.length) ' ', decide (c = ' ') = true := by
    intro c hc
    simp [List.eq_of_mem_replicate hc]
  have hchars : ∀ c ∈ s.toList, decide (c ≠ ' ') = true := fun c hc => by
    simpa using (hs.chars c hc).ne_blank
  obtain ⟨c, cs, hcs⟩ := List.exists_cons_of_ne_nil hs.ne_nil
  have hc : c ≠ ' ' := (hs.chars c (by simp [hcs])).ne_blank
  have hdrop : ((padLeft width ' ' s).toList ++ ' ' :: rest).dropWhile (· = ' ') =
      s.toList ++ ' ' :: rest := by
    rw [hpad, List.append_assoc, List.dropWhile_append_of_pos hblank, hcs, List.cons_append,
      List.dropWhile_cons_of_neg (by simpa using hc)]
  rw [readCell, hdrop, List.takeWhile_append_of_pos hchars, List.dropWhile_append_of_pos hchars]
  simp

theorem toList_row (share : String) (d : Int64) (n : UInt64) (name : String) :
    (row share d n name).toList = (padLeft 6 ' ' share).toList ++
      ' ' :: ((padLeft 11 ' ' (Duration.text d)).toList ++
      ' ' :: ((padLeft 11 ' ' (Duration.text (average d n))).toList ++
      ' ' :: ((padLeft 9 ' ' (toString n.toNat)).toList ++ ' ' :: name.toList))) := by
  simp [row]

theorem toInt?_text (d : Int64) : (Duration.text d).toInt? = some d.toInt := Int.toInt?_repr _

theorem readRow?_row {share : String} (hs : Numeral share) (d : Int64) (n : UInt64)
    (name : String) : readRow? (row share d n name) =
      some ⟨share, d.toInt, (average d n).toInt, n.toNat, name⟩ := by
  have hcount : (toString n.toNat).toNat? = some n.toNat := Nat.toNat?_repr _
  rw [readRow?, toList_row]
  simp only [readCell_padLeft hs, readCell_padLeft (numeral_duration _),
    readCell_padLeft (numeral_nat _), String.ofList_toList, toInt?_text, hcount]
  rfl

theorem readRow?_entryRow (total : Int64) (e : Entry) :
    readRow? (entryRow total e) = some (cells total e) :=
  readRow?_row (numeral_percent _ _) _ _ _

theorem not_isBreak_padLeft (hs : Numeral s) (width : Nat) :
    ∀ c ∈ (padLeft width ' ' s).toList, ¬ IsBreak c := by
  intro c hc
  simp only [padLeft, String.toList_append, List.mem_append, Text.copies, String.toList_ofList] at hc
  rcases hc with hc | hc
  · rw [List.eq_of_mem_replicate hc]
    decide
  · exact (hs.chars c hc).not_isBreak

theorem not_isBreak_row {share : String} (hs : Numeral share)
    (hname : ∀ c ∈ name.toList, ¬ IsBreak c) :
    ∀ c ∈ (row share d n name).toList, ¬ IsBreak c := by
  intro c hc
  simp only [toList_row, List.mem_append, List.mem_cons] at hc
  rcases hc with hc | rfl | hc | rfl | hc | rfl | hc | rfl | hc
  · exact not_isBreak_padLeft hs _ c hc
  · decide
  · exact not_isBreak_padLeft (numeral_duration d) _ c hc
  · decide
  · exact not_isBreak_padLeft (numeral_duration _) _ c hc
  · decide
  · exact not_isBreak_padLeft (numeral_nat _) _ c hc
  · decide
  · exact hname c hc

theorem lines_of_not_isEmpty (h : t.isEmpty = false) : lines t =
    [heading, rule] ++ (ranked t).map (entryRow t.totals.duration) ++
      [rule, row "100.00" t.totals.duration t.totals.count "total"] := by
  simp [lines, h]

theorem lines_render (h : t.isEmpty = false) (hkeys : t.OneLineKeys) :
    Text.lines (render t) = lines t := by
  apply Text.lines_unlines
  have hheading : ∀ c ∈ heading.toList, ¬ IsBreak c := by simp [heading, IsBreak]
  have hrule : ∀ c ∈ rule.toList, ¬ IsBreak c := by simp [rule, IsBreak]
  have hentry : ∀ e ∈ ranked t, ∀ c ∈ (entryRow t.totals.duration e).toList, ¬ IsBreak c := by
    intro e he
    have hmem : e ∈ t.entries.toList := (stablyRanked_ranked t).perm.mem_iff.mp he
    exact not_isBreak_row (numeral_percent _ _) (hkeys e.key (List.mem_map_of_mem hmem))
  have htotal : ∀ c ∈ (row "100.00" t.totals.duration t.totals.count "total").toList,
      ¬ IsBreak c := not_isBreak_row ⟨by simp, by simp [IsNumeral]⟩ (by simp [IsBreak])
  rw [lines_of_not_isEmpty h]
  intro l hl
  simp only [List.mem_append, List.mem_cons, List.mem_map, List.not_mem_nil, or_false] at hl
  rcases hl with ((rfl | rfl) | ⟨e, he, rfl⟩) | rfl | rfl
  · exact hheading
  · exact hrule
  · exact hentry e he
  · exact hrule
  · exact htotal

/-- The whole table is read back from its text if no key goes on to the next line. -/
theorem readTable?_render (h : t.isEmpty = false) (hkeys : t.OneLineKeys) :
    readTable? (render t) = some ((ranked t).map (cells t.totals.duration)) := by
  have hrows : ((lines t).drop 2).dropLast.dropLast =
      (ranked t).map (entryRow t.totals.duration) := by
    rw [lines_of_not_isEmpty h]
    simp
  have hread : readRow? ∘ entryRow t.totals.duration =
      fun e => pure (cells t.totals.duration e) := funext (readRow?_entryRow _)
  rw [readTable?, lines_render h hkeys, hrows, List.mapM_map, hread, List.mapM_pure]
  rfl

theorem ranked_eq_of_render_eq (h : t.isEmpty = false) (h' : t'.isEmpty = false)
    (hkeys : t.OneLineKeys) (hkeys' : t'.OneLineKeys) (heq : render t = render t') :
    ranked t = ranked t' := by
  have hread := readTable?_render h hkeys
  rw [heq, readTable?_render h' hkeys'] at hread
  have hentries := congrArg (List.map Cells.entry) (Option.some.inj hread)
  simpa [entry_cells, Function.comp_def] using hentries.symm

theorem filter_eq_of_stablyRanked {es es' rows : List Entry} (h : StablyRanked es rows)
    (h' : StablyRanked es' rows) (c : UInt64) :
    es.filter (·.stats.count = c) = es'.filter (·.stats.count = c) :=
  (h.stable c).symm.trans (h'.stable c)

/-- The table of a tally with entries: two lines at the head, one row for each entry by falling count
with ties in order of first sight, then a rule and the totals. From its row every entry is read back,
and from the text the whole table if no key goes on to the next line. What is read is true of the
entry, its average too for fewer than `2 ^ 63` recordings. So two tallies with the same text have the
same entries, in the same order as far as their counts are equal. -/
theorem render_ranks_and_reads_back :
    (∀ t : Tally, t.isEmpty = false → ∃ rows, StablyRanked t.entries.toList rows ∧
      render t = Text.unlines ([heading, rule] ++ rows.map (entryRow t.totals.duration) ++
        [rule, row "100.00" t.totals.duration t.totals.count "total"]) ∧
      (∀ e, readRow? (entryRow t.totals.duration e) = some (cells t.totals.duration e)) ∧
      (t.OneLineKeys → readTable? (render t) = some (rows.map (cells t.totals.duration)))) ∧
    (∀ (mode : Mode) (rs : List Recording), rs.length < 2 ^ 63 →
      let t := ((Tally.empty mode).run rs).1
      ∀ e ∈ t.entries.toList, (cells t.totals.duration e).Tells e) ∧
    ∀ t t' : Tally, t.isEmpty = false → t'.isEmpty = false → t.OneLineKeys → t'.OneLineKeys →
      render t = render t' → t.entries.toList.Perm t'.entries.toList ∧
        ∀ c, t.entries.toList.filter (·.stats.count = c) =
          t'.entries.toList.filter (·.stats.count = c) := by
  refine ⟨?_, ?_, ?_⟩
  · intro t h
    refine ⟨ranked t, stablyRanked_ranked t, ?_, readRow?_entryRow _, readTable?_render h⟩
    rw [render, lines_of_not_isEmpty h]
  · intro mode rs hl t e he
    exact (exactAverage_of_run hl he).tells_cells _
  · intro t t' h h' hkeys hkeys' heq
    have hranked := ranked_eq_of_render_eq h h' hkeys hkeys' heq
    have hs := stablyRanked_ranked t
    have hs' := stablyRanked_ranked t'
    rw [← hranked] at hs'
    exact ⟨hs.perm.symm.trans hs'.perm, filter_eq_of_stablyRanked hs hs'⟩

/-- One key looks like a rule, the other like a row of totals, and the two are first seen in either
order. The second has a loss that does not divide. -/
theorem render_ranks_and_reads_back_lookalike :
    let rs : List Recording := [.timed " 7 total" (-7), .plain "------", .plain " 7 total",
      .plain "------", .plain "------"]
    let t := ((Tally.empty .paired).run rs).1
    let t' := ((Tally.empty .single).run rs.reverse).1
    let e : Entry := ⟨" 7 total", ⟨2, -7⟩⟩
    t.isEmpty = false ∧ t'.isEmpty = false ∧ t.OneLineKeys ∧ t'.OneLineKeys ∧
      render t = render t' ∧ t.entries.toList.Perm t'.entries.toList ∧
      (∃ rows, StablyRanked t.entries.toList rows ∧
        readTable? (render t) = some (rows.map (cells t.totals.duration))) ∧
      rs.length < 2 ^ 63 ∧ e ∈ t.entries.toList ∧
      ∃ c, readRow? (entryRow t.totals.duration e) = some c ∧ c.Tells e ∧ c.average = -3 := by
  intro rs t t' e
  let rule : Entry := ⟨"------", ⟨3, 0⟩⟩
  have hentries : t.entries.toList = [e, rule] := by decide +kernel
  have hentries' : t'.entries.toList = [rule, e] := by decide +kernel
  have hfull : t.isEmpty = false := by simpa [Tally.isEmpty] using congrArg List.isEmpty hentries
  have hfull' : t'.isEmpty = false := by simpa [Tally.isEmpty] using congrArg List.isEmpty hentries'
  have hkeys : t.OneLineKeys := by simp [Tally.OneLineKeys, Tally.keys, hentries, rule, e, IsBreak]
  have hkeys' : t'.OneLineKeys := by
    simp [Tally.OneLineKeys, Tally.keys, hentries', rule, e, IsBreak]
  have htotals : t.totals = t'.totals := by decide +kernel
  have hranked : ranked t = ranked t' := by
    rw [ranked, ranked, hentries, hentries']
    simp [List.mergeSort, rule, e]
  have hrender : render t = render t' := by
    rw [render, render, lines_of_not_isEmpty hfull, lines_of_not_isEmpty hfull', hranked, htotals]
  have hl : rs.length < 2 ^ 63 := by decide
  have he : e ∈ t.entries.toList := by simp [hentries]
  have hquotient : e.stats.duration.toInt.tdiv e.stats.count.toNat = -3 := by decide +kernel
  obtain ⟨rows, hrows, -, hrow, hread⟩ := render_ranks_and_reads_back.1 t hfull
  have htells := render_ranks_and_reads_back.2.1 .paired rs hl e he
  have hsame := render_ranks_and_reads_back.2.2 t t' hfull hfull' hkeys hkeys' hrender
  exact ⟨hfull, hfull', hkeys, hkeys', hrender, hsame.1, ⟨rows, hrows, hread hkeys⟩, hl, he,
    _, hrow e, htells, htells.average.trans hquotient⟩

end TraceTally.Report.Summary
