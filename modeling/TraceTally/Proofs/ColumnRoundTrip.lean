import TraceTally.Proofs.PairOrder
import TraceTally.Proofs.Renderings

/-! Columns as input. The text of a column of keys is a trace of its own, and so are keys and
durations in turn. Every key is seen once there, so a second pass takes over what the first one found
and changes nothing but the counts. -/
namespace TraceTally

namespace Duration

/-- The text of a duration is read back as that duration. -/
theorem parse_text (d : Int64) : parse (text d) = .ok d := by
  obtain ⟨negative, hs, hvalue⟩ := signText_signOf d
  let digits := Nat.toDigits 10 d.toInt.natAbs
  have hsep : Separated digits digits :=
    separated_self Nat.toDigits_ne_nil (Json.isDigit_toDigits _)
  have hspells : Spells (String.ofList ([] ++ (signOf d ++ digits) ++ []))
      (Text.signed negative (Nat.ofDigitChars 10 digits 0)) := .intro (by simp) (by simp) hs hsep
  rw [Nat.ofDigitChars_ten_toDigits, hvalue, List.nil_append, List.append_nil, ← toList_text,
    String.ofList_toList] at hspells
  obtain ⟨d', hd', hint⟩ := parse_iff_spells.mpr ⟨hspells, inRange_toInt d⟩
  rw [hd', Int64.toInt_inj.mp hint]

end Duration

namespace Recording

variable {rs : List Recording} {r : Recording}

theorem not_mem_firstKeys_of_nodup {before after : List Recording}
    (h : ((before ++ r :: after).map key).Nodup) :
    r.key ∉ firstKeys before ∧ r.key ∉ firstKeys after := by
  simp only [List.map_append, List.map_cons, List.nodup_append, List.nodup_cons] at h
  obtain ⟨-, ⟨hafter, -⟩, hbefore⟩ := h
  simp only [firstKeys, List.mem_eraseDups]
  exact ⟨fun hmem => hbefore _ hmem _ List.mem_cons_self rfl, hafter⟩

/-- A key that is recorded once has the time of that recording. -/
theorem time_of_nodup (h : (rs.map key).Nodup) (hr : r ∈ rs) : time r.key rs = r.duration.toInt := by
  obtain ⟨before, after, rfl⟩ := List.append_of_mem hr
  obtain ⟨hbefore, hafter⟩ := not_mem_firstKeys_of_nodup h
  rw [time_append, time_cons, time_of_not_mem hbefore, time_of_not_mem hafter, if_pos rfl]
  omega

theorem occurrences_of_nodup (h : (rs.map key).Nodup) (hr : r ∈ rs) : occurrences r.key rs = 1 := by
  rw [occurrences_eq_count]
  exact List.count_eq_one_of_mem h (List.mem_map_of_mem hr)

end Recording

namespace Tally

open Recording

variable {t : Tally} {ok : List Recording} {ls ks vs : List String}

/-- Keys and values in turn, as they stand on the lines of a trace. -/
def inTurn (ks vs : List String) : List String := (ks.zip vs).flatMap fun p => [p.1, p.2]

theorem linePairs_inTurn (ks vs : List String) : linePairs (inTurn ks vs) = ks.zip vs := by
  unfold inTurn
  induction ks.zip vs with
  | nil => rfl
  | cons p ps ih => simp [linePairs, ih]

theorem even_length_inTurn (ks vs : List String) : (inTurn ks vs).length % 2 = 0 := by
  simp [inTurn, List.length_flatMap]

theorem mem_inTurn {l : String} (h : l ∈ inTurn ks vs) : l ∈ ks ∨ l ∈ vs := by
  obtain ⟨⟨k, v⟩, hp, hl⟩ := List.mem_flatMap.mp h
  obtain ⟨hk, hv⟩ := List.of_mem_zip hp
  simp only [List.mem_cons, List.not_mem_nil, or_false] at hl
  rcases hl with rfl | rfl
  · exact Or.inl hk
  · exact Or.inr hv

/-- A tally of keys that do not come back has one occurrence of each. -/
theorem Keeps.entries_of_nodup (h : Keeps t ok) (hn : (ok.map key).Nodup) :
    t.entries.toList = ok.map fun r => ⟨r.key, ⟨1, r.duration⟩⟩ := by
  rw [entries_eq_map_stats h.indexed, h.keys, firstKeys_of_nodup hn, List.map_map]
  apply List.map_congr_left
  intro r hr
  simp only [Function.comp_apply, h.stats, occurrences_of_nodup hn hr, time_of_nodup hn hr,
    Int64.ofInt_toInt]
  rfl

theorem time_take_of_nodup {i : Nat} {rs : List Recording} {r : Recording}
    (hn : (rs.map key).Nodup) (hr : rs[i]? = some r) : time r.key (rs.take i) = 0 := by
  obtain ⟨hi, rfl⟩ := List.getElem?_eq_some_iff.mp hr
  rw [← List.take_append_drop i rs, List.drop_eq_getElem_cons hi] at hn
  exact time_of_not_mem (not_mem_firstKeys_of_nodup hn).1

/-- No sum leaves the range when no key comes back: each key starts from nothing. -/
theorem exists_of_nodup (heven : ls.length % 2 = 0) (hn : ((pairRecordings ls).map key).Nodup)
    (hread : ∀ value ∈ durationLines ls, ∃ d, Duration.parse value = .ok d) :
    ∃ t, ofPairedLines ls = .ok t ∧ Keeps t (pairRecordings ls) := by
  rcases ofPairedLines_cases heven with ⟨i, e, ⟨hfault, -⟩, -⟩ | ⟨-, t, ht, -, hk⟩
  · exfalso
    cases hfault with
    | unreadable hv hd =>
      obtain ⟨d, hd'⟩ := hread _ (mem_durationLines hv)
      rw [hd] at hd'
      cases hd'
    | @overflow key value d hk hv hd hout =>
      have hzero := time_take_of_nodup hn (pairRecordings_getElem? hk hv)
      have hrange := Duration.inRange_toInt d
      change time key _ = 0 at hzero
      rw [hzero, Int.zero_add] at hout
      exact hout hrange
  · exact ⟨t, ht, hk⟩

/-- Keys and durations of a tally in turn ask for one recording of each key, with all of its time. -/
theorem pairRecordings_inTurn (t : Tally) :
    pairRecordings (inTurn (t.column .keys) (t.column .durations)) =
      t.entries.toList.map fun e => .timed e.key e.stats.duration := by
  rw [pairRecordings_eq_map, linePairs_inTurn, column, column, List.zip_map', List.map_map]
  apply List.map_congr_left
  intro e _
  simp [Entry.cell, Entry.durationText, Duration.parse_text, Except.toOption]

theorem exists_parse_durations (t : Tally) {value : String}
    (h : value ∈ durationLines (inTurn (t.column .keys) (t.column .durations))) :
    ∃ d, Duration.parse value = .ok d := by
  rw [durationLines, linePairs_inTurn] at h
  obtain ⟨⟨k, v⟩, hp, rfl⟩ := List.mem_map.mp h
  obtain ⟨e, -, rfl⟩ := List.mem_map.mp (List.of_mem_zip hp).2
  exact ⟨e.stats.duration, Duration.parse_text _⟩

/-- The entry of a key that was seen once and took all of its time then. -/
def seenOnce (e : Entry) : Entry := ⟨e.key, ⟨1, e.stats.duration⟩⟩

/-- A pass over keys and durations of a tally in turn gives its entries again, each seen once. -/
theorem exists_ofPairedLines_inTurn (h : Indexed t) :
    ∃ t', ofPairedLines (inTurn (t.column .keys) (t.column .durations)) = .ok t' ∧
      t'.entries.toList = t.entries.toList.map seenOnce := by
  have hkeys : (t.entries.toList.map fun e => Recording.timed e.key e.stats.duration).map key =
      t.keys := by
    rw [List.map_map]
    rfl
  have hn := h.nodup_keys
  rw [← hkeys, ← pairRecordings_inTurn] at hn
  obtain ⟨t', ht', hk⟩ :=
    exists_of_nodup (even_length_inTurn _ _) hn fun _ => exists_parse_durations t
  refine ⟨t', ht', ?_⟩
  rw [hk.entries_of_nodup hn, pairRecordings_inTurn, List.map_map]
  rfl

theorem entries_ofLines_keys (h : Indexed t) :
    (ofLines t.keys).entries.toList = t.keys.map fun k => ⟨k, ⟨1, 0⟩⟩ := by
  have hn := h.nodup_keys
  rw [← map_key_plain t.keys] at hn
  rw [(keeps_ofLines t.keys).entries_of_nodup hn, List.map_map]
  rfl

theorem not_isBreak_of_mem_inTurn (h : t.OneLineKeys) {l : String}
    (hl : l ∈ inTurn (t.column .keys) (t.column .durations)) :
    ∀ c ∈ l.toList, ¬ Text.IsBreak c := by
  rcases mem_inTurn hl with hl | hl
  · exact h l hl
  · obtain ⟨e, -, rfl⟩ := List.mem_map.mp hl
    exact e.not_isBreak_durationText

/-- What a tally prints can be tallied again. The column of keys gives the same keys, each counted
once, and prints the same text. Keys and durations in turn, which come back from their text line by
line, are accepted whatever the durations are, and give the same keys with the same durations. -/
theorem printed_columns_tally_again (content : String) :
    (let t := ofLines (Text.lines content)
      let out := t.columnText .keys
      let t' := ofLines (Text.lines out)
      t'.keys = t.keys ∧ (∀ e ∈ t'.entries.toList, e.stats.count = 1) ∧
        t'.columnText .keys = out) ∧
      ∀ t, ofPairedLines (Text.lines content) = .ok t →
        let ls := inTurn (t.column .keys) (t.column .durations)
        Text.lines (Text.unlines ls) = ls ∧
          ∃ t', ofPairedLines ls = .ok t' ∧ t'.keys = t.keys ∧
            t'.entries.toList.map (·.stats.duration) = t.entries.toList.map (·.stats.duration) ∧
            ∀ e ∈ t'.entries.toList, e.stats.count = 1 := by
  constructor
  · intro t out t'
    have hout : Text.lines out = t.keys := lines_columnText (oneLineKeys_ofLines content) .keys
    have hentries : t'.entries.toList = t.keys.map fun k => ⟨k, ⟨1, 0⟩⟩ := by
      rw [← entries_ofLines_keys (keeps_ofLines _).indexed, ← hout]
    have hkeys : t'.keys = t.keys := by
      rw [keys, hentries, List.map_map]
      exact List.map_id' _
    refine ⟨hkeys, ?_, ?_⟩
    · intro e he
      rw [hentries] at he
      obtain ⟨k, -, rfl⟩ := List.mem_map.mp he
      rfl
    · exact congrArg Text.unlines hkeys
  · intro t ht ls
    obtain ⟨t', ht', hentries⟩ := exists_ofPairedLines_inTurn (keeps_ofPairedLines ht).1.indexed
    refine ⟨Text.lines_unlines fun l => not_isBreak_of_mem_inTurn (oneLineKeys_ofPairedLines ht),
      t', ht', ?_, ?_, ?_⟩
    · rw [keys, hentries, List.map_map]
      rfl
    · rw [hentries, List.map_map]
      rfl
    · intro e he
      rw [hentries] at he
      obtain ⟨e', -, rfl⟩ := List.mem_map.mp he
      rfl

/-- An empty key that comes back, a key in blanks and one that is a number, with durations at both
limits. -/
theorem printed_columns_tally_again_limits :
    let content := "\n-9223372036854775808\r\n 7 \n+0_0\r-5\n9223372036854775807\n\n0\n"
    let ls := ["", "-9223372036854775808", " 7 ", "0", "-5", "9223372036854775807"]
    ∃ t t', ofPairedLines (Text.lines content) = .ok t ∧
      inTurn (t.column .keys) (t.column .durations) = ls ∧ ofPairedLines ls = .ok t' ∧
      t'.keys = t.keys ∧ ∀ e ∈ t'.entries.toList, e.stats.count = 1 := by
  intro content ls
  obtain ⟨t, ht⟩ := exists_of_isOk
    (show (ofPairedLines (Text.lines content)).isOk = true by decide +kernel)
  have hls : inTurn (t.column .keys) (t.column .durations) = ls := by
    have hshown : (ofPairedLines (Text.lines content)).map
        (fun t => inTurn (t.column .keys) (t.column .durations)) = .ok ls := by decide +kernel
    rw [ht] at hshown
    exact Except.ok.inj hshown
  obtain ⟨-, t', ht', hkeys, -, hcount⟩ := (printed_columns_tally_again content).2 t ht
  rw [hls] at ht'
  exact ⟨t, t', ht, hls, ht', hkeys, hcount⟩

end Tally

end TraceTally
