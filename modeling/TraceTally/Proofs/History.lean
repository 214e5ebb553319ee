import TraceTally.Proofs.Ledger

/-! Histories of a tally. What is kept after each recording, accepted or refused, is what the
accepted ones come to. -/
namespace TraceTally.Tally

open Recording

variable {t : Tally} {ok rs : List Recording} {r : Recording}

/-- The recordings of a history that were not refused. -/
def accepted : List Recording → List (Except Error Unit) → List Recording
  | r :: rs, .ok _ :: results => r :: accepted rs results
  | _ :: rs, .error _ :: results => accepted rs results
  | _, _ => []

/-- The sum for the key of `r` stays in range when `r` comes after `ok`. -/
def Fits (ok : List Recording) (r : Recording) : Prop :=
  Duration.InRange (time r.key ok + r.duration.toInt)

instance (ok : List Recording) (r : Recording) : Decidable (Fits ok r) :=
  inferInstanceAs (Decidable (Duration.InRange _))

/-- The results of a history after `ok` was accepted, from the exact sums alone. -/
def verdicts (ok : List Recording) : List Recording → List (Except Error Unit)
  | [] => []
  | r :: rs =>
    if Fits ok r then .ok () :: verdicts (ok ++ [r]) rs
    else .error (.durationOverflow r.key) :: verdicts ok rs

/-- The tally is what the recordings in `ok` come to. -/
structure Keeps (t : Tally) (ok : List Recording) : Prop where
  indexed : Indexed t
  keys : t.keys = firstKeys ok
  stats : ∀ k, t.stats k = ⟨.ofNat (occurrences k ok), .ofInt (time k ok)⟩
  inRange : ∀ k, Duration.InRange (time k ok)

theorem keeps_empty (mode : Mode) : Keeps (empty mode) [] := by
  refine ⟨indexed_empty mode, rfl, ?_, ?_⟩
  · intro k
    exact stats_of_not_mem (indexed_empty mode) (by simp [keys, empty])
  · intro k
    exact Duration.inRange_toInt 0

theorem Keeps.toInt_duration (h : Keeps t ok) (k : String) :
    (t.stats k).duration.toInt = time k ok := by
  rw [h.stats k]
  exact Duration.toInt_ofInt (h.inRange k)

/-- All that a recording can do. -/
theorem Keeps.apply_eq (h : Keeps t ok) (r : Recording) :
    t.apply r =
      if Fits ok r then
        (t.update r.key fun s => ⟨s.count + 1, .ofInt (time r.key ok + r.duration.toInt)⟩, .ok ())
      else (t, .error (.durationOverflow r.key)) := by
  rw [apply_eq_update h.indexed, Duration.add?_eq, h.toInt_duration]
  by_cases hr : Duration.InRange (time r.key ok + r.duration.toInt)
  · rw [if_pos hr, if_pos (show Fits ok r from hr)]
  · rw [if_neg hr, if_neg (show ¬ Fits ok r from hr)]

/-- A recording that fits is added to what is kept. -/
theorem keeps_update (h : Keeps t ok) (hr : Fits ok r) :
    Keeps (t.update r.key fun s => ⟨s.count + 1, .ofInt (time r.key ok + r.duration.toInt)⟩)
      (ok ++ [r]) := by
  refine ⟨indexed_update h.indexed _ _, ?_, ?_, ?_⟩
  · rw [keys_update h.indexed, firstKeys_snoc, h.keys]
  · intro k
    rw [stats_update h.indexed, h.stats k, occurrences_snoc, time_snoc]
    by_cases hk : k = r.key
    · simp [hk]
    · simp [hk]
  · intro k
    rw [time_snoc]
    by_cases hk : k = r.key
    · rw [if_pos hk, hk]
      exact hr
    · rw [if_neg hk, Int.add_zero]
      exact h.inRange k

theorem Keeps.apply_of_fits (h : Keeps t ok) (hr : Fits ok r) :
    (t.apply r).2 = .ok () ∧ Keeps (t.apply r).1 (ok ++ [r]) := by
  rw [h.apply_eq, if_pos hr]
  exact ⟨rfl, keeps_update h hr⟩

/-- A recording that does not fit changes nothing at all. -/
theorem Keeps.apply_of_not_fits (h : Keeps t ok) (hr : ¬ Fits ok r) :
    t.apply r = (t, .error (.durationOverflow r.key)) := by
  rw [h.apply_eq, if_neg hr]

theorem mode_locate (t : Tally) (k : String) : (t.locate k).1.mode = t.mode := by
  unfold locate
  split <;> rfl

theorem mode_apply (t : Tally) (r : Recording) : (t.apply r).1.mode = t.mode := by
  cases r with
  | plain k => exact mode_locate t k
  | timed k d =>
    simp only [apply, recordTimed]
    split
    · exact mode_locate t k
    · exact mode_locate t k

theorem mode_run (t : Tally) (rs : List Recording) : (t.run rs).1.mode = t.mode := by
  induction rs generalizing t with
  | nil => rfl
  | cons r rs ih => exact (ih _).trans (mode_apply t r)

/-- A whole history gives the results that the exact sums call for. -/
theorem Keeps.results_run (h : Keeps t ok) (rs : List Recording) :
    (t.run rs).2 = verdicts ok rs := by
  induction rs generalizing t ok with
  | nil => rfl
  | cons r rs ih =>
    by_cases hr : Fits ok r
    · obtain ⟨hok, hk⟩ := h.apply_of_fits hr
      simp only [run, verdicts, if_pos hr, hok, ih hk]
    · simp only [run, verdicts, if_neg hr, h.apply_of_not_fits hr, ih h]

/-- After a whole history the tally is what its accepted recordings come to. -/
theorem Keeps.keeps_run (h : Keeps t ok) (rs : List Recording) :
    Keeps (t.run rs).1 (ok ++ accepted rs (t.run rs).2) := by
  induction rs generalizing t ok with
  | nil => simpa [run, accepted] using h
  | cons r rs ih =>
    by_cases hr : Fits ok r
    · obtain ⟨hok, hk⟩ := h.apply_of_fits hr
      simpa [run, accepted, hok] using ih hk
    · simpa [run, accepted, h.apply_of_not_fits hr] using ih h

theorem accepted_sublist (rs : List Recording) (results : List (Except Error Unit)) :
    (accepted rs results).Sublist rs := by
  fun_induction accepted rs results with
  | case1 r rs _ results ih => exact ih.cons_cons r
  | case2 r rs _ results ih => exact ih.cons r
  | case3 => exact List.nil_sublist _

theorem length_accepted_le (rs : List Recording) (results : List (Except Error Unit)) :
    (accepted rs results).length ≤ rs.length :=
  (accepted_sublist rs results).length_le

theorem entries_of_keeps (h : Keeps t ok) :
    t.entries.toList.map Entry.account = (ledger ok).map Account.wrap := by
  rw [entries_eq_map_stats h.indexed, h.keys, ledger, List.map_map, List.map_map]
  apply List.map_congr_left
  intro k _
  simp only [Function.comp_apply, Entry.account, Account.wrap, h.toInt_duration]
  rw [h.stats k, UInt64.toNat_ofNat']

/-- Keys and their counts, in order of first sight. -/
def counted (t : Tally) : List (String × UInt64) :=
  t.entries.toList.map fun e => (e.key, e.stats.count)

/-- Every view of the tally shows the same accounts. -/
structure Reports (t : Tally) (accounts : List Account) : Prop where
  entries : t.entries.toList.map Entry.account = accounts
  keys : t.keys = accounts.map (·.key)
  column : ∀ sel, t.column sel = accounts.map (·.cell sel)
  size : t.size = accounts.length
  isEmpty : t.isEmpty = accounts.isEmpty
  get? : ∀ k, (t.get? k).map (fun s => (s.count.toNat, s.duration.toInt)) =
    (accounts.find? (·.key = k)).map fun a => (a.count, a.time)

theorem Indexed.reports (h : Indexed t) : t.Reports (t.entries.toList.map Entry.account) := by
  refine ⟨rfl, ?_, ?_, ?_, ?_, ?_⟩
  · simp [keys, Entry.account]
  · intro sel
    rw [column, List.map_map]
    apply List.map_congr_left
    intro e _
    cases sel <;> rfl
  · simp [size]
  · simp [isEmpty]
  · intro k
    rw [get?_eq_find? h, List.find?_map, Option.map_map, Option.map_map]
    rfl

theorem Keeps.reports (h : Keeps t ok) : t.Reports ((ledger ok).map Account.wrap) := by
  rw [← entries_of_keeps h]
  exact h.indexed.reports

theorem Keeps.reports_exact (h : Keeps t ok) (hl : ok.length < 2 ^ 64) : t.Reports (ledger ok) := by
  rw [← map_wrap_ledger hl]
  exact h.reports

/-- After any history a tally shows the keys of its accepted recordings in the order of first sight,
each with the number of them and the exact sum of their durations, in every view. The sums alone
decide which are accepted. A count is a word, exact as long as the history is shorter than one. -/
theorem run_reports_ledger (mode : Mode) (rs : List Recording) :
    let t := ((empty mode).run rs).1
    let results := ((empty mode).run rs).2
    let ok := accepted rs results
    results = verdicts [] rs ∧ t.mode = mode ∧ t.Reports ((ledger ok).map Account.wrap) ∧
      (rs.length < 2 ^ 64 → t.Reports (ledger ok)) := by
  intro t results ok
  have hk : Keeps t ok := (keeps_empty mode).keeps_run rs
  refine ⟨(keeps_empty mode).results_run rs, mode_run _ rs, hk.reports, ?_⟩
  intro hl
  exact hk.reports_exact (Nat.lt_of_le_of_lt (length_accepted_le rs results) hl)

/-- A refused recording leaves no trace, and later ones of its key are taken again. -/
theorem run_reports_ledger_refused :
    let rs : List Recording :=
      [.timed "a" Int64.maxValue, .timed "a" 1, .plain "b", .timed "a" (-1)]
    rs.length < 2 ^ 64 ∧
      ((empty .paired).run rs).1.Reports [⟨"a", 2, 2 ^ 63 - 2⟩, ⟨"b", 1, 0⟩] := by
  intro rs
  obtain ⟨hresults, -, -, hexact⟩ := run_reports_ledger .paired rs
  have hl : rs.length < 2 ^ 64 := by decide
  have hledger : ledger (accepted rs (verdicts [] rs)) = [⟨"a", 2, 2 ^ 63 - 2⟩, ⟨"b", 1, 0⟩] := by
    decide
  rw [← hresults] at hledger
  rw [← hledger]
  exact ⟨hl, hexact hl⟩

theorem Indexed.index_iff (h : Indexed t) (k : String) (p : Nat) :
    t.index[k]? = some p ↔ ∃ hp : p < t.entries.size, t.entries[p].key = k := by
  rw [h k p, keys_getElem?, Option.map_eq_some_iff]
  constructor
  · rintro ⟨e, he, rfl⟩
    obtain ⟨hp, rfl⟩ := Array.getElem?_eq_some_iff.mp he
    exact ⟨hp, rfl⟩
  · rintro ⟨hp, hk⟩
    exact ⟨t.entries[p], Array.getElem?_eq_getElem hp, hk⟩

theorem Indexed.locate_lt (h : Indexed t) (k : String) :
    (t.locate k).2 < (t.locate k).1.entries.size := by
  rw [← length_keys]
  exact (List.getElem?_eq_some_iff.mp (keys_locate_position h k)).1

/-- An entry counts the accepted recordings of its key, and there is one. -/
theorem Keeps.entry_count (h : Keeps t ok) {e : Entry} (he : e ∈ t.entries.toList) :
    1 ≤ occurrences e.key ok ∧ e.stats.count = .ofNat (occurrences e.key ok) := by
  rw [entries_eq_map_stats h.indexed] at he
  obtain ⟨k, hk, rfl⟩ := List.mem_map.mp he
  rw [h.keys] at hk
  exact ⟨occurrences_pos.mpr hk, by rw [h.stats k]⟩

/-- After any history a tally keeps recordings, and no more than were made. -/
theorem exists_keeps_run (mode : Mode) (rs : List Recording) :
    ∃ ok, Keeps ((empty mode).run rs).1 ok ∧ ok.length ≤ rs.length :=
  ⟨_, (keeps_empty mode).keeps_run rs, length_accepted_le rs _⟩

theorem Keeps.bounds_of_mem (h : Keeps t ok) (hl : ok.length < 2 ^ 63) {e : Entry}
    (he : e ∈ t.entries.toList) : 1 ≤ e.stats.count.toNat ∧ e.stats.count.toNat < 2 ^ 63 := by
  obtain ⟨hpos, hcount⟩ := h.entry_count he
  have hle := occurrences_le_length e.key ok
  have hword : occurrences e.key ok < 2 ^ 64 := by omega
  rw [hcount, UInt64.toNat_ofNat_of_lt' hword]
  omega

theorem one_le_ofNat {n : Nat} (h : 1 ≤ n) (hn : n < 2 ^ 64) : 1 ≤ UInt64.ofNat n := by
  rw [UInt64.le_iff_toNat_le, UInt64.toNat_ofNat', Nat.mod_eq_of_lt hn]
  exact h

/-- After any history the index and the entries agree, no position that is used lies outside the
entries, and no entry is there without a recording. -/
theorem run_index_agrees (mode : Mode) (rs : List Recording) :
    let t := ((empty mode).run rs).1
    let ok := accepted rs ((empty mode).run rs).2
    t.keys.Nodup ∧
      (∀ (k : String) (p : Nat),
        t.index[k]? = some p ↔ ∃ hp : p < t.entries.size, t.entries[p].key = k) ∧
      (∀ e ∈ t.entries.toList,
        1 ≤ occurrences e.key ok ∧ e.stats.count = .ofNat (occurrences e.key ok) ∧
          (rs.length < 2 ^ 64 → 1 ≤ e.stats.count)) ∧
      (∀ k, (t.locate k).2 < (t.locate k).1.entries.size) ∧
      (∀ (k : String) (p : Nat), t.index[k]? = some p → p < t.entries.size) ∧
      ∀ k, t.get? k = (t.entries.toList.find? (·.key = k)).map (·.stats) := by
  intro t ok
  have hk : Keeps t ok := (keeps_empty mode).keeps_run rs
  have hi := hk.indexed
  refine ⟨hi.nodup_keys, hi.index_iff, ?_, hi.locate_lt, ?_, get?_eq_find? hi⟩
  · intro e he
    obtain ⟨hpos, hcount⟩ := hk.entry_count he
    refine ⟨hpos, hcount, ?_⟩
    intro hl
    have hle := occurrences_le_length e.key ok
    have hok : ok.length ≤ rs.length := length_accepted_le rs _
    rw [hcount]
    exact one_le_ofNat hpos (by omega)
  · intro k p hp
    exact ((hi.index_iff k p).mp hp).1

theorem run_index_agrees_refused :
    let rs : List Recording := [.timed "a" Int64.maxValue, .timed "a" 1]
    let t := ((empty .single).run rs).1
    let e : Entry := ⟨"a", ⟨1, Int64.maxValue⟩⟩
    rs.length < 2 ^ 64 ∧ e ∈ t.entries.toList ∧ 1 ≤ e.stats.count := by
  intro rs t e
  have hl : rs.length < 2 ^ 64 := by decide
  have he : e ∈ t.entries.toList := by decide +kernel
  obtain ⟨-, -, hentry, -⟩ := run_index_agrees .single rs
  exact ⟨hl, he, (hentry e he).2.2 hl⟩

end TraceTally.Tally
