import TraceTally.Proofs.SaturatedTotal

/-! The mode of a tally and its durations. No recording looks at the mode, so a single tally takes
durations as a paired one does. It is free of them exactly when those of each key cancel out. -/
namespace TraceTally

namespace Tally

open Recording

variable {t : Tally} {ok rs : List Recording}

/-- The same entries and the same index under another mode. -/
def withMode (t : Tally) (mode : Mode) : Tally := { t with mode }

@[simp]
theorem entries_withMode (t : Tally) (mode : Mode) : (t.withMode mode).entries = t.entries := rfl

theorem locate_withMode (t : Tally) (mode : Mode) (k : String) :
    (t.withMode mode).locate k = ((t.locate k).1.withMode mode, (t.locate k).2) := by
  cases hk : t.index[k]? with
  | some p => simp [locate, withMode, hk]
  | none => simp [locate, withMode, hk]

/-- A recording does the same in either mode and ends alike. -/
theorem apply_withMode (t : Tally) (mode : Mode) (r : Recording) :
    (t.withMode mode).apply r = ((t.apply r).1.withMode mode, (t.apply r).2) := by
  cases r with
  | plain k =>
    simp only [apply, record, locate_withMode]
    rfl
  | timed k d =>
    simp only [apply, recordTimed, locate_withMode, entries_withMode]
    cases Duration.add? _ d with
    | none => rfl
    | some total => rfl

theorem run_withMode (t : Tally) (mode : Mode) (rs : List Recording) :
    (t.withMode mode).run rs = ((t.run rs).1.withMode mode, (t.run rs).2) := by
  induction rs generalizing t with
  | nil => rfl
  | cons r rs ih => simp only [run, apply_withMode, ih]

/-- No entry has a duration, no value of the column says otherwise, and the total has none. -/
structure Timeless (t : Tally) : Prop where
  entries : ∀ e ∈ t.entries.toList, e.stats.duration = 0
  column : t.column .durations = List.replicate t.size "0"
  total : t.totals.duration = 0

theorem timeless_of_entries (h : ∀ e ∈ t.entries.toList, e.stats.duration = 0) : Timeless t := by
  refine ⟨h, ?_, ?_⟩
  · rw [List.eq_replicate_iff]
    constructor
    · simp [column, size]
    · intro value hvalue
      obtain ⟨e, he, rfl⟩ := List.mem_map.mp hvalue
      change Duration.text e.stats.duration = "0"
      rw [h e he]
      rfl
  · have hzero : ∀ d ∈ t.times, d = 0 := by
      intro d hd
      obtain ⟨e, he, rfl⟩ := List.mem_map.mp hd
      simp [h e he]
    have hturns : Duration.NeverTurns 0 t.times :=
      Duration.neverTurns_of_nonneg (by decide) fun d hd => (hzero d hd).ge
    have htotal := toInt_totals_of_neverTurns hturns
    rw [List.sum_eq_zero hzero] at htotal
    exact Int64.toInt_inj.mp htotal

/-- What decides is the exact sum of each key, not the mode. -/
theorem Keeps.timeless_iff (h : Keeps t ok) : Timeless t ↔ ∀ k, time k ok = 0 := by
  have hentries := entries_eq_map_stats h.indexed
  constructor
  · intro htimeless k
    by_cases hk : k ∈ t.keys
    · have he : (⟨k, t.stats k⟩ : Entry) ∈ t.entries.toList := by
        rw [hentries]
        exact List.mem_map_of_mem hk
      have hzero : (t.stats k).duration = 0 := htimeless.entries _ he
      rw [← h.toInt_duration, hzero]
      rfl
    · rw [h.keys] at hk
      exact time_of_not_mem hk
  · intro hzero
    apply timeless_of_entries
    intro e he
    rw [hentries] at he
    obtain ⟨k, -, rfl⟩ := List.mem_map.mp he
    apply Int64.toInt_inj.mp
    rw [h.toInt_duration, hzero k]
    rfl

/-- A single tally keeps what a paired one keeps of the same history. It is free of durations exactly
when those that were taken for each key add up to nothing, and so whenever no recording brings any. -/
theorem single_timeless_iff (rs : List Recording) :
    let single := (empty .single).run rs
    let paired := (empty .paired).run rs
    single = (paired.1.withMode .single, paired.2) ∧
      (Timeless single.1 ↔ ∀ k, time k (accepted rs single.2) = 0) ∧
      ((∀ r ∈ rs, r.duration = 0) → Timeless single.1) := by
  intro single paired
  have hk : Keeps single.1 (accepted rs single.2) := (keeps_empty .single).keeps_run rs
  refine ⟨run_withMode (empty .paired) .single rs, hk.timeless_iff, ?_⟩
  intro hzero
  apply hk.timeless_iff.mpr
  exact time_eq_zero fun r hr => hzero r ((accepted_sublist rs _).subset hr)

theorem single_timeless_iff_untimed :
    let rs : List Recording := [.plain "a", .timed "b" 0, .plain "a"]
    (∀ r ∈ rs, r.duration = 0) ∧ Timeless ((empty .single).run rs).1 := by
  intro rs
  have hzero : ∀ r ∈ rs, r.duration = 0 := by decide
  exact ⟨hzero, (single_timeless_iff rs).2.2 hzero⟩

/-- One timed recording is enough. -/
theorem single_not_timeless :
    let t := ((empty .single).run [.timed "a" 5]).1
    t.mode = .single ∧ t.column .durations = ["5"] ∧ t.totals.duration = 5 ∧ ¬ Timeless t := by
  intro t
  have hcolumn : t.column .durations = ["5"] := by decide +kernel
  refine ⟨rfl, hcolumn, by decide +kernel, ?_⟩
  intro h
  have hzero := h.column
  rw [hcolumn] at hzero
  revert hzero
  decide +kernel

end Tally

end TraceTally
