import TraceTally.Proofs.Reordering

/-! Keys and counts do not depend on durations. Whatever way a key is recorded, it is counted alike
as long as nothing is refused, so both passes over lines agree on what they count. -/
namespace TraceTally

/-- The same occurrence without its time. -/
def Recording.untimed (r : Recording) : Recording := .plain r.key

namespace Tally

open Recording

variable {t u : Tally} {ok ok' rs : List Recording}

theorem column_keys (t : Tally) : t.column .keys = t.counted.map (·.1) := by
  simp [column, counted, Entry.cell]

theorem column_counts (t : Tally) :
    t.column .counts = t.counted.map fun c => toString c.2.toNat := by
  simp [column, counted, Entry.cell, Entry.countText, Function.comp_def]

/-- What is counted can be told from the keys of the recordings. -/
theorem Keeps.counted_eq (h : Keeps t ok) : t.counted =
    (ok.map key).eraseDups.map fun k => (k, .ofNat ((ok.map key).count k)) := by
  rw [counted, entries_eq_map_stats h.indexed, h.keys, firstKeys, List.map_map]
  apply List.map_congr_left
  intro k _
  simp only [Function.comp_apply, h.stats k, occurrences_eq_count]

theorem Keeps.counted_congr (h : Keeps t ok) (h' : Keeps u ok') (hkeys : ok.map key = ok'.map key) :
    t.counted = u.counted := by
  rw [h.counted_eq, h'.counted_eq, hkeys]

theorem accepted_of_all_ok (h : ∀ result ∈ (t.run rs).2, result = .ok ()) :
    accepted rs (t.run rs).2 = rs := by
  induction rs generalizing t with
  | nil => rfl
  | cons r rs ih =>
    simp only [run, List.forall_mem_cons] at h
    obtain ⟨hr, hrs⟩ := h
    simp only [run, hr, accepted, ih hrs]

theorem keeps_of_all_ok {mode : Mode} (h : ∀ result ∈ ((empty mode).run rs).2, result = .ok ()) :
    Keeps ((empty mode).run rs).1 rs := by
  have hk := (keeps_empty mode).keeps_run rs
  rwa [accepted_of_all_ok h] at hk

theorem keeps_run_untimed (mode : Mode) (rs : List Recording) :
    Keeps ((empty mode).run (rs.map untimed)).1 (rs.map untimed) := by
  have hplain : rs.map untimed = (rs.map key).map .plain := by
    rw [List.map_map]
    rfl
  rw [hplain, run_plain]
  exact (keeps_empty mode).foldl_record _

/-- The pass over pairs counts what the pass over keys counts on every other line, from the first on.
Any history in which nothing is refused counts what it counts without the durations, and a timed
recording that took no time is a plain one. -/
theorem counts_ignore_durations :
    (∀ ls t, ofPairedLines ls = .ok t →
      (∀ i, (keyLines ls)[i]? = ls[2 * i]?) ∧
        t.column .keys = (ofLines (keyLines ls)).column .keys ∧
        t.column .counts = (ofLines (keyLines ls)).column .counts) ∧
    ∀ mode rs,
      ((∀ result ∈ ((empty mode).run rs).2, result = .ok ()) →
        ((empty mode).run rs).1.counted = ((empty mode).run (rs.map untimed)).1.counted) ∧
      ∀ k, let t := ((empty mode).run rs).1
        t.recordTimed k 0 = (t.record k, .ok ()) := by
  constructor
  · intro ls t ht
    obtain ⟨heven, -, -, hk⟩ := ofPairedLines_eq_ok ht
    have hkeys : (pairRecordings ls).map key = ((keyLines ls).map Recording.plain).map key := by
      rw [map_key_pairRecordings, map_key_plain]
    have hcounted := hk.counted_congr (keeps_ofLines _) hkeys
    refine ⟨getElem?_keyLines heven, ?_, ?_⟩
    · rw [column_keys, column_keys, hcounted]
    · rw [column_counts, column_counts, hcounted]
  · intro mode rs
    constructor
    · intro hok
      apply (keeps_of_all_ok hok).counted_congr (keeps_run_untimed mode rs)
      rw [List.map_map]
      rfl
    · intro k t
      exact recordTimed_zero ((keeps_empty mode).keeps_run rs).indexed k

/-- A key at the upper limit that is seen again. -/
theorem counts_ignore_durations_limit :
    let ls := ["a", "9223372036854775807", "b", "2", "a", "-1"]
    let rs : List Recording := [.timed "a" Int64.maxValue, .plain "b", .timed "a" (-1)]
    (∃ t, ofPairedLines ls = .ok t ∧
      t.column .counts = (ofLines ["a", "b", "a"]).column .counts) ∧
    (∀ result ∈ ((empty .paired).run rs).2, result = .ok ()) ∧
      ((empty .paired).run rs).1.counted =
        ((empty .paired).run [.plain "a", .plain "b", .plain "a"]).1.counted := by
  intro ls rs
  obtain ⟨hpasses, hruns⟩ := counts_ignore_durations
  obtain ⟨t, ht⟩ := exists_of_isOk (show (ofPairedLines ls).isOk = true by decide +kernel)
  have hok : ∀ result ∈ ((empty .paired).run rs).2, result = .ok () := by decide +kernel
  exact ⟨⟨t, ht, (hpasses ls t ht).2.2⟩, hok, (hruns .paired rs).1 hok⟩

end Tally

end TraceTally
