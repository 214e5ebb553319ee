import TraceTally.Proofs.SaturatedTotal

/-! Nothing is lost on the way from the lines to the totals. Counts and durations are summed key by
key, and the sums over the keys are those over the lines. -/
namespace TraceTally

namespace Recording

variable {rs : List Recording} {ks : List String}

theorem time_cons (k : String) (r : Recording) (rs : List Recording) :
    time k (r :: rs) = (if k = r.key then r.duration.toInt else 0) + time k rs := by
  by_cases h : r.key = k
  · subst k
    simp [time]
  · simp [time, h, Ne.symm h]

/-- Every recording brings its time to one of the keys. -/
theorem sum_time_of_covers (hks : ks.Nodup) (h : ∀ r ∈ rs, r.key ∈ ks) :
    (ks.map fun k => time k rs).sum = (rs.map (·.duration.toInt)).sum := by
  induction rs with
  | nil => simp [time]
  | cons r rs ih =>
    have hrest := ih fun r' hr' => h r' (List.mem_cons_of_mem r hr')
    have hone : ks.count r.key = 1 := List.count_eq_one_of_mem hks (h r List.mem_cons_self)
    simp only [time_cons, List.sum_map_add, hrest, List.sum_map_ite_eq, hone]
    simp

theorem sum_time (rs : List Recording) :
    ((firstKeys rs).map fun k => time k rs).sum = (rs.map (·.duration.toInt)).sum :=
  sum_time_of_covers (nodup_firstKeys rs) fun r hr => mem_firstKeys.mpr ⟨r, hr, rfl⟩

end Recording

namespace Tally

open Recording

variable {t : Tally} {ok : List Recording} {ls : List String}

/-- The tally counts each of `ks` once and has one entry for all that are equal. -/
structure CountsEach (t : Tally) (ks : List String) : Prop where
  keys : t.column .keys = ks.eraseDups
  distinctKeys : t.totals.distinctKeys = ks.eraseDups.length
  count : t.totals.count = .ofNat ks.length
  count_exact : ks.length < 2 ^ 64 → t.totals.count.toNat = ks.length

theorem ofNat_sum_mod (ns : List Nat) :
    UInt64.ofNat (ns.map (· % 2 ^ 64)).sum = UInt64.ofNat ns.sum := by
  rw [← UInt64.ofNat_mod_size, ← List.sum_nat_mod, UInt64.ofNat_mod_size]

theorem Keeps.counts (h : Keeps t ok) : (t.entries.toList.map fun e => e.stats.count.toNat) =
    ((firstKeys ok).map fun k => occurrences k ok).map (· % 2 ^ 64) := by
  have hentries := congrArg (List.map Account.count) (entries_of_keeps h)
  simpa [ledger, Entry.account, Account.wrap, Function.comp_def] using hentries

theorem Keeps.totals_count (h : Keeps t ok) : t.totals.count = .ofNat ok.length := by
  rw [Tally.totals_count, h.counts, ofNat_sum_mod, sum_occurrences]

theorem Keeps.times (h : Keeps t ok) : t.times = (firstKeys ok).map fun k => time k ok := by
  rw [Tally.times, entries_eq_map_stats h.indexed, h.keys, List.map_map]
  exact List.map_congr_left fun k _ => h.toInt_duration k

theorem Keeps.sum_times (h : Keeps t ok) : t.times.sum = (ok.map (·.duration.toInt)).sum := by
  rw [h.times, sum_time]

theorem Keeps.countsEach (h : Keeps t ok) : CountsEach t (ok.map key) where
  keys := h.keys
  distinctKeys := size_eq h
  count := by rw [h.totals_count, List.length_map]
  count_exact := by
    intro hl
    rw [List.length_map] at hl ⊢
    rw [h.totals_count]
    exact UInt64.toNat_ofNat_of_lt' hl

/-- Every duration of an input without a fault can be read. -/
theorem parse_of_mem_linePairs (h : ∀ i e, ¬ PairFault ls i e) {p : String × String}
    (hp : p ∈ linePairs ls) : ∃ d, Duration.parse p.2 = .ok d := by
  obtain ⟨i, hi⟩ := List.mem_iff_getElem?.mp hp
  obtain ⟨-, hv⟩ := getElem?_linePairs.mp hi
  cases hd : Duration.parse p.2 with
  | ok d => exact ⟨d, rfl⟩
  | error cause => exact (h i _ (.unreadable hv hd)).elim

theorem map_parse_durationLines (h : ∀ i e, ¬ PairFault ls i e) :
    (durationLines ls).map Duration.parse =
      ((pairRecordings ls).map Recording.duration).map .ok := by
  rw [durationLines, pairRecordings_eq_map, List.map_map, List.map_map, List.map_map]
  apply List.map_congr_left
  intro p hp
  obtain ⟨d, hd⟩ := parse_of_mem_linePairs h hp
  simp [hd, duration, Except.toOption]

/-- Both passes count every line that holds a key and keep the keys in the order of first sight. The
durations in a tally add up to those on the lines, in exact numbers. -/
theorem passes_conserve (ls : List String) :
    CountsEach (ofLines ls) ls ∧
      ∀ t, ofPairedLines ls = .ok t →
        CountsEach t (keyLines ls) ∧ 2 * (keyLines ls).length = ls.length ∧
          ∃ ds : List Int64, (durationLines ls).map Duration.parse = ds.map .ok ∧
            t.times.sum = (ds.map Int64.toInt).sum := by
  constructor
  · have hsingle := (keeps_ofLines ls).countsEach
    rwa [map_key_plain] at hsingle
  · intro t ht
    obtain ⟨heven, hnone, -, hk⟩ := ofPairedLines_eq_ok ht
    have hpaired := hk.countsEach
    rw [map_key_pairRecordings] at hpaired
    refine ⟨hpaired, ?_, _, map_parse_durationLines hnone, ?_⟩
    · rw [length_keyLines]
      omega
    · rw [hk.sum_times, List.map_map]
      rfl

/-- A key that comes back, with durations of both signs. -/
theorem passes_conserve_repeated :
    let ls := ["a", " 1_0", "b", "-3", "a", "+5"]
    ∃ t, ofPairedLines ls = .ok t ∧ t.column .keys = ["a", "b"] ∧ t.totals.distinctKeys = 2 ∧
      (keyLines ls).length < 2 ^ 64 ∧ t.totals.count.toNat = 3 ∧ t.times.sum = 12 := by
  intro ls
  obtain ⟨t, ht⟩ := exists_of_isOk (show (ofPairedLines ls).isOk = true by decide +kernel)
  obtain ⟨hcounts, -, ds, hparse, hsum⟩ := (passes_conserve ls).2 t ht
  have hl : (keyLines ls).length < 2 ^ 64 := by decide
  have hds : (durationLines ls).map Duration.parse = [10, -3, 5].map .ok := by decide +kernel
  obtain rfl : [10, -3, 5] = ds := by
    apply List.map_injective_iff.mpr (fun _ _ => Except.ok.inj)
    rw [← hds, hparse]
  exact ⟨t, ht, hcounts.keys, hcounts.distinctKeys, hl, hcounts.count_exact hl, hsum⟩

end Tally

end TraceTally
