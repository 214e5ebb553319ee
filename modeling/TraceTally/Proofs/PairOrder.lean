import TraceTally.Proofs.Conservation
import TraceTally.Proofs.RecordingEffect

/-! The same pairs of lines in another order. Sums by key do not depend on the order, whereas the
order can decide whether a sum on the way leaves the range. It cannot when no duration is
negative. -/
namespace TraceTally

attribute [ext] Totals

namespace Recording

variable {rs rs' : List Recording}

theorem occurrences_perm (hp : rs'.Perm rs) (k : String) : occurrences k rs' = occurrences k rs :=
  hp.countP_eq _

theorem time_perm (hp : rs'.Perm rs) (k : String) : time k rs' = time k rs :=
  ((hp.filter _).map _).sum_eq

theorem firstKeys_perm (hp : rs'.Perm rs) : (firstKeys rs').Perm (firstKeys rs) := by
  rw [List.perm_ext_iff_of_nodup (nodup_firstKeys rs') (nodup_firstKeys rs)]
  intro k
  simp only [mem_firstKeys, hp.mem_iff]

theorem time_nonneg (h : ∀ r ∈ rs, 0 ≤ r.duration.toInt) (k : String) : 0 ≤ time k rs := by
  apply List.sum_nonneg
  intro n hn
  obtain ⟨r, hr, rfl⟩ := List.mem_map.mp hn
  exact h r (List.mem_of_mem_filter hr)

/-- Without losses no sum on the way exceeds the last one. -/
theorem inRange_time_take (h : ∀ r ∈ rs, 0 ≤ r.duration.toInt) {k : String}
    (hr : Duration.InRange (time k rs)) (i : Nat) : Duration.InRange (time k (rs.take i)) := by
  have htaken : 0 ≤ time k (rs.take i) := time_nonneg (fun r hr => h r (List.mem_of_mem_take hr)) k
  have hleft : 0 ≤ time k (rs.drop i) := time_nonneg (fun r hr => h r (List.mem_of_mem_drop hr)) k
  have hall := time_append k (rs.take i) (rs.drop i)
  rw [List.take_append_drop] at hall
  have hlow : Int64.minValue.toInt ≤ 0 := by decide
  have hhigh := hr.2
  exact ⟨by omega, by omega⟩

end Recording

namespace Tally

open Recording

variable {t t' : Tally} {ok ok' : List Recording} {ls ls' : List String}

/-- Where nothing is lost the total can as well be held within the range once, at the end. -/
theorem Keeps.toInt_totals_of_nonneg (h : Keeps t ok) (hn : ∀ r ∈ ok, 0 ≤ r.duration.toInt) :
    t.totals.duration.toInt = Duration.clamp (ok.map (·.duration.toInt)).sum := by
  have htimes : ∀ d ∈ t.times, 0 ≤ d := by
    intro d hd
    rw [h.times] at hd
    obtain ⟨k, -, rfl⟩ := List.mem_map.mp hd
    exact time_nonneg hn k
  have hturns : Duration.NeverTurns 0 t.times :=
    Duration.neverTurns_of_nonneg (by decide) htimes
  rw [toInt_totals_of_neverTurns hturns, h.sum_times]

section SameRecordings

variable (h : Keeps t ok) (h' : Keeps t' ok') (hp : ok'.Perm ok)
include h h' hp

theorem Keeps.stats_perm (k : String) : t'.stats k = t.stats k := by
  rw [h'.stats, h.stats, occurrences_perm hp, time_perm hp]

theorem Keeps.get?_perm (k : String) : t'.get? k = t.get? k := by
  have hmem : k ∈ t'.keys ↔ k ∈ t.keys := by
    rw [h'.keys, h.keys, (firstKeys_perm hp).mem_iff]
  simp only [get?_eq_stats h'.indexed, get?_eq_stats h.indexed, hmem, h.stats_perm h' hp]

theorem Keeps.size_perm : t'.size = t.size := by
  rw [size_eq h', size_eq h, (firstKeys_perm hp).length_eq]

theorem Keeps.totals_count_perm : t'.totals.count = t.totals.count := by
  rw [h'.totals_count, h.totals_count, hp.length_eq]

theorem Keeps.totals_perm (hn : ∀ r ∈ ok, 0 ≤ r.duration.toInt) : t'.totals = t.totals := by
  have hn' : ∀ r ∈ ok', 0 ≤ r.duration.toInt := fun r hr => hn r (hp.mem_iff.mp hr)
  apply Totals.ext
  · exact h.size_perm h' hp
  · exact h.totals_count_perm h' hp
  · rw [← Int64.toInt_inj, h'.toInt_totals_of_nonneg hn', h.toInt_totals_of_nonneg hn,
      (hp.map _).sum_eq]

end SameRecordings

/-- All durations can be read and none is negative. -/
def NoLosses (ls : List String) : Prop :=
  ∀ value ∈ durationLines ls, ∃ d, Duration.parse value = .ok d ∧ 0 ≤ d

theorem pairRecordings_perm (hp : (linePairs ls').Perm (linePairs ls)) :
    (pairRecordings ls').Perm (pairRecordings ls) := by
  rw [pairRecordings_eq_map, pairRecordings_eq_map]
  exact hp.map _

theorem NoLosses.perm (h : NoLosses ls) (hp : (linePairs ls').Perm (linePairs ls)) :
    NoLosses ls' :=
  fun value hv => h value ((hp.map (·.2)).mem_iff.mp hv)

theorem NoLosses.duration_nonneg (h : NoLosses ls) {r : Recording} (hr : r ∈ pairRecordings ls) :
    0 ≤ r.duration.toInt := by
  rw [pairRecordings_eq_map] at hr
  obtain ⟨p, hp, rfl⟩ := List.mem_map.mp hr
  obtain ⟨d, hd, hnonneg⟩ := h p.2 (List.mem_map_of_mem hp)
  rw [Int64.le_iff_toInt_le, Int64.toInt_zero] at hnonneg
  simpa [hd, duration, Except.toOption] using hnonneg

theorem mem_durationLines {i : Nat} {value : String} (hv : ls[2 * i + 1]? = some value) :
    value ∈ durationLines ls := by
  have hlt : 2 * i + 1 < ls.length := (List.getElem?_eq_some_iff.mp hv).1
  have hk : ls[2 * i]? = some ls[2 * i] := List.getElem?_eq_getElem (by omega)
  exact List.mem_map_of_mem (List.mem_of_getElem? (getElem?_linePairs.mpr ⟨hk, hv⟩))

/-- Without losses the sum of each key decides alone, whatever the sums on the way. -/
theorem NoLosses.accepted_iff (h : NoLosses ls) :
    (∃ t, ofPairedLines ls = .ok t) ↔
      ls.length % 2 = 0 ∧ ∀ k, Duration.InRange (time k (pairRecordings ls)) := by
  constructor
  · rintro ⟨t, ht⟩
    obtain ⟨heven, -, -, hk⟩ := ofPairedLines_eq_ok ht
    exact ⟨heven, hk.inRange⟩
  · rintro ⟨heven, hr⟩
    obtain ⟨i, e, ⟨hfault, -⟩, -⟩ | ⟨-, t, ht, -⟩ := ofPairedLines_cases heven
    · exfalso
      cases hfault with
      | unreadable hv hd =>
        obtain ⟨d, hd', -⟩ := h _ (mem_durationLines hv)
        rw [hd] at hd'
        cases hd'
      | @overflow key value d hk hv hd hout =>
        -- The sum that was refused is the sum of the pairs up to this one.
        have hnext := inRange_time_take (fun r => h.duration_nonneg) (hr key) (i + 1)
        rw [pairRecordings_take_succ hk hv, time_snoc, hd, if_pos (by rfl)] at hnext
        exact hout hnext
    · exact ⟨t, ht⟩

/-- Two inputs of the same pairs. If both are accepted they come to the same stats for every key, and
to the same number of keys and of occurrences. If no duration is negative, all totals are the same,
also where the time is held at the end of the range, and one input is accepted when the other is. A
line left over is in no pair, so the number of lines is compared there. -/
theorem ofPairedLines_order_irrelevant (hp : (linePairs ls').Perm (linePairs ls)) :
    (∀ t t', ofPairedLines ls = .ok t → ofPairedLines ls' = .ok t' →
      (∀ k, t'.get? k = t.get? k) ∧ t'.size = t.size ∧ t'.totals.count = t.totals.count) ∧
    (NoLosses ls →
      (ls'.length = ls.length →
        ((∃ t, ofPairedLines ls = .ok t) ↔ ∃ t', ofPairedLines ls' = .ok t')) ∧
      ∀ t t', ofPairedLines ls = .ok t → ofPairedLines ls' = .ok t' → t'.totals = t.totals) := by
  have hperm := pairRecordings_perm hp
  constructor
  · intro t t' ht ht'
    have hk := (keeps_ofPairedLines ht).1
    have hk' := (keeps_ofPairedLines ht').1
    exact ⟨hk.get?_perm hk' hperm, hk.size_perm hk' hperm, hk.totals_count_perm hk' hperm⟩
  · intro hn
    constructor
    · intro hlen
      simp only [hn.accepted_iff, (hn.perm hp).accepted_iff, hlen, time_perm hperm]
    · intro t t' ht ht'
      have hk := (keeps_ofPairedLines ht).1
      have hk' := (keeps_ofPairedLines ht').1
      exact hk.totals_perm hk' hperm fun r => hn.duration_nonneg

/-- The time of `a` reaches the limit and the time in all goes beyond it. -/
theorem ofPairedLines_order_irrelevant_limit :
    let ls := ["a", "9223372036854775807", "b", "1", "a", "0"]
    let ls' := ["a", "0", "a", "9223372036854775807", "b", "1"]
    (linePairs ls').Perm (linePairs ls) ∧ NoLosses ls ∧ ls'.length = ls.length ∧
      ∃ t t', ofPairedLines ls = .ok t ∧ ofPairedLines ls' = .ok t' ∧
        t'.get? "a" = t.get? "a" ∧ t'.size = t.size ∧ t'.totals = t.totals := by
  intro ls ls'
  have hp : (linePairs ls').Perm (linePairs ls) := by decide
  have hn : NoLosses ls := by
    intro value hv
    simp only [ls, durationLines, linePairs, List.map_cons, List.map_nil, List.mem_cons,
      List.not_mem_nil, or_false] at hv
    rcases hv with rfl | rfl | rfl
    · exact ⟨Int64.maxValue, by decide +kernel, by decide⟩
    · exact ⟨1, by decide +kernel, by decide⟩
    · exact ⟨0, by decide +kernel, by decide⟩
  have hlen : ls'.length = ls.length := rfl
  obtain ⟨hsame, hnonneg⟩ := ofPairedLines_order_irrelevant hp
  obtain ⟨htogether, htotals⟩ := hnonneg hn
  obtain ⟨t, ht⟩ := exists_of_isOk (show (ofPairedLines ls).isOk = true by decide +kernel)
  obtain ⟨t', ht'⟩ := (htogether hlen).mp ⟨t, ht⟩
  obtain ⟨hget, hsize, -⟩ := hsame t t' ht ht'
  exact ⟨hp, hn, hlen, t, t', ht, ht', hget "a", hsize, htotals t t' ht ht'⟩

/-- A loss that comes too late does not help. -/
example :
    let ls := ["a", "9223372036854775807", "a", "-1", "a", "1"]
    let ls' := ["a", "9223372036854775807", "a", "1", "a", "-1"]
    (linePairs ls').Perm (linePairs ls) ∧ (ofPairedLines ls).isOk = true ∧
      (ofPairedLines ls').isOk = false := by
  decide +kernel

end Tally

end TraceTally
