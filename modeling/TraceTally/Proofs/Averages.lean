import TraceTally.Proofs.Conservation
import TraceTally.Proofs.SummaryTable

/-! Counts and averages are held in words. In a history of fewer than half as many recordings as there
are words no count and no sum of counts wraps round, every count can be divided by as it stands, and
each average in the summary is the quotient of the numbers beside it. -/
namespace TraceTally

namespace Report.Summary

variable {d : Int64} {n : UInt64}

/-- The row shows the quotient of its duration by its count, without the fraction. -/
def ShowsQuotient (row : String) : Prop :=
  ∃ c, readRow? row = some c ∧ 1 ≤ c.count ∧ c.average = c.duration.tdiv c.count

theorem showsQuotient_row {share : String} (hs : Numeral share) (h : ExactAverage d n)
    (name : String) : ShowsQuotient (row share d n name) := by
  have hcount := h.one_le
  rw [h.divisor] at hcount
  exact ⟨_, readRow?_row hs d n name, by exact_mod_cast hcount, h.truncated⟩

end Report.Summary

namespace Tally

open Recording Report.Summary

variable {t : Tally} {ok : List Recording} {r : Recording}

theorem Keeps.toNat_count (h : Keeps t ok) (hl : ok.length < 2 ^ 64) (k : String) :
    (t.stats k).count.toNat = occurrences k ok := by
  have hle := occurrences_le_length k ok
  rw [h.stats k]
  exact UInt64.toNat_ofNat_of_lt' (Nat.lt_of_le_of_lt hle hl)

/-- A recording that is taken adds exactly one to the count of its key. -/
theorem Keeps.toNat_count_apply (h : Keeps t ok) (hl : ok.length + 1 < 2 ^ 64)
    (hok : (t.apply r).2 = .ok ()) :
    ((t.apply r).1.stats r.key).count.toNat = (t.stats r.key).count.toNat + 1 := by
  by_cases hr : Fits ok r
  · have hnext := (h.apply_of_fits hr).2
    rw [hnext.toNat_count (by simpa using hl), h.toNat_count (by omega), occurrences_snoc,
      if_pos rfl]
  · rw [h.apply_of_not_fits hr] at hok
    cases hok

theorem Keeps.toNat_totals_count (h : Keeps t ok) (hl : ok.length < 2 ^ 64) :
    t.totals.count.toNat = ok.length := by
  rw [h.totals_count]
  exact UInt64.toNat_ofNat_of_lt' hl

theorem Keeps.bounds_totals (h : Keeps t ok) (hl : ok.length < 2 ^ 63) (hne : t.isEmpty = false) :
    1 ≤ t.totals.count.toNat ∧ t.totals.count.toNat < 2 ^ 63 := by
  have hsize : 0 < t.size := by simpa [isEmpty, size, Nat.pos_iff_ne_zero] using hne
  have hkeys := length_firstKeys_le ok
  rw [size_eq h] at hsize
  rw [h.toNat_totals_count (by omega)]
  omega

/-- Sums of counts on the way to the total never exceed it. -/
theorem Keeps.toNat_foldl_take (h : Keeps t ok) (hl : ok.length < 2 ^ 64) (n : Nat) :
    ((t.entries.toList.take n).foldl (fun n (e : Entry) => n + e.stats.count) 0).toNat =
      ((t.entries.toList.take n).map fun e => e.stats.count.toNat).sum := by
  have hsum := sum_counts h hl
  have hsub := (List.take_sublist n t.entries.toList).map fun e : Entry => e.stats.count.toNat
  have hle := hsub.sum_le_sum fun _ _ => Nat.zero_le _
  rw [hsum] at hle
  rw [foldl_count, UInt64.zero_add]
  exact UInt64.toNat_ofNat_of_lt' (Nat.lt_of_le_of_lt hle hl)

theorem lines_show_quotients (hne : t.isEmpty = false)
    (hentries : ∀ e ∈ t.entries.toList, ExactAverage e.stats.duration e.stats.count)
    (htotals : ExactAverage t.totals.duration t.totals.count) :
    ∃ rows last, Report.Summary.lines t = [heading, rule] ++ rows ++ [rule, last] ∧
      rows.length = t.size ∧ ∀ row ∈ last :: rows, ShowsQuotient row := by
  have hperm := (stablyRanked_ranked t).perm
  refine ⟨_, _, lines_of_not_isEmpty hne, ?_, ?_⟩
  · rw [List.length_map, hperm.length_eq, Array.length_toList]
    rfl
  · intro row hrow
    rcases List.mem_cons.mp hrow with rfl | hrow
    · exact showsQuotient_row ⟨by simp, by simp [IsNumeral]⟩ htotals "total"
    · obtain ⟨e, he, rfl⟩ := List.mem_map.mp hrow
      exact showsQuotient_row (numeral_percent _ _) (hentries e (hperm.mem_iff.mp he)) e.key

/-- In a history of fewer than `2 ^ 63` recordings every recording that is taken adds one to its
count, and every sum of counts on the way to the total is exact: no word wraps round. In the summary
the count of an entry, and the count in all, can be divided by as they stand, and every row shows the
quotient of its duration by its count without the fraction. -/
theorem counting_and_averages_exact (mode : Mode) (rs : List Recording) (hl : rs.length < 2 ^ 63) :
    let t := ((empty mode).run rs).1
    (∀ before r after, rs = before ++ r :: after →
      let u := ((empty mode).run before).1
      (u.apply r).2 = .ok () →
        ((u.apply r).1.stats r.key).count.toNat = (u.stats r.key).count.toNat + 1) ∧
      (∀ n, ((t.entries.toList.take n).foldl (fun n (e : Entry) => n + e.stats.count) 0).toNat =
        ((t.entries.toList.take n).map fun e => e.stats.count.toNat).sum) ∧
      t.totals.count.toNat = (t.entries.toList.map fun e => e.stats.count.toNat).sum ∧
      (∀ e ∈ t.entries.toList, ExactAverage e.stats.duration e.stats.count) ∧
      (t.isEmpty = false → ExactAverage t.totals.duration t.totals.count ∧
        ∃ rows last, Report.Summary.lines t = [heading, rule] ++ rows ++ [rule, last] ∧
          rows.length = t.size ∧ ∀ row ∈ last :: rows, ShowsQuotient row) := by
  intro t
  obtain ⟨ok, hk, hle⟩ := exists_keeps_run mode rs
  have hentries : ∀ e ∈ t.entries.toList, ExactAverage e.stats.duration e.stats.count :=
    fun e he => exactAverage_of_run hl he
  refine ⟨?_, hk.toNat_foldl_take (by omega), ?_, hentries, ?_⟩
  · rintro before r after rfl u hresult
    obtain ⟨ok', hk', hle'⟩ := exists_keeps_run mode before
    rw [List.length_append, List.length_cons] at hl
    exact hk'.toNat_count_apply (by omega) hresult
  · rw [hk.toNat_totals_count (by omega), sum_counts hk (by omega)]
  · intro hne
    obtain ⟨hpos, hlt⟩ := hk.bounds_totals (by omega) hne
    have htotals := exactAverage_of_lt t.totals.duration hpos hlt
    exact ⟨htotals, lines_show_quotients hne hentries htotals⟩

/-- The least duration over three calls, with a refused one among them, and a loss that does not
divide. -/
theorem counting_and_averages_exact_minValue :
    let rs : List Recording := [.timed "a" Int64.minValue, .plain "a", .timed "b" (-7),
      .timed "a" (-1), .plain "b", .plain "a"]
    let t := ((empty .paired).run rs).1
    let u := ((empty .paired).run (rs.take 5)).1
    let e : Entry := ⟨"a", ⟨3, Int64.minValue⟩⟩
    rs.length < 2 ^ 63 ∧ (u.apply (.plain "a")).2 = .ok () ∧
      ((u.apply (.plain "a")).1.stats "a").count.toNat = (u.stats "a").count.toNat + 1 ∧
      e ∈ t.entries.toList ∧ ExactAverage e.stats.duration e.stats.count ∧
      t.isEmpty = false ∧ ExactAverage t.totals.duration t.totals.count := by
  intro rs t u e
  have hl : rs.length < 2 ^ 63 := by decide
  obtain ⟨hstep, -, -, hentries, htotals⟩ := counting_and_averages_exact .paired rs hl
  have he : e ∈ t.entries.toList := by decide +kernel
  have hne : t.isEmpty = false := by decide +kernel
  exact ⟨hl, rfl, hstep (rs.take 5) (.plain "a") [] rfl rfl, he, hentries e he, hne,
    (htotals hne).1⟩

end Tally

end TraceTally
