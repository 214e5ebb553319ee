import TraceTally.Proofs.Passes

/-! Tallies with the same entries in another order. Whatever the order, some history leads there. -/
namespace TraceTally

namespace Recording

variable {k : String} {rs : List Recording} {ks : List String}

theorem time_of_not_mem (h : k ∉ firstKeys rs) : time k rs = 0 := by
  have hnone : rs.filter (·.key = k) = [] := by
    rw [List.filter_eq_nil_iff]
    intro r hr hk
    exact h (mem_firstKeys.mpr ⟨r, hr, by simpa using hk⟩)
  rw [time, hnone]
  rfl

theorem time_append (k : String) (rs rs' : List Recording) :
    time k (rs ++ rs') = time k rs + time k rs' := by
  simp [time]

theorem time_eq_zero (h : ∀ r ∈ rs, r.duration = 0) (k : String) : time k rs = 0 := by
  apply List.sum_eq_zero
  intro n hn
  obtain ⟨r, hr, rfl⟩ := List.mem_map.mp hn
  rw [h r (List.mem_of_mem_filter hr)]
  rfl

theorem time_plain (k : String) (ls : List String) : time k (ls.map .plain) = 0 := by
  apply time_eq_zero
  intro r hr
  obtain ⟨l, -, rfl⟩ := List.mem_map.mp hr
  rfl

theorem time_timed (d : String → Int64) (hks : ks.Nodup) (k : String) :
    time k (ks.map fun k => .timed k (d k)) = if k ∈ ks then (d k).toInt else 0 := by
  have hfilter : (ks.map fun k => Recording.timed k (d k)).filter (·.key = k) =
      (List.replicate (ks.count k) k).map fun k => .timed k (d k) := by
    rw [List.filter_map, ← List.filter_eq]
    rfl
  rw [time, hfilter, hks.count]
  split <;> simp [duration]

theorem mem_firstKeys_snoc {j : String} {r : Recording} :
    j ∈ firstKeys (rs ++ [r]) ↔ j ∈ firstKeys rs ∨ j = r.key := by
  simp [mem_firstKeys, or_and_right, exists_or, eq_comm]

theorem firstKeys_of_nodup (h : (rs.map key).Nodup) : firstKeys rs = rs.map key := by
  induction rs using List.reverseRecOn with
  | nil => rfl
  | append_singleton rs r ih =>
    rw [List.map_append, List.nodup_append] at h
    obtain ⟨hrs, -, hnew⟩ := h
    have hr : r.key ∉ rs.map key := fun hr => hnew _ hr _ (by simp) rfl
    rw [firstKeys_snoc, ih hrs, if_neg hr, List.map_append]
    rfl

/-- Keys that were seen before change nothing. -/
theorem firstKeys_append {rs' : List Recording} (h : ∀ r ∈ rs', r.key ∈ firstKeys rs) :
    firstKeys (rs ++ rs') = firstKeys rs := by
  induction rs' using List.reverseRecOn with
  | nil => rw [List.append_nil]
  | append_singleton rs' r ih =>
    have hrs' := ih fun r' hr' => h r' (by simp [hr'])
    rw [← List.append_assoc, firstKeys_snoc, hrs', if_pos (h r (by simp))]

/-- The keys in a given order, each with all of its time at once, then what is missing of the
counts. -/
def replay (rs : List Recording) (ks : List String) : List Recording :=
  ks.map (fun k => .timed k (.ofInt (time k rs))) ++ ((rs.map key).diff ks).map .plain

theorem map_key_replay (rs : List Recording) (ks : List String) :
    (replay rs ks).map key = ks ++ (rs.map key).diff ks := by
  simp [replay, key, Function.comp_def]

variable (hks : ks.Perm (firstKeys rs))
include hks

theorem nodup_of_perm_firstKeys : ks.Nodup := hks.nodup_iff.mpr (nodup_firstKeys rs)

theorem firstKeys_replay : firstKeys (replay rs ks) = ks := by
  let timed := ks.map fun k => Recording.timed k (.ofInt (time k rs))
  have hkeys : timed.map key = ks := by simp [timed, key, Function.comp_def]
  have htimed : firstKeys timed = ks := by
    rw [firstKeys_of_nodup (hkeys ▸ nodup_of_perm_firstKeys hks), hkeys]
  have hrest : ∀ r ∈ ((rs.map key).diff ks).map Recording.plain, r.key ∈ firstKeys timed := by
    intro r hr
    obtain ⟨k, hk, rfl⟩ := List.mem_map.mp hr
    rw [htimed, hks.mem_iff, mem_firstKeys]
    exact List.mem_map.mp (List.diff_subset _ _ hk)
  rw [replay, firstKeys_append hrest, htimed]

theorem occurrences_replay (k : String) : occurrences k (replay rs ks) = occurrences k rs := by
  have hle : ks.count k ≤ (rs.map key).count k := by
    rw [(nodup_of_perm_firstKeys hks).count]
    split
    · rename_i hk
      rw [← occurrences_eq_count]
      exact occurrences_pos.mpr (hks.mem_iff.mp hk)
    · exact Nat.zero_le _
  rw [occurrences_eq_count, map_key_replay, List.count_append, List.count_diff, occurrences_eq_count]
  omega

theorem time_replay (hr : ∀ k, Duration.InRange (time k rs)) (k : String) :
    time k (replay rs ks) = time k rs := by
  rw [replay, time_append, time_plain, time_timed _ (nodup_of_perm_firstKeys hks), Int.add_zero]
  split
  · exact Duration.toInt_ofInt (hr k)
  · rename_i hk
    exact (time_of_not_mem fun h => hk (hks.mem_iff.mpr h)).symm

end Recording

namespace Tally

open Recording

variable {t : Tally} {ok : List Recording} {ks : List String}

theorem run_append (t : Tally) (rs rs' : List Recording) :
    (t.run (rs ++ rs')).1 = ((t.run rs).1.run rs').1 := by
  induction rs generalizing t with
  | nil => rfl
  | cons r rs ih => exact ih _

theorem run_plain (t : Tally) (ls : List String) :
    (t.run (ls.map .plain)).1 = ls.foldl Tally.record t := by
  induction ls generalizing t with
  | nil => rfl
  | cons l ls ih => exact ih _

theorem Keeps.run_timed (h : Keeps t ok) (d : String → Int64) (hks : ks.Nodup)
    (hnew : ∀ k ∈ ks, k ∉ firstKeys ok) :
    Keeps (t.run (ks.map fun k => .timed k (d k))).1 (ok ++ ks.map fun k => .timed k (d k)) := by
  induction ks generalizing t ok with
  | nil => simpa [run] using h
  | cons k ks ih =>
    obtain ⟨hk, hks⟩ := List.nodup_cons.mp hks
    have hfits : Fits ok (.timed k (d k)) := by
      have hzero : time k ok = 0 := time_of_not_mem (hnew k (by simp))
      simpa [Fits, key, duration, hzero] using Duration.inRange_toInt (d k)
    have hnew' : ∀ j ∈ ks, j ∉ firstKeys (ok ++ [.timed k (d k)]) := by
      intro j hj hmem
      rcases mem_firstKeys_snoc.mp hmem with hmem | rfl
      · exact hnew j (by simp [hj]) hmem
      · exact hk hj
    have hrest := ih (h.apply_of_fits hfits).2 hks hnew'
    simpa [run] using hrest

theorem keeps_replay (mode : Mode) (rs : List Recording) (hks : ks.Nodup) :
    Keeps ((empty mode).run (replay rs ks)).1 (replay rs ks) := by
  have htimed := (keeps_empty mode).run_timed (fun k => .ofInt (time k rs)) hks
    (by simp [firstKeys])
  rw [replay, run_append, run_plain]
  exact htimed.foldl_record _

/-- `t'` holds the entries of `t` in some order, and a history leads to it. -/
structure Reordered (t t' : Tally) : Prop where
  reachable : ∃ rs, ((empty t.mode).run rs).1 = t'
  entries : t'.entries.toList.Perm t.entries.toList

/-- Every order of the entries of a tally can be reached. -/
theorem Keeps.exists_reordered (h : Keeps t ok) {es : List Entry}
    (hes : es.Perm t.entries.toList) : ∃ t', Reordered t t' ∧ t'.entries.toList = es := by
  let ks := es.map (·.key)
  have hks : ks.Perm (firstKeys ok) := by
    rw [← h.keys]
    exact hes.map _
  let t' := ((empty t.mode).run (replay ok ks)).1
  have h' : Keeps t' (replay ok ks) := keeps_replay t.mode ok (nodup_of_perm_firstKeys hks)
  have hstats : ∀ k, t'.stats k = t.stats k := by
    intro k
    rw [h'.stats, h.stats, occurrences_replay hks, time_replay hks h.inRange]
  have hentry : ∀ e ∈ es, (⟨e.key, t.stats e.key⟩ : Entry) = e := by
    intro e he
    have he := hes.mem_iff.mp he
    rw [entries_eq_map_stats h.indexed] at he
    obtain ⟨k, -, rfl⟩ := List.mem_map.mp he
    rfl
  have hentries : t'.entries.toList = es := by
    rw [entries_eq_map_stats h'.indexed, h'.keys, firstKeys_replay hks, List.map_map]
    simp only [Function.comp_def, hstats]
    rw [List.map_congr_left hentry, List.map_id']
  exact ⟨t', ⟨⟨_, rfl⟩, hentries ▸ hes⟩, hentries⟩

end Tally

end TraceTally
