import TraceTally.Proofs.TallyIndex

/-! What a list of recordings comes to, key by key and in unbounded numbers. Nothing here looks at
a tally's entries or its index. -/
namespace TraceTally

/-- How often a key was recorded and the exact sum of its durations. -/
structure Account where
  key : String
  count : Nat
  time : Int
  deriving DecidableEq

namespace Account

/-- The account when its count is held in a word. -/
def wrap (a : Account) : Account := { a with count := a.count % 2 ^ 64 }

/-- What a column shows of an account. -/
def cell (a : Account) : Selector → String
  | .keys => a.key
  | .counts => toString a.count
  | .durations => toString a.time

end Account

/-- An entry in unbounded numbers. -/
def Entry.account (e : Entry) : Account := ⟨e.key, e.stats.count.toNat, e.stats.duration.toInt⟩

namespace Recording

variable {k : String} {r : Recording} {rs : List Recording}

def occurrences (k : String) (rs : List Recording) : Nat := rs.countP (·.key = k)

def time (k : String) (rs : List Recording) : Int :=
  ((rs.filter (·.key = k)).map (·.duration.toInt)).sum

/-- Every key once, in the order of first sight. -/
def firstKeys (rs : List Recording) : List String := (rs.map key).eraseDups

def ledger (rs : List Recording) : List Account :=
  (firstKeys rs).map fun k => ⟨k, occurrences k rs, time k rs⟩

theorem occurrences_snoc (k : String) (rs : List Recording) (r : Recording) :
    occurrences k (rs ++ [r]) = occurrences k rs + if k = r.key then 1 else 0 := by
  simp [occurrences, List.countP_singleton, eq_comm]

theorem time_snoc (k : String) (rs : List Recording) (r : Recording) :
    time k (rs ++ [r]) = time k rs + if k = r.key then r.duration.toInt else 0 := by
  by_cases h : r.key = k
  · subst k
    simp [time]
  · simp [time, h, Ne.symm h]

theorem mem_firstKeys : k ∈ firstKeys rs ↔ ∃ r ∈ rs, r.key = k := by
  simp [firstKeys, List.mem_eraseDups]

theorem firstKeys_snoc (rs : List Recording) (r : Recording) : firstKeys (rs ++ [r]) =
    if r.key ∈ firstKeys rs then firstKeys rs else firstKeys rs ++ [r.key] := by
  have hr : firstKeys (rs ++ [r]) = firstKeys rs ++ ([r.key].removeAll (rs.map key)).eraseDups := by
    rw [firstKeys, List.map_append, List.eraseDups_append]
    rfl
  rw [hr]
  by_cases h : ∃ r' ∈ rs, r'.key = r.key
  · simp [List.removeAll, mem_firstKeys, h]
  · simp [List.removeAll, mem_firstKeys, h, List.eraseDups_cons]

theorem occurrences_pos : 0 < occurrences k rs ↔ k ∈ firstKeys rs := by
  simp [occurrences, mem_firstKeys, List.countP_pos_iff]

theorem occurrences_le_length (k : String) (rs : List Recording) : occurrences k rs ≤ rs.length :=
  List.countP_le_length

theorem occurrences_eq_count (k : String) (rs : List Recording) :
    occurrences k rs = (rs.map key).count k := by
  rw [occurrences, List.count, List.countP_map]
  exact List.countP_congr (by simp)

theorem nodup_firstKeys (rs : List Recording) : (firstKeys rs).Nodup := by
  induction rs using List.reverseRecOn with
  | nil => exact List.nodup_nil
  | append_singleton rs r ih =>
    rw [firstKeys_snoc]
    split
    · exact ih
    · rename_i hr
      simpa using ih.concat hr

/-- Every recording is counted once, under its own key. -/
theorem sum_occurrences (rs : List Recording) :
    ((firstKeys rs).map fun k => occurrences k rs).sum = rs.length := by
  have hperm : (firstKeys rs).Perm (rs.map key).dedup := by
    rw [List.perm_ext_iff_of_nodup (nodup_firstKeys rs) (List.nodup_dedup _)]
    simp [firstKeys, List.mem_eraseDups]
  simp only [occurrences_eq_count]
  rw [(hperm.map _).sum_eq, List.sum_map_count_dedup_eq_length, List.length_map]

theorem length_firstKeys_le (rs : List Recording) : (firstKeys rs).length ≤ rs.length := by
  have hone : ∀ n ∈ (firstKeys rs).map fun k => occurrences k rs, 1 ≤ n := by
    intro n hn
    obtain ⟨k, hk, rfl⟩ := List.mem_map.mp hn
    exact occurrences_pos.mpr hk
  have hle := List.length_le_sum_of_one_le _ hone
  rwa [sum_occurrences, List.length_map] at hle

/-- No count of a short list of recordings is too large for a word. -/
theorem map_wrap_ledger (h : rs.length < 2 ^ 64) : (ledger rs).map Account.wrap = ledger rs := by
  rw [ledger, List.map_map]
  apply List.map_congr_left
  intro k _
  have hk := occurrences_le_length k rs
  simp only [Function.comp_apply, Account.wrap, Account.mk.injEq, and_true, true_and]
  exact Nat.mod_eq_of_lt (by omega)

end Recording

end TraceTally
