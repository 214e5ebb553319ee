import TraceTally.Proofs.History

/-! One recording on a tally. A refused one changes nothing, and one that is taken changes the stats
of its own key and nothing else. -/
namespace TraceTally.Tally

open Recording

variable {t : Tally} {ok : List Recording} {k : String} {d : Int64}

/-- From `t` to `t'` nothing but the stats of `k` changed. A key that is there stays where it is, and
`k` comes last if it is new. -/
structure ChangedAt (k : String) (t t' : Tally) : Prop where
  mode : t'.mode = t.mode
  keys : t'.keys = if k ∈ t.keys then t.keys else t.keys ++ [k]
  entry : ∀ (p : Nat) (e : Entry), t.entries[p]? = some e → e.key ≠ k → t'.entries[p]? = some e
  index : ∀ j ≠ k, t'.index[j]? = t.index[j]?
  position : ∀ p : Nat, t.index[k]? = some p → t'.index[k]? = some p
  last : k ∉ t.keys → t'.index[k]? = some t.size
  get? : ∀ j ≠ k, t'.get? j = t.get? j

/-- One more occurrence of `k` stands in `t'`, which brought the time `d`. -/
def CountsOneMore (k : String) (d : Int) (t t' : Tally) : Prop :=
  ∃ s, t'.get? k = some s ∧ s.count = (t.stats k).count + 1 ∧
    s.duration.toInt = (t.stats k).duration.toInt + d

theorem get?_eq_stats (h : Indexed t) (k : String) :
    t.get? k = if k ∈ t.keys then some (t.stats k) else none := by
  by_cases hk : k ∈ t.keys
  · obtain ⟨p, hp⟩ := List.mem_iff_getElem?.mp hk
    rw [if_pos hk, get?_of_position h hp, entry_of_position h hp]
    rfl
  · rw [if_neg hk, get?_of_not_mem h hk]

theorem mem_keys_update (h : Indexed t) (k : String) (f : Stats → Stats) (j : String) :
    j ∈ (t.update k f).keys ↔ j = k ∨ j ∈ t.keys := by
  rw [keys_update h]
  by_cases hk : k ∈ t.keys
  · rw [if_pos hk]
    constructor
    · exact Or.inr
    · rintro (rfl | hj)
      · exact hk
      · exact hj
  · rw [if_neg hk, List.mem_append, List.mem_singleton, or_comm]

theorem get?_update (h : Indexed t) (k : String) (f : Stats → Stats) (j : String) :
    (t.update k f).get? j = if j = k then some (f (t.stats k)) else t.get? j := by
  rw [get?_eq_stats (indexed_update h k f), get?_eq_stats h, stats_update h]
  by_cases hj : j = k
  · subst j
    simp [mem_keys_update h]
  · simp [mem_keys_update h, hj]

/-- A key that is there keeps its position. -/
theorem keys_update_getElem? (h : Indexed t) (k : String) (f : Stats → Stats) {j : String} {p : Nat}
    (hp : t.keys[p]? = some j) : (t.update k f).keys[p]? = some j := by
  rw [keys_update h]
  by_cases hk : k ∈ t.keys
  · rw [if_pos hk, hp]
  · have hlt : p < t.keys.length := (List.getElem?_eq_some_iff.mp hp).1
    rw [if_neg hk, List.getElem?_append_left hlt, hp]

theorem index_update (h : Indexed t) (k : String) (f : Stats → Stats) {j : String} {p : Nat}
    (hp : t.index[j]? = some p) : (t.update k f).index[j]? = some p := by
  rw [indexed_update h k f]
  exact keys_update_getElem? h k f ((h j p).mp hp)

theorem mode_update (t : Tally) (k : String) (f : Stats → Stats) :
    (t.update k f).mode = t.mode := mode_locate t k

theorem changedAt_update (h : Indexed t) (k : String) (f : Stats → Stats) :
    ChangedAt k t (t.update k f) where
  mode := mode_update t k f
  keys := keys_update h k f
  entry := by
    intro p e he hne
    have hp : t.keys[p]? = some e.key := by simp [keys_getElem?, he]
    have hstats : (t.update k f).stats e.key = t.stats e.key := by
      rw [stats_update h, if_neg hne]
    rw [entry_of_position (indexed_update h k f) (keys_update_getElem? h k f hp), hstats,
      ← entry_of_position h hp, he]
  index := by
    intro j hj
    cases hi : t.index[j]? with
    | some p => exact index_update h k f hi
    | none =>
      rw [h.index_eq_none] at hi
      rw [(indexed_update h k f).index_eq_none, mem_keys_update h]
      exact not_or.mpr ⟨hj, hi⟩
  position := fun p hp => index_update h k f hp
  last := by
    intro hk
    have hsize : t.size = t.keys.length := (length_keys t).symm
    rw [indexed_update h k f, keys_update h, if_neg hk, hsize, List.getElem?_concat_length]
  get? := by
    intro j hj
    rw [get?_update h, if_neg hj]

theorem countsOneMore_update (h : Indexed t) {total : Int64} {d : Int}
    (hd : total.toInt = (t.stats k).duration.toInt + d) :
    CountsOneMore k d t (t.update k fun s => ⟨s.count + 1, total⟩) :=
  ⟨_, by rw [get?_update h, if_pos rfl], rfl, hd⟩

theorem record_effect (h : Indexed t) (k : String) :
    ChangedAt k t (t.record k) ∧ CountsOneMore k 0 t (t.record k) := by
  rw [record_eq_update]
  refine ⟨changedAt_update h k _, ?_⟩
  exact ⟨_, by rw [get?_update h, if_pos rfl], rfl, by simp⟩

/-- The two ways in which a timed recording can end. -/
theorem recordTimed_effect (h : Indexed t) (k : String) (d : Int64) :
    (Duration.InRange ((t.stats k).duration.toInt + d.toInt) ∧ (t.recordTimed k d).2 = .ok () ∧
      ChangedAt k t (t.recordTimed k d).1 ∧ CountsOneMore k d.toInt t (t.recordTimed k d).1) ∨
    (¬ Duration.InRange ((t.stats k).duration.toInt + d.toInt) ∧
      t.recordTimed k d = (t, .error (.durationOverflow k))) := by
  by_cases hr : Duration.InRange ((t.stats k).duration.toInt + d.toInt)
  · let f (s : Stats) : Stats := ⟨s.count + 1, .ofInt ((t.stats k).duration.toInt + d.toInt)⟩
    have hstep : t.recordTimed k d = (t.update k f, .ok ()) := by
      rw [recordTimed_eq h, Duration.add?_eq, if_pos hr]
    rw [hstep]
    exact Or.inl ⟨hr, rfl, changedAt_update h k f, countsOneMore_update h (Duration.toInt_ofInt hr)⟩
  · refine Or.inr ⟨hr, ?_⟩
    rw [recordTimed_eq h, Duration.add?_eq, if_neg hr]

/-- A key that is not there is never refused: it starts from nothing. -/
theorem mem_keys_of_not_inRange (h : Indexed t)
    (hr : ¬ Duration.InRange ((t.stats k).duration.toInt + d.toInt)) : k ∈ t.keys := by
  by_contra hk
  rw [stats_of_not_mem h hk] at hr
  have hd := Duration.inRange_toInt d
  simp [hd] at hr

theorem Keeps.count_pos (h : Keeps t ok) (hl : ok.length < 2 ^ 64) {e : Entry}
    (he : e ∈ t.entries.toList) : 0 < e.stats.count := by
  obtain ⟨hpos, hcount⟩ := h.entry_count he
  have hle := occurrences_le_length e.key ok
  have hone := one_le_ofNat hpos (by omega)
  rw [hcount]
  exact UInt64.lt_of_lt_of_le (by decide) hone

/-- One recording adds at most one to what is kept. -/
theorem Keeps.exists_apply (h : Keeps t ok) (r : Recording) :
    ∃ ok', Keeps (t.apply r).1 ok' ∧ ok'.length ≤ ok.length + 1 := by
  by_cases hr : Fits ok r
  · exact ⟨ok ++ [r], (h.apply_of_fits hr).2, by simp⟩
  · rw [h.apply_of_not_fits hr]
    exact ⟨ok, h, by omega⟩

/-- A timed recording after any history. It is refused exactly when its key is there and the sum
would leave the range; then the tally is what it was, index and all. A new key is never refused, so
no entry is left without an occurrence. Otherwise, as for every plain recording, one occurrence is
added to the key, which stays where it is or comes last, and no other key is touched. -/
theorem recording_atomic_and_local (mode : Mode) (rs : List Recording) (k : String) (d : Int64) :
    let t := ((empty mode).run rs).1
    let t' := (t.recordTimed k d).1
    let result := (t.recordTimed k d).2
    (result = .error (.durationOverflow k) ↔
        ∃ s, t.get? k = some s ∧ ¬ Duration.InRange (s.duration.toInt + d.toInt)) ∧
      (result = .error (.durationOverflow k) → t' = t) ∧
      (result = .error (.durationOverflow k) ∨ result = .ok ()) ∧
      (k ∉ t.keys → result = .ok ()) ∧
      (rs.length + 1 < 2 ^ 64 → ∀ e ∈ t'.entries.toList, 0 < e.stats.count) ∧
      (result = .ok () → ChangedAt k t t' ∧ CountsOneMore k d.toInt t t') ∧
      ChangedAt k t (t.record k) ∧ CountsOneMore k 0 t (t.record k) := by
  intro t t' result
  have hk : Keeps t (accepted rs ((empty mode).run rs).2) := (keeps_empty mode).keeps_run rs
  have hi := hk.indexed
  have hcount : rs.length + 1 < 2 ^ 64 → ∀ e ∈ t'.entries.toList, 0 < e.stats.count := by
    intro hl e he
    obtain ⟨ok', hk', hle⟩ := hk.exists_apply (.timed k d)
    have hrs := length_accepted_le rs ((empty mode).run rs).2
    exact hk'.count_pos (by omega) he
  rcases recordTimed_effect hi k d with ⟨hr, hok, hchanged, hcounts⟩ | ⟨hr, hrefused⟩
  · have hne : ¬ result = .error (.durationOverflow k) := by simp [result, hok]
    refine ⟨⟨fun he => (hne he).elim, ?_⟩, fun he => (hne he).elim, Or.inr hok, fun _ => hok, hcount,
      fun _ => ⟨hchanged, hcounts⟩, record_effect hi k⟩
    rintro ⟨s, hs, hout⟩
    have hstats : t.stats k = s := by simp [stats, hs]
    exact (hout (hstats ▸ hr)).elim
  · have herror : result = .error (.durationOverflow k) := by simp [result, hrefused]
    have hmem := mem_keys_of_not_inRange hi hr
    have hget : t.get? k = some (t.stats k) := by rw [get?_eq_stats hi, if_pos hmem]
    refine ⟨⟨fun _ => ⟨_, hget, hr⟩, fun _ => herror⟩, fun _ => by simp [t', hrefused],
      Or.inl herror, fun hn => (hn hmem).elim, hcount, ?_, record_effect hi k⟩
    intro hok
    simp [herror] at hok

/-- At the lower limit, with another key in front. The first call is refused and the second, on a new
key, is not. -/
theorem recording_atomic_and_local_minValue :
    let rs : List Recording := [.plain "b", .timed "a" Int64.minValue]
    let t := ((empty .paired).run rs).1
    let e : Entry := ⟨"b", ⟨1, 0⟩⟩
    rs.length + 1 < 2 ^ 64 ∧ (t.recordTimed "a" (-1)).2 = .error (.durationOverflow "a") ∧
      (t.recordTimed "a" (-1)).1 = t ∧ e ∈ (t.recordTimed "a" (-1)).1.entries.toList ∧
      0 < e.stats.count ∧ "c" ∉ t.keys ∧ (t.recordTimed "c" (-1)).2 = .ok () ∧
      ChangedAt "c" t (t.recordTimed "c" (-1)).1 := by
  intro rs t e
  obtain ⟨hiff, hsame, -, -, hcount, -⟩ := recording_atomic_and_local .paired rs "a" (-1)
  obtain ⟨-, -, -, hnew, -, hchanged, -⟩ := recording_atomic_and_local .paired rs "c" (-1)
  have hl : rs.length + 1 < 2 ^ 64 := by decide
  have hget : t.get? "a" = some ⟨1, Int64.minValue⟩ := by decide +kernel
  have hrefused := hiff.mpr ⟨_, hget, by decide⟩
  have he : e ∈ (t.recordTimed "a" (-1)).1.entries.toList := by decide +kernel
  have hc : "c" ∉ t.keys := by decide +kernel
  exact ⟨hl, hrefused, hsame hrefused, he, hcount hl e he, hc, hnew hc, (hchanged (hnew hc)).1⟩

end TraceTally.Tally
