import Mathlib
import TraceTally.Tally.Column
import TraceTally.Tally.Recording

/-! The index of a tally against its entries. Keys and the stats of each key say all of a tally,
and one update, which both recordings make, says all that is ever done to it. -/
namespace TraceTally.Tally

variable {t : Tally} {k j : String} {p q : Nat} {f : Stats → Stats}

/-- The index gives exactly the positions at which the keys stand. -/
def Indexed (t : Tally) : Prop :=
  ∀ (k : String) (p : Nat), t.index[k]? = some p ↔ t.keys[p]? = some k

/-- The stats of a key; nothing is recorded for one that is not there. -/
def stats (t : Tally) (k : String) : Stats := (t.get? k).getD {}

/-- The stats of a key changed in place, or entered at the end if it is new. -/
def update (t : Tally) (k : String) (f : Stats → Stats) : Tally :=
  (t.locate k).1.modifyAt (t.locate k).2 f

theorem indexed_empty (mode : Mode) : Indexed (empty mode) := by
  intro k p
  simp [empty, keys]

@[simp]
theorem length_keys (t : Tally) : t.keys.length = t.entries.size := by simp [keys]

theorem keys_getElem? (t : Tally) (p : Nat) : t.keys[p]? = t.entries[p]?.map (·.key) := by
  simp [keys]

@[simp]
theorem keys_modifyAt (t : Tally) (p : Nat) (f : Stats → Stats) :
    (t.modifyAt p f).keys = t.keys := by
  apply List.ext_getElem?
  intro q
  simp only [keys_getElem?, modifyAt, Array.getElem?_modify]
  split <;> simp [Option.map_map, Function.comp_def]

theorem indexed_modifyAt (h : Indexed t) (p : Nat) (f : Stats → Stats) :
    Indexed (t.modifyAt p f) := by
  intro k q
  rw [keys_modifyAt]
  exact h k q

theorem Indexed.position_unique (h : Indexed t) (hp : t.keys[p]? = some k)
    (hq : t.keys[q]? = some k) : p = q := by
  have hk := (h k p).mpr hp
  rw [(h k q).mpr hq] at hk
  exact (Option.some.inj hk).symm

theorem Indexed.nodup_keys (h : Indexed t) : t.keys.Nodup := by
  rw [List.nodup_iff_getElem?_ne_getElem?]
  intro p q hpq hq he
  have hk : t.keys[q]? = some t.keys[q] := List.getElem?_eq_getElem hq
  have := h.position_unique (he.trans hk) hk
  omega

theorem Indexed.index_eq_none (h : Indexed t) : t.index[k]? = none ↔ k ∉ t.keys := by
  rw [Option.eq_none_iff_forall_ne_some, List.mem_iff_getElem?, not_exists]
  exact forall_congr' fun p => not_congr (h k p)

/-- A key that is there is found where it stands; a new one goes to the end. -/
theorem Indexed.locate_cases (h : Indexed t) (k : String) :
    (∃ p, t.keys[p]? = some k ∧ t.locate k = (t, p)) ∨
      (k ∉ t.keys ∧ t.locate k =
        ({ t with entries := t.entries.push ⟨k, {}⟩, index := t.index.insert k t.entries.size },
          t.entries.size)) := by
  cases hk : t.index[k]? with
  | some p => exact Or.inl ⟨p, (h k p).mp hk, by simp [locate, hk]⟩
  | none => exact Or.inr ⟨h.index_eq_none.mp hk, by simp [locate, hk]⟩

theorem keys_locate (h : Indexed t) (k : String) :
    (t.locate k).1.keys = if k ∈ t.keys then t.keys else t.keys ++ [k] := by
  obtain ⟨p, hp, he⟩ | ⟨hk, he⟩ := h.locate_cases k
  · rw [he, if_pos (List.mem_of_getElem? hp)]
  · rw [he, if_neg hk]
    simp [keys]

theorem indexed_locate (h : Indexed t) (k : String) : Indexed (t.locate k).1 := by
  obtain ⟨p, hp, he⟩ | ⟨hk, he⟩ := h.locate_cases k
  · rw [he]
    exact h
  · intro j q
    have hkeys := keys_locate h k
    rw [if_neg hk] at hkeys
    rw [hkeys, he, List.getElem?_append, length_keys]
    simp only [Std.TreeMap.getElem?_insert, Std.compare_eq_iff_eq]
    by_cases hj : k = j
    · subst j
      rw [if_pos rfl]
      split
      · rename_i hq
        have hne : t.keys[q]? ≠ some k := fun hq => hk (List.mem_of_getElem? hq)
        simp [hne]
        omega
      · rw [List.getElem?_singleton]
        split <;> simp <;> omega
    · rw [if_neg hj, h j q]
      split
      · rfl
      · rename_i hq
        rw [List.getElem?_eq_none (by simpa using hq), List.getElem?_singleton]
        split <;> simp [hj]

/-- The position that a recording writes to is one of the entries. -/
theorem keys_locate_position (h : Indexed t) (k : String) :
    (t.locate k).1.keys[(t.locate k).2]? = some k := by
  obtain ⟨p, hp, he⟩ | ⟨hk, he⟩ := h.locate_cases k
  · rw [he]
    exact hp
  · rw [he]
    simp [keys]

theorem get?_eq (t : Tally) (k : String) :
    t.get? k = t.index[k]?.bind fun p => t.entries[p]?.map (·.stats) := by
  cases hk : t.index[k]? with
  | none => simp [get?, hk]
  | some p => cases he : t.entries[p]? <;> simp [get?, hk, he]

theorem get?_of_position (h : Indexed t) (hp : t.keys[p]? = some k) :
    t.get? k = t.entries[p]?.map (·.stats) := by
  rw [get?_eq, (h k p).mpr hp]
  rfl

theorem get?_of_not_mem (h : Indexed t) (hk : k ∉ t.keys) : t.get? k = none := by
  rw [get?_eq, h.index_eq_none.mpr hk]
  rfl

/-- The entry at the position of a key holds the stats of the key. -/
theorem entry_of_position (h : Indexed t) (hp : t.keys[p]? = some k) :
    t.entries[p]? = some ⟨k, t.stats k⟩ := by
  rw [keys_getElem?, Option.map_eq_some_iff] at hp
  obtain ⟨e, he, rfl⟩ := hp
  have hp : t.keys[p]? = some e.key := by simp [keys_getElem?, he]
  simp [stats, get?_of_position h hp, he]

/-- Keys and the stats of each key determine the entries. -/
theorem entries_eq_map_stats (h : Indexed t) :
    t.entries.toList = t.keys.map fun k => ⟨k, t.stats k⟩ := by
  apply List.ext_getElem?
  intro p
  rw [List.getElem?_map]
  cases hp : t.keys[p]? with
  | none =>
    rw [List.getElem?_eq_none_iff, length_keys] at hp
    simpa using hp
  | some k => simpa using entry_of_position h hp

/-- Looking a key up by the index is searching the entries for it. -/
theorem get?_eq_find? (h : Indexed t) (k : String) :
    t.get? k = (t.entries.toList.find? (·.key = k)).map (·.stats) := by
  cases hf : t.entries.toList.find? (·.key = k) with
  | none =>
    have hk : k ∉ t.keys := by
      intro hk
      obtain ⟨e, he, rfl⟩ := List.mem_map.mp hk
      exact List.find?_eq_none.mp hf e he (by simp)
    exact get?_of_not_mem h hk
  | some e =>
    have hk : e.key = k := by simpa using List.find?_some hf
    obtain ⟨p, hp⟩ := List.mem_iff_getElem?.mp (List.mem_of_find?_eq_some hf)
    rw [Array.getElem?_toList] at hp
    rw [get?_of_position h (p := p) (by simp [keys_getElem?, hp, hk]), hp]

theorem indexed_update (h : Indexed t) (k : String) (f : Stats → Stats) :
    Indexed (t.update k f) :=
  indexed_modifyAt (indexed_locate h k) _ f

theorem keys_update (h : Indexed t) (k : String) (f : Stats → Stats) :
    (t.update k f).keys = if k ∈ t.keys then t.keys else t.keys ++ [k] := by
  rw [update, keys_modifyAt, keys_locate h]

theorem stats_of_not_mem (h : Indexed t) (hk : k ∉ t.keys) : t.stats k = {} := by
  rw [stats, get?_of_not_mem h hk]
  rfl

/-- Entering a key records nothing. -/
theorem stats_locate (h : Indexed t) (k j : String) : (t.locate k).1.stats j = t.stats j := by
  obtain ⟨p, hp, he⟩ | ⟨hk, he⟩ := h.locate_cases k
  · rw [he]
  · have hl := indexed_locate h k
    by_cases hj : j ∈ t.keys
    · obtain ⟨p, hp⟩ := List.mem_iff_getElem?.mp hj
      have hlt : p < t.entries.size := by simpa using (List.getElem?_eq_some_iff.mp hp).1
      have hp' : (t.locate k).1.keys[p]? = some j := by
        rw [keys_locate h, if_neg hk, List.getElem?_append_left (by simpa using hlt), hp]
      rw [stats, stats, get?_of_position hl hp', get?_of_position h hp, he]
      simp [Array.getElem?_push_lt, hlt]
    · rw [stats_of_not_mem h hj]
      by_cases hjk : j = k
      · subst j
        rw [stats, get?_of_position hl (keys_locate_position h k), he]
        simp
      · apply stats_of_not_mem hl
        rw [keys_locate h, if_neg hk]
        simp [hj, hjk]

theorem stats_modifyAt (h : Indexed t) (hp : t.keys[p]? = some k) (f : Stats → Stats)
    (j : String) : (t.modifyAt p f).stats j = if j = k then f (t.stats j) else t.stats j := by
  have hm := indexed_modifyAt h p f
  by_cases hj : j ∈ t.keys
  · obtain ⟨q, hq⟩ := List.mem_iff_getElem?.mp hj
    have hq' : (t.modifyAt p f).keys[q]? = some j := by rw [keys_modifyAt, hq]
    rw [stats, get?_of_position hm hq', modifyAt, Array.getElem?_modify, entry_of_position h hq]
    by_cases hjk : j = k
    · subst j
      simp [h.position_unique hp hq]
    · have hpq : p ≠ q := by
        rintro rfl
        exact hjk (Option.some.inj (hq.symm.trans hp))
      simp [hpq, hjk]
  · have hjk : j ≠ k := by
      rintro rfl
      exact hj (List.mem_of_getElem? hp)
    rw [if_neg hjk, stats_of_not_mem h hj, stats_of_not_mem hm (by simpa using hj)]

/-- An update changes the stats of its key and of no other. -/
theorem stats_update (h : Indexed t) (k : String) (f : Stats → Stats) (j : String) :
    (t.update k f).stats j = if j = k then f (t.stats j) else t.stats j := by
  rw [update, stats_modifyAt (indexed_locate h k) (keys_locate_position h k), stats_locate h]

/-- An update sees nothing but the stats of its key. -/
theorem update_congr (h : Indexed t) {f g : Stats → Stats} (hfg : f (t.stats k) = g (t.stats k)) :
    t.update k f = t.update k g := by
  have he := entry_of_position (indexed_locate h k) (keys_locate_position h k)
  rw [stats_locate h] at he
  simp only [update, modifyAt, Tally.mk.injEq, and_true, true_and]
  apply Array.ext_getElem?
  intro q
  rw [Array.getElem?_modify, Array.getElem?_modify]
  split
  · subst q
    simp [he, hfg]
  · rfl

theorem record_eq_update (t : Tally) (k : String) :
    t.record k = t.update k fun s => { s with count := s.count + 1 } := rfl

/-- A timed recording is an update when the sum stays in range, and changes nothing otherwise. -/
theorem recordTimed_eq (h : Indexed t) (k : String) (d : Int64) :
    t.recordTimed k d =
      match Duration.add? (t.stats k).duration d with
      | none => (t, .error (.durationOverflow k))
      | some total => (t.update k fun s => ⟨s.count + 1, total⟩, .ok ()) := by
  have hl := indexed_locate h k
  have hd : ((t.locate k).1.entries[(t.locate k).2]?.map (·.stats.duration)).getD 0 =
      (t.stats k).duration := by
    rw [entry_of_position hl (keys_locate_position h k), stats_locate h]
    rfl
  simp only [recordTimed, hd]
  cases ha : Duration.add? (t.stats k).duration d with
  | some total => rfl
  | none =>
    obtain ⟨p, hp, he⟩ | ⟨hk, he⟩ := h.locate_cases k
    · rw [he]
    · -- A new key starts at zero, and every duration is in range.
      rw [stats_of_not_mem h hk, Duration.add?_eq] at ha
      have hd := Duration.inRange_toInt d
      simp [hd] at ha

/-- A plain recording is a timed one that took no time. -/
theorem recordTimed_zero (h : Indexed t) (k : String) :
    t.recordTimed k 0 = (t.record k, .ok ()) := by
  have ha : Duration.add? (t.stats k).duration 0 = some (t.stats k).duration := by
    rw [Duration.add?_eq, Int64.toInt_zero, Int.add_zero, if_pos (Duration.inRange_toInt _),
      Int64.ofInt_toInt]
  rw [recordTimed_eq h, ha, record_eq_update]
  exact congrArg (·, Except.ok ()) (update_congr h rfl)

theorem apply_eq_recordTimed (h : Indexed t) (r : Recording) :
    t.apply r = t.recordTimed r.key r.duration := by
  cases r with
  | plain k => exact (recordTimed_zero h k).symm
  | timed k d => rfl

/-- A recording reads nothing but the stats of its key. -/
theorem apply_eq_update (h : Indexed t) (r : Recording) :
    t.apply r =
      match Duration.add? (t.stats r.key).duration r.duration with
      | none => (t, .error (.durationOverflow r.key))
      | some total => (t.update r.key fun s => ⟨s.count + 1, total⟩, .ok ()) := by
  rw [apply_eq_recordTimed h]
  exact recordTimed_eq h r.key r.duration

theorem indexed_apply (h : Indexed t) (r : Recording) : Indexed (t.apply r).1 := by
  rw [apply_eq_update h]
  split
  · exact h
  · exact indexed_update h _ _

end TraceTally.Tally
