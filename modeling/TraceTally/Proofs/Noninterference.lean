import TraceTally.Proofs.RecordingEffect

/-! The recordings of one key among those of other keys. All keys share the entries and the index,
yet what is held of a key, and which of its recordings are refused, is decided by its own recordings
alone. -/
namespace TraceTally.Tally

variable {t u : Tally} {k : String} {r : Recording}

/-- Two tallies that hold the same of `k`. They may differ in every other key and in the order. -/
structure AgreeOn (k : String) (t u : Tally) : Prop where
  left : Indexed t
  right : Indexed u
  get? : t.get? k = u.get? k

/-- The results of those recordings of a history that are of `k`. -/
def resultsOf (k : String) (rs : List Recording) (results : List (Except Error Unit)) :
    List (Except Error Unit) :=
  ((rs.zip results).filter (·.1.key = k)).map (·.2)

theorem get?_apply_other (h : Indexed t) (hr : r.key ≠ k) : (t.apply r).1.get? k = t.get? k := by
  rw [apply_eq_update h]
  split
  · rfl
  · rw [get?_update h, if_neg hr.symm]

theorem agreeOn_empty (k : String) (mode : Mode) : AgreeOn k (empty mode) (empty mode) :=
  ⟨indexed_empty mode, indexed_empty mode, rfl⟩

theorem AgreeOn.stats (h : AgreeOn k t u) : t.stats k = u.stats k := by
  rw [Tally.stats, Tally.stats, h.get?]

/-- A recording of another key is not seen. -/
theorem AgreeOn.apply_other (h : AgreeOn k t u) (hr : r.key ≠ k) : AgreeOn k (t.apply r).1 u :=
  ⟨indexed_apply h.left r, h.right, (get?_apply_other h.left hr).trans h.get?⟩

theorem AgreeOn.get?_apply_own (h : AgreeOn k t u) (hr : r.key = k) :
    (t.apply r).2 = (u.apply r).2 ∧ (t.apply r).1.get? k = (u.apply r).1.get? k := by
  have hstats : t.stats r.key = u.stats r.key := hr ▸ h.stats
  rw [apply_eq_update h.left, apply_eq_update h.right, hstats]
  cases Duration.add? (u.stats r.key).duration r.duration with
  | none => exact ⟨rfl, h.get?⟩
  | some total =>
    refine ⟨rfl, ?_⟩
    rw [get?_update h.left, get?_update h.right, if_pos hr.symm, if_pos hr.symm, hstats]

/-- A recording of the key itself ends alike on both sides and leaves them alike. -/
theorem AgreeOn.apply_own (h : AgreeOn k t u) (hr : r.key = k) :
    (t.apply r).2 = (u.apply r).2 ∧ AgreeOn k (t.apply r).1 (u.apply r).1 := by
  obtain ⟨hresult, hget⟩ := h.get?_apply_own hr
  exact ⟨hresult, indexed_apply h.left r, indexed_apply h.right r, hget⟩

/-- A whole history against its recordings of one key. -/
theorem AgreeOn.run (h : AgreeOn k t u) (rs : List Recording) :
    resultsOf k rs (t.run rs).2 = (u.run (rs.filter (·.key = k))).2 ∧
      AgreeOn k (t.run rs).1 (u.run (rs.filter (·.key = k))).1 := by
  induction rs generalizing t u with
  | nil => exact ⟨rfl, h⟩
  | cons r rs ih =>
    by_cases hr : r.key = k
    · obtain ⟨hresult, hagree⟩ := h.apply_own hr
      simpa [Tally.run, resultsOf, hr, hresult] using ih hagree
    · simpa [Tally.run, resultsOf, hr] using ih (h.apply_other hr)

/-- What a history leaves of a key, and the results of the recordings of that key, are those of the
history that holds no other recordings. -/
theorem run_isolates_key (mode : Mode) (rs : List Recording) (k : String) :
    let whole := (empty mode).run rs
    let own := (empty mode).run (rs.filter (·.key = k))
    whole.1.get? k = own.1.get? k ∧ resultsOf k rs whole.2 = own.2 := by
  intro whole own
  obtain ⟨hresults, hagree⟩ := (agreeOn_empty k mode).run rs
  exact ⟨hagree.get?, hresults⟩

end TraceTally.Tally
