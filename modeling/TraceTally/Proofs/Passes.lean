import TraceTally.Proofs.PairedPass
import TraceTally.Tally.Totals

/-! What a pass over lines leaves behind: the tally of the recordings that the lines ask for, with
keys that are lines and totals over all of them. -/
namespace TraceTally.Tally

open Recording

variable {t : Tally} {ok : List Recording} {ls : List String} {k : String}

theorem Keeps.record (h : Keeps t ok) (k : String) : Keeps (t.record k) (ok ++ [.plain k]) := by
  have hr : Fits ok (.plain k) := by simpa [Fits, duration, key] using h.inRange k
  exact (h.apply_of_fits hr).2

theorem Keeps.foldl_record (h : Keeps t ok) (ls : List String) :
    Keeps (ls.foldl Tally.record t) (ok ++ ls.map .plain) := by
  induction ls generalizing t ok with
  | nil => simpa using h
  | cons l ls ih => simpa using ih (h.record l)

/-- A pass over keys records each line. -/
theorem keeps_ofLines (ls : List String) : Keeps (ofLines ls) (ls.map .plain) := by
  simpa [ofLines] using (keeps_empty .single).foldl_record ls

theorem mode_ofLines (ls : List String) : (ofLines ls).mode = .single := by
  have hmode : ∀ t : Tally, (ls.foldl Tally.record t).mode = t.mode := by
    induction ls with
    | nil => exact fun t => rfl
    | cons l ls ih => exact fun t => (ih _).trans (mode_apply t (.plain l))
  exact hmode _

/-- A pass over pairs that is not refused met no fault and recorded each pair. -/
theorem ofPairedLines_eq_ok (h : ofPairedLines ls = .ok t) :
    ls.length % 2 = 0 ∧ (∀ i e, ¬ PairFault ls i e) ∧ t.mode = .paired ∧
      Keeps t (pairRecordings ls) := by
  have heven : ls.length % 2 = 0 := by
    by_contra hodd
    have hodd : ls.length % 2 = 1 := by omega
    simp [ofPairedLines, hodd] at h
  obtain ⟨i, e, -, he⟩ | ⟨hnone, t', ht', hmode, hk⟩ := ofPairedLines_cases heven
  · simp [h] at he
  · obtain rfl : t = t' := Except.ok.inj (h.symm.trans ht')
    exact ⟨heven, hnone, hmode, hk⟩

theorem exists_of_isOk {result : Except Error Tally} (h : result.isOk = true) :
    ∃ t, result = .ok t := by
  cases result with
  | ok t => exact ⟨t, rfl⟩
  | error e => cases h

theorem keeps_ofPairedLines (h : ofPairedLines ls = .ok t) :
    Keeps t (pairRecordings ls) ∧ t.mode = .paired := by
  obtain ⟨-, -, hmode, hk⟩ := ofPairedLines_eq_ok h
  exact ⟨hk, hmode⟩

/-- Keys and durations as they stand on the lines. A line left over is in no pair. -/
def linePairs : List String → List (String × String)
  | key :: value :: rest => (key, value) :: linePairs rest
  | _ => []

/-- The lines that hold keys: the first, the third and so on. -/
def keyLines (ls : List String) : List String := (linePairs ls).map (·.1)

def durationLines (ls : List String) : List String := (linePairs ls).map (·.2)

theorem getElem?_linePairs {i : Nat} {key value : String} :
    (linePairs ls)[i]? = some (key, value) ↔
      ls[2 * i]? = some key ∧ ls[2 * i + 1]? = some value := by
  fun_induction linePairs ls generalizing i with
  | case1 key' value' rest ih =>
    cases i with
    | zero => simp
    | succ i => exact ih
  | case2 ls hshort =>
    -- No pair is left, so there is at most one line.
    match ls, hshort with
    | [], _ => simp
    | [_], _ => simp
    | key' :: value' :: rest, hshort => exact (hshort key' value' rest rfl).elim

theorem pairRecordings_eq_map (ls : List String) : pairRecordings ls =
    (linePairs ls).map fun p => .timed p.1 ((Duration.parse p.2).toOption.getD 0) := by
  induction ls using pairRecordings.induct with
  | case1 => rfl
  | case2 => rfl
  | case3 key value rest ih => simp [pairRecordings, linePairs, ih]

theorem map_key_plain (ls : List String) : (ls.map Recording.plain).map key = ls := by
  rw [List.map_map]
  exact List.map_id'' (fun _ => rfl) ls

theorem map_key_pairRecordings (ls : List String) : (pairRecordings ls).map key = keyLines ls := by
  rw [pairRecordings_eq_map, List.map_map]
  rfl

theorem length_keyLines (ls : List String) : (keyLines ls).length = ls.length / 2 := by
  rw [← map_key_pairRecordings, List.length_map, length_pairRecordings]

theorem getElem?_keyLines (heven : ls.length % 2 = 0) (i : Nat) :
    (keyLines ls)[i]? = ls[2 * i]? := by
  cases hp : (linePairs ls)[i]? with
  | some p =>
    rw [keyLines, List.getElem?_map, hp, (getElem?_linePairs.mp hp).1]
    rfl
  | none =>
    have hkeys : (keyLines ls)[i]? = none := by rw [keyLines, List.getElem?_map, hp, Option.map_none]
    have hlen := length_keyLines ls
    rw [hkeys, eq_comm, List.getElem?_eq_none_iff]
    rw [List.getElem?_eq_none_iff] at hkeys
    omega

theorem key_mem_of_mem_pairRecordings {r : Recording} (h : r ∈ pairRecordings ls) :
    r.key ∈ ls := by
  rw [pairRecordings_eq_map] at h
  obtain ⟨p, hp, rfl⟩ := List.mem_map.mp h
  obtain ⟨i, hi⟩ := List.mem_iff_getElem?.mp hp
  exact List.mem_of_getElem? (getElem?_linePairs.mp hi).1

theorem mem_of_mem_keys_ofLines (h : k ∈ (ofLines ls).keys) : k ∈ ls := by
  rw [(keeps_ofLines ls).keys, mem_firstKeys] at h
  obtain ⟨r, hr, rfl⟩ := h
  obtain ⟨l, hl, rfl⟩ := List.mem_map.mp hr
  exact hl

theorem mem_of_mem_keys_ofPairedLines (h : ofPairedLines ls = .ok t) (hk : k ∈ t.keys) :
    k ∈ ls := by
  rw [(keeps_ofPairedLines h).1.keys, mem_firstKeys] at hk
  obtain ⟨r, hr, rfl⟩ := hk
  exact key_mem_of_mem_pairRecordings hr

theorem size_eq (h : Keeps t ok) : t.size = (firstKeys ok).length := by
  rw [← h.keys, length_keys]
  rfl

theorem sum_counts (h : Keeps t ok) (hl : ok.length < 2 ^ 64) :
    (t.entries.toList.map fun e => e.stats.count.toNat).sum = ok.length := by
  have hcounts : (t.entries.toList.map fun e => e.stats.count.toNat) =
      (firstKeys ok).map fun k => occurrences k ok := by
    have hentries := congrArg (List.map Account.count) (h.reports_exact hl).entries
    simpa [ledger, Entry.account, Function.comp_def] using hentries
  rw [hcounts, sum_occurrences]

theorem foldl_count (es : List Entry) (n : UInt64) :
    es.foldl (fun n e => n + e.stats.count) n =
      n + UInt64.ofNat (es.map fun e => e.stats.count.toNat).sum := by
  induction es generalizing n with
  | nil => simp
  | cons e es ih =>
    rw [List.foldl_cons, ih, List.map_cons, List.sum_cons, UInt64.ofNat_add, UInt64.ofNat_toNat,
      UInt64.add_assoc]

/-- The total count is the sum of the counts, held in a word. -/
theorem totals_count (t : Tally) : t.totals.count =
    UInt64.ofNat (t.entries.toList.map fun e => e.stats.count.toNat).sum := by
  rw [totals, ← Array.foldl_toList, foldl_count, UInt64.zero_add]

end TraceTally.Tally
