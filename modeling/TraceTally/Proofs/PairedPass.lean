import TraceTally.Proofs.History
import TraceTally.Tally.Pass

/-! The pass over keys and durations in turn: which pair ends it, with which error, and what it
gives when none does. -/
namespace TraceTally.Tally

open Recording

variable {t : Tally} {ls : List String} {key value : String} {i n : Nat} {e e' : Error}

/-- The recordings that pairs of lines ask for. A duration that cannot be read stands for none. -/
def pairRecordings : List String → List Recording
  | [] | [_] => []
  | key :: value :: rest =>
    .timed key ((Duration.parse value).toOption.getD 0) :: pairRecordings rest

/-- What is wrong with pair `i`: its duration cannot be read, or takes the exact sum of what the
pairs before it bring for the same key out of range. -/
inductive PairFault (ls : List String) (i : Nat) : Error → Prop
  | unreadable {value : String} {cause : Duration.Fault} (hv : ls[2 * i + 1]? = some value)
      (hd : Duration.parse value = .error cause) :
      PairFault ls i (.invalidDuration (2 * i + 2) value cause)
  | overflow {key value : String} {d : Int64} (hk : ls[2 * i]? = some key)
      (hv : ls[2 * i + 1]? = some value) (hd : Duration.parse value = .ok d)
      (hr : ¬ Duration.InRange (time key ((pairRecordings ls).take i) + d.toInt)) :
      PairFault ls i (.durationOverflow key)

/-- Pair `i` is the first with a fault. -/
def FirstFault (ls : List String) (i : Nat) (e : Error) : Prop :=
  PairFault ls i e ∧ ∀ j < i, ∀ e', ¬ PairFault ls j e'

theorem PairFault.unique (h : PairFault ls i e) (h' : PairFault ls i e') : e = e' := by
  cases h <;> cases h' <;> simp_all

theorem FirstFault.unique {j : Nat} (h : FirstFault ls i e) (h' : FirstFault ls j e') : e = e' := by
  obtain hij | rfl | hij := Nat.lt_trichotomy i j
  · exact (h'.2 i hij e h.1).elim
  · exact h.1.unique h'.1
  · exact (h.2 j hij e' h'.1).elim

theorem length_pairRecordings (ls : List String) : (pairRecordings ls).length = ls.length / 2 := by
  induction ls using pairRecordings.induct with
  | case1 => rfl
  | case2 => simp [pairRecordings]
  | case3 key value rest ih =>
    simp only [pairRecordings, List.length_cons, ih]
    omega

theorem pairRecordings_getElem? (hk : ls[2 * i]? = some key) (hv : ls[2 * i + 1]? = some value) :
    (pairRecordings ls)[i]? = some (.timed key ((Duration.parse value).toOption.getD 0)) := by
  induction ls using pairRecordings.induct generalizing i with
  | case1 => simp at hk
  | case2 => simp at hv
  | case3 key' value' rest ih =>
    cases i with
    | zero =>
      simp at hk hv
      simp [pairRecordings, hk, hv]
    | succ i =>
      rw [pairRecordings, List.getElem?_cons_succ]
      exact ih hk hv

theorem pairRecordings_take_succ (hk : ls[2 * i]? = some key) (hv : ls[2 * i + 1]? = some value) :
    (pairRecordings ls).take (i + 1) =
      (pairRecordings ls).take i ++ [.timed key ((Duration.parse value).toOption.getD 0)] := by
  rw [List.take_add_one, pairRecordings_getElem? hk hv]
  rfl

/-- A pair lies within the lines. -/
theorem PairFault.lt (h : PairFault ls i e) : 2 * i + 1 < ls.length := by
  cases h with
  | unreadable hv => exact (List.getElem?_eq_some_iff.mp hv).1
  | overflow _ hv => exact (List.getElem?_eq_some_iff.mp hv).1

theorem not_pairFault_of_fits {d : Int64} (hk : ls[2 * n]? = some key)
    (hv : ls[2 * n + 1]? = some value) (hd : Duration.parse value = .ok d)
    (hr : Fits ((pairRecordings ls).take n) (.timed key d)) (e : Error) : ¬ PairFault ls n e := by
  intro he
  cases he with
  | unreadable hv' hd' => simp_all
  | overflow hk' hv' hd' hr' =>
    obtain rfl : key = _ := Option.some.inj (hk.symm.trans hk')
    obtain rfl : value = _ := Option.some.inj (hv.symm.trans hv')
    obtain rfl : d = _ := Except.ok.inj (hd.symm.trans hd')
    exact hr' hr

theorem not_pairFault_of_length (hn : ∀ j < n, ∀ e, ¬ PairFault ls j e)
    (hlen : ls.length < 2 * n + 2) (i : Nat) (e : Error) : ¬ PairFault ls i e := by
  intro he
  have := he.lt
  exact hn i (by omega) e he

theorem pairRecordings_take_of_length (hlen : ls.length < 2 * n + 2) :
    (pairRecordings ls).take n = pairRecordings ls := by
  apply List.take_of_length_le
  rw [length_pairRecordings]
  omega

/-- One step of the pass is one timed recording. -/
theorem addPairs_of_ok {d : Int64} (hd : Duration.parse value = .ok d)
    (hok : (t.apply (.timed key d)).2 = .ok ()) (line : Nat) (rest : List String) :
    t.addPairs line (key :: value :: rest) =
      (t.apply (.timed key d)).1.addPairs (line + 2) rest := by
  rw [apply] at hok ⊢
  simp only [addPairs, hd]
  generalize t.recordTimed key d = result at hok ⊢
  obtain ⟨t', result⟩ := result
  subst hok
  rfl

/-- The pass from pair `n` on, when the pairs before it have no fault and are in the tally. -/
theorem Keeps.addPairs_cases (h : Keeps t ((pairRecordings ls).take n))
    (hn : ∀ j < n, ∀ e, ¬ PairFault ls j e) :
    (∃ i e, FirstFault ls i e ∧ t.addPairs (2 * n + 1) (ls.drop (2 * n)) = .error e) ∨
      (∀ i e, ¬ PairFault ls i e) ∧ ∃ t', t.addPairs (2 * n + 1) (ls.drop (2 * n)) = .ok t' ∧
        t'.mode = t.mode ∧ Keeps t' (pairRecordings ls) := by
  generalize hrest : ls.drop (2 * n) = rest
  induction rest using pairRecordings.induct generalizing n t with
  | case1 =>
    have hlen : ls.length ≤ 2 * n := List.drop_eq_nil_iff.mp hrest
    rw [pairRecordings_take_of_length (by omega)] at h
    exact Or.inr ⟨not_pairFault_of_length hn (by omega), t, rfl, rfl, h⟩
  | case2 line =>
    have hlen : ls.length - 2 * n = 1 := by simpa using congrArg List.length hrest
    rw [pairRecordings_take_of_length (by omega)] at h
    exact Or.inr ⟨not_pairFault_of_length hn (by omega), t, by simp [addPairs], rfl, h⟩
  | case3 key value rest ih =>
    have hk : ls[2 * n]? = some key := by
      rw [← List.head?_drop, hrest]
      rfl
    have hv : ls[2 * n + 1]? = some value := by
      rw [← List.getElem?_drop, hrest]
      rfl
    have hnext : ls.drop (2 * (n + 1)) = rest := by
      rw [Nat.mul_add, ← List.drop_drop, hrest]
      rfl
    cases hd : Duration.parse value with
    | error cause =>
      refine Or.inl ⟨n, _, ⟨.unreadable hv hd, hn⟩, ?_⟩
      simp [addPairs, hd]
    | ok d =>
      by_cases hr : Fits ((pairRecordings ls).take n) (.timed key d)
      · obtain ⟨hok, hkeeps⟩ := h.apply_of_fits hr
        have hn' : ∀ j < n + 1, ∀ e, ¬ PairFault ls j e := by
          intro j hj
          obtain hj | rfl := Nat.lt_succ_iff_lt_or_eq.mp hj
          · exact hn j hj
          · exact not_pairFault_of_fits hk hv hd hr
        have htake : (pairRecordings ls).take (n + 1) =
            (pairRecordings ls).take n ++ [.timed key d] := by
          rw [pairRecordings_take_succ hk hv, hd]
          rfl
        rw [← htake] at hkeeps
        rw [addPairs_of_ok hd hok, ← mode_apply t (.timed key d)]
        exact ih hkeeps hn' hnext
      · have hrefused := h.apply_of_not_fits hr
        refine Or.inl ⟨n, _, ⟨.overflow hk hv hd hr, hn⟩, ?_⟩
        rw [apply] at hrefused
        simp [addPairs, hd, hrefused, Recording.key]

theorem ofPairedLines_cases (h : ls.length % 2 = 0) :
    (∃ i e, FirstFault ls i e ∧ ofPairedLines ls = .error e) ∨
      (∀ i e, ¬ PairFault ls i e) ∧
        ∃ t, ofPairedLines ls = .ok t ∧ t.mode = .paired ∧ Keeps t (pairRecordings ls) := by
  have hpass : ofPairedLines ls = (empty .paired).addPairs 1 ls := by simp [ofPairedLines, h]
  rw [hpass]
  exact Keeps.addPairs_cases (n := 0) (keeps_empty .paired) (by simp)

/-- The whole pass. An odd number of lines is refused whatever they hold; otherwise the first pair
with a fault decides the error, and without one the tally holds what all pairs come to. -/
theorem ofPairedLines_outcome (ls : List String) :
    (ls.length % 2 = 1 → ofPairedLines ls = .error (.oddLineCount ls.length)) ∧
      (ls.length % 2 = 0 →
        (∀ i e, FirstFault ls i e → ofPairedLines ls = .error e) ∧
        ((∀ i e, ¬ PairFault ls i e) → ∃ t, ofPairedLines ls = .ok t ∧ t.mode = .paired ∧
          t.Reports ((ledger (pairRecordings ls)).map Account.wrap) ∧
          (ls.length < 2 ^ 64 → t.Reports (ledger (pairRecordings ls))))) := by
  refine ⟨fun hodd => by simp [ofPairedLines, hodd], fun heven => ?_⟩
  obtain ⟨i, e, hfirst, herror⟩ | ⟨hnone, t, hok, hmode, hk⟩ := ofPairedLines_cases heven
  · refine ⟨?_, fun hnone => (hnone i e hfirst.1).elim⟩
    intro j e' h
    rw [h.unique hfirst, herror]
  · refine ⟨fun i e h => (hnone i e h.1).elim, fun _ => ⟨t, hok, hmode, hk.reports, ?_⟩⟩
    intro hl
    apply hk.reports_exact
    rw [length_pairRecordings]
    omega

/-- A sum out of range in the third pair comes before an unreadable duration in the fourth. -/
theorem ofPairedLines_outcome_overflow :
    let ls := ["a", " 9_223_372_036_854_775_807", "b", "-2", "a", "+1", "c", "x"]
    ls.length % 2 = 0 ∧ FirstFault ls 2 (.durationOverflow "a") ∧
      ofPairedLines ls = .error (.durationOverflow "a") := by
  intro ls
  have heven : ls.length % 2 = 0 := by decide
  have hfault : FirstFault ls 2 (.durationOverflow "a") := by
    refine ⟨.overflow rfl rfl rfl (by decide +kernel), ?_⟩
    intro j hj
    match j, hj with
    | 0, _ => exact not_pairFault_of_fits rfl rfl rfl (by decide +kernel)
    | 1, _ => exact not_pairFault_of_fits rfl rfl rfl (by decide +kernel)
  exact ⟨heven, hfault, ((ofPairedLines_outcome ls).2 heven).1 2 _ hfault⟩

end TraceTally.Tally
