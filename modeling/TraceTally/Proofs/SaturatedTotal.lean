import TraceTally.Proofs.Reordering

/-! The total duration of a tally. Each sum on the way is held within the range, so the order of the
entries can matter. It does exactly when durations of both signs are there and those of one sign
alone leave the range. -/
namespace TraceTally

namespace Duration

variable {a n : Int} {d : Int} {ds : List Int}

/-- The nearest number within the range. -/
def clamp (n : Int) : Int := max Int64.minValue.toInt (min n Int64.maxValue.toInt)

/-- Sums held within the range one after the other, from `a` on. -/
def saturate (a : Int) (ds : List Int) : Int := ds.foldl (fun s d => clamp (s + d)) a

/-- Once the exact sum from `a` on has left the range, it does not turn back. -/
def NeverTurns (a : Int) (ds : List Int) : Prop :=
  ∀ i, (Int64.maxValue.toInt < a + (ds.take i).sum → ∀ d ∈ ds.drop i, 0 ≤ d) ∧
    (a + (ds.take i).sum < Int64.minValue.toInt → ∀ d ∈ ds.drop i, d ≤ 0)

def gains (ds : List Int) : Int := (ds.filter (0 ≤ ·)).sum

def losses (ds : List Int) : Int := (ds.filter (· < 0)).sum

/-- All durations have one sign, or those of either sign stay in range by themselves. -/
def Balanced (ds : List Int) : Prop :=
  (∀ d ∈ ds, 0 ≤ d) ∨ (∀ d ∈ ds, d ≤ 0) ∨ (InRange (gains ds) ∧ InRange (losses ds))

instance (ds : List Int) : Decidable (Balanced ds) := inferInstanceAs (Decidable (_ ∨ _ ∨ _ ∧ _))

theorem clamp_eq (n : Int) : clamp n = max (-2 ^ 63) (min n (2 ^ 63 - 1)) := rfl

theorem inRange_clamp (n : Int) : InRange (clamp n) := by
  change -2 ^ 63 ≤ clamp n ∧ clamp n ≤ 2 ^ 63 - 1
  rw [clamp_eq]
  omega

theorem clamp_of_inRange (h : InRange n) : clamp n = n := by
  change -2 ^ 63 ≤ n ∧ n ≤ 2 ^ 63 - 1 at h
  rw [clamp_eq]
  omega

theorem toInt_addSaturating (a b : Int64) :
    (addSaturating a b).toInt = clamp (a.toInt + b.toInt) := by
  have hle : Int64.minValue.toInt ≤ Int64.maxValue.toInt := by decide
  unfold addSaturating Int64.ofIntClamp clamp
  split
  · split
    · rw [Int64.toInt_ofIntLE]
      omega
    · omega
  · omega

theorem saturate_append (a : Int) (xs ys : List Int) :
    saturate a (xs ++ ys) = saturate (saturate a xs) ys := List.foldl_append

/-- A sum that goes on in the direction in which it left the range can as well be held later. -/
theorem clamp_clamp_add (hhigh : Int64.maxValue.toInt < n → 0 ≤ d)
    (hlow : n < Int64.minValue.toInt → d ≤ 0) : clamp (clamp n + d) = clamp (n + d) := by
  change 2 ^ 63 - 1 < n → 0 ≤ d at hhigh
  change n < -2 ^ 63 → d ≤ 0 at hlow
  rw [clamp_eq, clamp_eq, clamp_eq]
  omega

theorem NeverTurns.of_snoc (h : NeverTurns a (ds ++ [d])) : NeverTurns a ds := by
  intro i
  obtain hi | hi := Nat.le_total i ds.length
  · have hi' := h i
    rw [List.take_append_of_le_length hi, List.drop_append_of_le_length hi] at hi'
    exact ⟨fun hout e he => hi'.1 hout e (by simp [he]), fun hout e he => hi'.2 hout e (by simp [he])⟩
  · simp [List.drop_eq_nil_of_le hi]

theorem saturate_of_neverTurns (ha : InRange a) (h : NeverTurns a ds) :
    saturate a ds = clamp (a + ds.sum) := by
  induction ds using List.reverseRecOn with
  | nil =>
    rw [List.sum_nil, Int.add_zero, clamp_of_inRange ha]
    rfl
  | append_singleton ds d ih =>
    have hlast := h ds.length
    rw [List.take_left, List.drop_left] at hlast
    have hstep : saturate a (ds ++ [d]) = clamp (saturate a ds + d) := saturate_append a ds [d]
    rw [hstep, ih h.of_snoc, clamp_clamp_add (fun ho => hlast.1 ho d (by simp))
      (fun ho => hlast.2 ho d (by simp))]
    simp [Int.add_assoc]

theorem neverTurns_of_nonneg (ha : InRange a) (h : ∀ d ∈ ds, 0 ≤ d) : NeverTurns a ds := by
  intro i
  have hsum : 0 ≤ (ds.take i).sum := List.sum_nonneg fun d hd => h d (List.mem_of_mem_take hd)
  refine ⟨fun _ d hd => h d (List.mem_of_mem_drop hd), fun hout => ?_⟩
  have := ha.1
  omega

theorem sum_nonpos (h : ∀ d ∈ ds, d ≤ 0) : ds.sum ≤ 0 := by
  simpa using List.sum_le_card_nsmul ds 0 h

theorem neverTurns_of_nonpos (ha : InRange a) (h : ∀ d ∈ ds, d ≤ 0) : NeverTurns a ds := by
  intro i
  have hsum : (ds.take i).sum ≤ 0 := sum_nonpos fun d hd => h d (List.mem_of_mem_take hd)
  refine ⟨fun hout => ?_, fun _ d hd => h d (List.mem_of_mem_drop hd)⟩
  have := ha.2
  omega

theorem gains_append (xs ys : List Int) : gains (xs ++ ys) = gains xs + gains ys := by
  simp [gains]

theorem losses_append (xs ys : List Int) : losses (xs ++ ys) = losses xs + losses ys := by
  simp [losses]

theorem nonneg_of_mem_gains (h : d ∈ ds.filter (0 ≤ ·)) : 0 ≤ d := by
  simpa using List.of_mem_filter h

theorem nonpos_of_mem_losses (h : d ∈ ds.filter (· < 0)) : d ≤ 0 := by
  have hd : d < 0 := by simpa using List.of_mem_filter h
  omega

theorem gains_nonneg (ds : List Int) : 0 ≤ gains ds :=
  List.sum_nonneg fun _ => nonneg_of_mem_gains

theorem losses_nonpos (ds : List Int) : losses ds ≤ 0 :=
  sum_nonpos fun _ => nonpos_of_mem_losses

theorem gains_add_losses (ds : List Int) : gains ds + losses ds = ds.sum := by
  have hperm := List.filter_append_perm (fun d : Int => decide (0 ≤ d)) ds
  have hneg : (fun d : Int => !decide (0 ≤ d)) = fun d => decide (d < 0) := by
    funext d
    simp [← decide_not]
  rw [hneg] at hperm
  rw [gains, losses, ← List.sum_append, hperm.sum_eq]

theorem neverTurns_of_balanced (h : Balanced ds) : NeverTurns 0 ds := by
  have hzero : InRange 0 := by decide
  rcases h with h | h | ⟨⟨-, hgains⟩, ⟨hlosses, -⟩⟩
  · exact neverTurns_of_nonneg hzero h
  · exact neverTurns_of_nonpos hzero h
  · intro i
    -- Every sum on the way lies between what is lost in all and what is gained in all.
    have hall := List.take_append_drop i ds
    rw [← hall, gains_append] at hgains
    rw [← hall, losses_append] at hlosses
    have hsum := gains_add_losses (ds.take i)
    have hg := gains_nonneg (ds.take i)
    have hl := losses_nonpos (ds.take i)
    have hg' := gains_nonneg (ds.drop i)
    have hl' := losses_nonpos (ds.drop i)
    exact ⟨fun hout => by omega, fun hout => by omega⟩

theorem Balanced.perm {ds' : List Int} (h : Balanced ds) (hp : ds'.Perm ds) : Balanced ds' := by
  rcases h with h | h | ⟨hgains, hlosses⟩
  · exact Or.inl fun d hd => h d (hp.mem_iff.mp hd)
  · exact Or.inr (Or.inl fun d hd => h d (hp.mem_iff.mp hd))
  · refine Or.inr (Or.inr ⟨?_, ?_⟩)
    · rwa [gains, (hp.filter _).sum_eq]
    · rwa [losses, (hp.filter _).sum_eq]

/-- Two stretches that each go one way are held once at the end of each. -/
theorem saturate_append_eq {xs ys : List Int} (hx : NeverTurns 0 xs)
    (hy : NeverTurns (clamp xs.sum) ys) :
    saturate 0 (xs ++ ys) = clamp (clamp xs.sum + ys.sum) := by
  rw [saturate_append, saturate_of_neverTurns (by decide) hx, Int.zero_add]
  exact saturate_of_neverTurns (inRange_clamp _) hy

theorem gains_pos (hd : d ∈ ds) (h : 0 < d) : 0 < gains ds := by
  have hmem : d ∈ ds.filter (0 ≤ ·) := by simp [hd, Int.le_of_lt h]
  have hle : d ≤ gains ds :=
    List.single_le_sum (fun _ => nonneg_of_mem_gains) d hmem
  omega

theorem losses_neg (hd : d ∈ ds) (h : d < 0) : losses ds < 0 := by
  obtain ⟨xs, ys, rfl⟩ := List.append_of_mem hd
  have hx := losses_nonpos xs
  have hy := losses_nonpos ys
  have hsplit : losses (xs ++ d :: ys) = losses xs + (d + losses ys) := by
    rw [losses_append]
    simp [losses, h]
  omega

/-- Without balance the two orders differ: what is lost at one end of the range is not lost at the
other. -/
theorem saturate_ne_of_not_balanced (h : ¬ Balanced ds) :
    saturate 0 (ds.filter (· < 0) ++ ds.filter (0 ≤ ·)) ≠
      saturate 0 (ds.filter (0 ≤ ·) ++ ds.filter (· < 0)) := by
  simp only [Balanced, not_or, not_forall, not_le] at h
  obtain ⟨⟨d, hd, hneg⟩, ⟨e, he, hpos⟩, hout⟩ := h
  have hlosses := losses_neg hd hneg
  have hgains := gains_pos he hpos
  have hfall : saturate 0 (ds.filter (0 ≤ ·) ++ ds.filter (· < 0)) =
      clamp (clamp (gains ds) + losses ds) :=
    saturate_append_eq (neverTurns_of_nonneg (by decide) fun _ => nonneg_of_mem_gains)
      (neverTurns_of_nonpos (inRange_clamp _) fun _ => nonpos_of_mem_losses)
  have hrise : saturate 0 (ds.filter (· < 0) ++ ds.filter (0 ≤ ·)) =
      clamp (clamp (losses ds) + gains ds) :=
    saturate_append_eq (neverTurns_of_nonpos (by decide) fun _ => nonpos_of_mem_losses)
      (neverTurns_of_nonneg (inRange_clamp _) fun _ => nonneg_of_mem_gains)
  rw [hrise, hfall]
  change ¬ ((-2 ^ 63 ≤ gains ds ∧ gains ds ≤ 2 ^ 63 - 1) ∧
    (-2 ^ 63 ≤ losses ds ∧ losses ds ≤ 2 ^ 63 - 1)) at hout
  simp only [clamp_eq]
  omega

end Duration

namespace Tally

open Duration (InRange clamp saturate NeverTurns Balanced)

variable {t t' : Tally}

/-- The durations of the entries, in order of first sight. -/
def times (t : Tally) : List Int := t.entries.toList.map (·.stats.duration.toInt)

theorem toInt_foldl_addSaturating (es : List Entry) (a : Int64) :
    (es.foldl (fun d e => Duration.addSaturating d e.stats.duration) a).toInt =
      saturate a.toInt (es.map (·.stats.duration.toInt)) := by
  induction es generalizing a with
  | nil => rfl
  | cons e es ih =>
    rw [List.foldl_cons, ih, Duration.toInt_addSaturating]
    rfl

theorem toInt_totals_duration (t : Tally) : t.totals.duration.toInt = saturate 0 t.times := by
  have hfold : t.totals.duration = t.entries.toList.foldl
      (fun d e => Duration.addSaturating d e.stats.duration) 0 := (Array.foldl_toList _).symm
  rw [hfold, toInt_foldl_addSaturating]
  rfl

theorem Reordered.times (h : Reordered t t') : t'.times.Perm t.times := h.entries.map _

theorem toInt_totals_of_neverTurns (h : NeverTurns 0 t.times) :
    t.totals.duration.toInt = clamp t.times.sum := by
  rw [toInt_totals_duration, Duration.saturate_of_neverTurns (by decide) h, Int.zero_add]

/-- Durations of one kind in front of those of the other. -/
theorem Keeps.exists_reordered_filter {ok : List Recording} (h : Keeps t ok) {p q : Int → Bool}
    (hq : ∀ d, q d = !p d) :
    ∃ t', Reordered t t' ∧ t'.times = t.times.filter p ++ t.times.filter q := by
  have hperm := List.filter_append_perm (fun e : Entry => p e.stats.duration.toInt) t.entries.toList
  obtain ⟨t', hreordered, hentries⟩ := h.exists_reordered hperm
  refine ⟨t', hreordered, ?_⟩
  rw [Tally.times, Tally.times, hentries, List.map_append, List.filter_map, List.filter_map]
  simp [Function.comp_def, hq]

/-- The total duration after any history is held within the range entry by entry. That is the exact
sum held within the range if the sum never turns back from outside, and it is so in every order of
the entries if the durations are balanced. If they are not, the order decides. -/
theorem totals_duration_saturates (mode : Mode) (rs : List Recording) :
    let t := ((empty mode).run rs).1
    t.totals.duration.toInt = saturate 0 t.times ∧
      (NeverTurns 0 t.times → t.totals.duration.toInt = clamp t.times.sum) ∧
      (Balanced t.times → ∀ t', Reordered t t' → t'.totals.duration.toInt = clamp t.times.sum) ∧
      (¬ Balanced t.times → ∃ t₁ t₂, Reordered t t₁ ∧ Reordered t t₂ ∧
        t₁.totals.duration ≠ t₂.totals.duration) := by
  intro t
  have hk := (keeps_empty mode).keeps_run rs
  refine ⟨toInt_totals_duration t, toInt_totals_of_neverTurns, ?_, ?_⟩
  · intro hb t' ht'
    have hb' := hb.perm ht'.times
    rw [toInt_totals_of_neverTurns (Duration.neverTurns_of_balanced hb'), ht'.times.sum_eq]
  · intro hb
    obtain ⟨t₁, ht₁, htimes₁⟩ :=
      hk.exists_reordered_filter (p := (· < 0)) (q := (0 ≤ ·)) (by simp [← decide_not])
    obtain ⟨t₂, ht₂, htimes₂⟩ :=
      hk.exists_reordered_filter (p := (0 ≤ ·)) (q := (· < 0)) (by simp [← decide_not])
    refine ⟨t₁, t₂, ht₁, ht₂, ?_⟩
    intro heq
    have htotals := congrArg Int64.toInt heq
    rw [toInt_totals_duration, toInt_totals_duration, htimes₁, htimes₂] at htotals
    exact Duration.saturate_ne_of_not_balanced hb htotals

/-- Two durations that together leave the range, and the same with a loss behind them. -/
theorem totals_duration_saturates_limits :
    let t := ((empty .paired).run [.timed "a" Int64.maxValue, .timed "b" 1]).1
    let u := ((empty .paired).run [.timed "a" Int64.maxValue, .timed "b" 1, .timed "c" (-1)]).1
    NeverTurns 0 t.times ∧ t.totals.duration.toInt = 2 ^ 63 - 1 ∧
      Balanced t.times ∧ (∀ t', Reordered t t' → t'.totals.duration.toInt = 2 ^ 63 - 1) ∧
      Reordered t t ∧ ¬ Balanced u.times ∧
      ∃ t₁ t₂, Reordered u t₁ ∧ Reordered u t₂ ∧ t₁.totals.duration ≠ t₂.totals.duration := by
  intro t u
  obtain ⟨-, hturns, hbalanced, -⟩ :=
    totals_duration_saturates .paired [.timed "a" Int64.maxValue, .timed "b" 1]
  obtain ⟨-, -, -, hunbalanced⟩ :=
    totals_duration_saturates .paired [.timed "a" Int64.maxValue, .timed "b" 1, .timed "c" (-1)]
  have hb : Balanced t.times := by decide +kernel
  have hu : ¬ Balanced u.times := by decide +kernel
  have hn := Duration.neverTurns_of_balanced hb
  have hsum : clamp t.times.sum = 2 ^ 63 - 1 := by decide +kernel
  have hself : Reordered t t := ⟨⟨_, rfl⟩, .refl _⟩
  exact ⟨hn, (hturns hn).trans hsum, hb, fun t' ht' => (hbalanced hb t' ht').trans hsum, hself, hu,
    hunbalanced hu⟩

/-- The greatest duration, one more, and one less: the exact sum is in range, and the total comes out
below it, but not if the loss is seen first. -/
theorem totals_duration_ne_clamp_sum :
    let t := ((empty .paired).run [.timed "a" Int64.maxValue, .timed "b" 1, .timed "c" (-1)]).1
    let t' := ((empty .paired).run [.timed "c" (-1), .timed "a" Int64.maxValue, .timed "b" 1]).1
    t.totals.duration.toInt = 2 ^ 63 - 2 ∧ clamp t.times.sum = 2 ^ 63 - 1 ∧
      t'.entries.toList.Perm t.entries.toList ∧ t'.totals.duration ≠ t.totals.duration := by
  decide +kernel

end Tally

end TraceTally
