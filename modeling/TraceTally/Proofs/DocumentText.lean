import TraceTally.Proofs.History
import TraceTally.Proofs.JsonValue
import TraceTally.Report.Document

/-! Documents, written and read again. -/
namespace TraceTally

namespace Json

variable {σ : Type}

theorem toUInt64?_ofUInt64 (n : UInt64) : (ofUInt64 n : Json σ).toUInt64? = some n := by
  rw [ofUInt64, toUInt64?, if_pos n.toNat_lt, UInt64.ofNat_toNat]

/-- The sign and the magnitude of a word give it back, the smallest word included. -/
theorem toInt64?_ofInt64 (d : Int64) : (ofInt64 d : Json σ).toInt64? = some d := by
  have hmin := d.minValue_le_toInt
  have hmax := d.toInt_le
  by_cases hd : d < 0
  · have hneg : d.toInt < 0 := Int64.lt_iff_toInt_lt.mp hd
    have habs : -(d.toInt.natAbs : Int) = d.toInt := by omega
    have hne : d.toInt.natAbs ≠ 0 := by omega
    rw [ofInt64, decide_eq_true hd, toInt64?, habs, if_pos ⟨hne, hmin⟩, Int64.ofInt_toInt]
  · have hpos : 0 ≤ d.toInt := Int.not_lt.mp fun h => hd (Int64.lt_iff_toInt_lt.mpr h)
    have habs : (d.toInt.natAbs : Int) = d.toInt := by omega
    rw [ofInt64, decide_eq_false hd, toInt64?, habs, if_pos hmax, Int64.ofInt_toInt]

end Json

namespace Report.Document

theorem mode?_modeName (mode : Mode) : mode? (modeName mode) = some mode := by
  cases mode <;> rfl

theorem durationOfJson?_map (d : Option Int64) : durationOfJson? (d.map Json.ofInt64) = some d := by
  cases d with
  | none => rfl
  | some d =>
    change (Json.toInt64? (Json.ofInt64 d)).map some = _
    rw [Json.toInt64?_ofInt64]
    rfl

/-- Two fields are there, and a third one if there is a duration. -/
theorem fields?_durationField {a b c : String} (hab : a ≠ b) (hac : a ≠ c) (hbc : b ≠ c)
    (x y : Json String) (d : Option Int64) :
    (Json.object ([(a, x), (b, y)] ++ durationField c d)).asRead.fields? [a, b, c] =
      some [some x.asRead, some y.asRead, d.map Json.ofInt64] := by
  cases d with
  | none =>
    simp [durationField, Json.asRead, Json.fieldsAsRead_eq, Json.fields?, hab, hac, hbc, hab.symm]
  | some d =>
    simp [durationField, Json.asRead, Json.fieldsAsRead_eq, Json.fields?, hab, hac, hbc, hab.symm,
      hac.symm, hbc.symm]
    rfl

theorem toUInt64?_asRead (n : UInt64) : (Json.ofUInt64 n).asRead.toUInt64? = some n :=
  Json.toUInt64?_ofUInt64 n

theorem textOfJson?_asRead (s : String) : textOfJson? (Json.string s).asRead = some s := by
  simp [Json.asRead, textOfJson?]

theorem entryOfJson?_entryToJson (e : DocumentEntry) :
    entryOfJson? (entryToJson e).asRead = some e := by
  rw [entryOfJson?, entryToJson, fields?_durationField (by decide) (by decide) (by decide)]
  simp [textOfJson?_asRead, toUInt64?_asRead, durationOfJson?_map]

theorem summaryOfJson?_summaryToJson (s : DocumentSummary) :
    summaryOfJson? (summaryToJson s).asRead = some s := by
  rw [summaryOfJson?, summaryToJson, fields?_durationField (by decide) (by decide) (by decide)]
  simp [toUInt64?_asRead, durationOfJson?_map]

theorem modeOfJson?_asRead (mode : Mode) :
    modeOfJson? (Json.string (modeName mode)).asRead = some mode := by
  simp [Json.asRead, modeOfJson?, mode?_modeName]

theorem entriesOfJson?_asRead (es : List DocumentEntry) :
    entriesOfJson? (Json.array (es.map entryToJson)).asRead = some es := by
  rw [Json.asRead, Json.itemsAsRead_eq, entriesOfJson?]
  induction es with
  | nil => rfl
  | cons e es ih =>
    rw [List.map_cons, List.map_cons, List.mapM_cons, entryOfJson?_entryToJson, ih]
    rfl

theorem ofJson?_toJson (d : Document) : ofJson? d.toJson.asRead = some d := by
  have hfields : d.toJson.asRead.fields? ["version", "format", "mode", "entries", "summary"] =
      some [some (Json.string d.version).asRead, some (Json.string d.format).asRead,
        some (Json.string (modeName d.mode)).asRead,
        some (Json.array (d.entries.map entryToJson)).asRead,
        some (summaryToJson d.summary).asRead] := by
    simp [toJson, Json.asRead, Json.fieldsAsRead_eq, Json.fields?]
  rw [ofJson?, hfields]
  simp [textOfJson?_asRead, modeOfJson?_asRead, entriesOfJson?_asRead,
    summaryOfJson?_summaryToJson]

theorem parse?_render (d : Document) : parse? d.render = some d := by
  rw [parse?, render, Json.parse?_pretty]
  exact ofJson?_toJson d

/-- The document shows the tally: durations and their total in paired mode, none otherwise. -/
structure Shows (d : Document) (t : Tally) : Prop where
  mode : d.mode = t.mode
  keys : d.entries.map (·.key) = t.keys
  counts : d.entries.map (·.count) = t.entries.toList.map (·.stats.count)
  durations : d.entries.map (·.duration) =
    t.entries.toList.map fun e => if t.mode = .paired then some e.stats.duration else none
  total : d.summary.totalDuration = if t.mode = .paired then some t.totals.duration else none

theorem shows_ofTally (t : Tally) : (ofTally t).Shows t := by
  refine ⟨rfl, by simp [ofTally, Tally.keys], by simp [ofTally], ?_, ?_⟩
  · simp only [ofTally, List.map_map]
    apply List.map_congr_left
    intro e _
    cases t.mode <;> simp
  · cases hm : t.mode <;> simp [ofTally, hm]

/-- Every document is read back from its text, so one that was read has only one text. The document
of a tally gives back what the tally holds, its keys in the order of first sight. -/
theorem render_round_trip :
    (∀ d : Document, parse? d.render = some d) ∧
      (∀ (s : String) (d : Document), parse? s = some d →
        ∃ d', parse? d.render = some d' ∧ d'.render = d.render) ∧
      ∀ (mode : Mode) (rs : List Recording),
        let t := ((Tally.empty mode).run rs).1
        let ok := Tally.accepted rs ((Tally.empty mode).run rs).2
        ∃ d, parse? (ofTally t).render = some d ∧ d.Shows t ∧ t.mode = mode ∧
          t.keys = Recording.firstKeys ok := by
  refine ⟨parse?_render, ?_, ?_⟩
  · intro s d _
    exact ⟨d, parse?_render d, rfl⟩
  · intro mode rs t ok
    have hk := (Tally.keeps_empty mode).keeps_run rs
    exact ⟨ofTally t, parse?_render _, shows_ofTally t, Tally.mode_run _ rs, hk.keys⟩

/-- A text in another layout, with escapes that printing does not use. -/
theorem render_round_trip_compact :
    let s :=
      "[\"\",\"\\u00e9\\n\",\"paired\",[[\"\\ud83d\\ude00\",1,-9223372036854775808]],[0,2,null]]"
    let d : Document := ⟨"", "é\n", .paired, [⟨"😀", 1, some Int64.minValue⟩], ⟨0, 2, none⟩⟩
    parse? s = some d ∧ ∃ d', parse? d.render = some d' ∧ d'.render = d.render := by
  intro s d
  have hs : parse? s = some d := by decide +kernel
  exact ⟨hs, render_round_trip.2.1 s d hs⟩

end Report.Document

end TraceTally
