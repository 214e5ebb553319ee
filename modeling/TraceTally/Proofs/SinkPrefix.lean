import TraceTally.Output
import TraceTally.Proofs.Reordering

/-! Output to a sink that fills up. In whatever pieces the lines reach it and however little it takes
at a time, it ends with the first bytes of the whole text and fails exactly when there are more. -/
namespace TraceTally

namespace Text

theorem bytes_append (a b : String) : bytes (a ++ b) = bytes a ++ bytes b := by
  simp [bytes]

theorem unlines_cons (l : String) (ls : List String) :
    unlines (l :: ls) = l ++ "\n" ++ unlines ls := by
  simp [unlines]

end Text

variable {ε : Type}

namespace Sink

variable {s : Sink ε} {a b bytes : List UInt8}

/-- The sink when bytes were offered as a whole: it holds what there was room for. -/
def fill (s : Sink ε) (bytes : List UInt8) : Sink ε :=
  { s with room := s.room - bytes.length, taken := s.taken ++ bytes.take s.room }

/-- A failure if there is not room for all. -/
def verdict (s : Sink ε) (bytes : List UInt8) : Except ε Unit :=
  if bytes.length ≤ s.room then .ok () else .error s.fault

theorem fill_fill (s : Sink ε) (a b : List UInt8) : (s.fill a).fill b = s.fill (a ++ b) := by
  simp only [fill, List.length_append, List.take_append, List.append_assoc, Nat.sub_sub]

theorem fill_of_no_room (h : s.room = 0) (bytes : List UInt8) : s.fill bytes = s := by
  obtain ⟨room, fault, portion, taken⟩ := s
  obtain rfl : room = 0 := h
  simp [fill]

theorem fill_append_of_full (h : s.room < a.length) (b : List UInt8) :
    s.fill (a ++ b) = s.fill a := by
  have hnone : s.room - a.length = 0 := by omega
  have hless : s.room - (a.length + b.length) = 0 := by omega
  simp [fill, List.take_append, hnone, hless]

theorem verdict_of_fits (h : bytes.length ≤ s.room) : s.verdict bytes = .ok () := if_pos h

theorem verdict_of_full (h : s.room < bytes.length) : s.verdict bytes = .error s.fault :=
  if_neg (Nat.not_le.mpr h)

theorem verdict_append_of_fits (h : a.length ≤ s.room) (b : List UInt8) :
    (s.fill a).verdict b = s.verdict (a ++ b) := by
  have hiff : b.length ≤ s.room - a.length ↔ a.length + b.length ≤ s.room := by omega
  simp only [verdict, fill, List.length_append, hiff]

/-- Where the bytes are cut does not matter: what comes behind the first failure would not have been
taken. -/
theorem andThen_fill (s : Sink ε) (a b : List UInt8) :
    andThen (s.fill a, s.verdict a) (fun s => (s.fill b, s.verdict b)) =
      (s.fill (a ++ b), s.verdict (a ++ b)) := by
  by_cases h : a.length ≤ s.room
  · rw [verdict_of_fits h, ← fill_fill, ← verdict_append_of_fits h]
    rfl
  · have hfull : s.room < a.length := Nat.not_le.mp h
    have hlonger : s.room < (a ++ b).length := by
      rw [List.length_append]
      omega
    rw [verdict_of_full hfull, verdict_of_full hlonger, fill_append_of_full hfull]
    rfl

theorem share_bounds (hne : bytes ≠ []) (hroom : s.room ≠ 0) :
    1 ≤ s.share bytes ∧ s.share bytes ≤ s.room ∧ s.share bytes ≤ bytes.length := by
  have hpos : 0 < bytes.length := List.length_pos_of_ne_nil hne
  unfold share
  omega

/-- One call takes the first bytes of those offered. -/
theorem take_eq_fill {n : Nat} (hroom : n ≤ s.room) (hlen : n ≤ bytes.length) :
    s.take n bytes = s.fill (bytes.take n) := by
  have htake : (bytes.take n).take s.room = bytes.take n := by
    rw [List.take_take, Nat.min_eq_right hroom]
  simp [take, fill, htake, Nat.min_eq_left hlen]

/-- However little is taken at a time, in the end it is all, or all that there is room for. -/
theorem write_eq (s : Sink ε) (bytes : List UInt8) :
    s.write bytes = (s.fill bytes, s.verdict bytes) := by
  fun_induction write s bytes with
  | case1 s bytes hempty =>
    obtain rfl : bytes = [] := List.isEmpty_iff.mp hempty
    simp [fill, verdict]
  | case2 s bytes hne hroom =>
    have hpos : 0 < bytes.length := List.length_pos_of_ne_nil (by simpa using hne)
    rw [verdict_of_full (by omega), fill_of_no_room hroom]
  | case3 s bytes hne hroom ih =>
    obtain ⟨-, hle, hlen⟩ := share_bounds (s := s) (by simpa using hne) hroom
    have hfits : (bytes.take (s.share bytes)).length ≤ s.room := by
      rw [List.length_take]
      omega
    have hall := andThen_fill s (bytes.take (s.share bytes)) (bytes.drop (s.share bytes))
    rw [verdict_of_fits hfits, List.take_append_drop] at hall
    rw [ih, take_eq_fill hle hlen]
    exact hall

theorem writePieces_eq (s : Sink ε) (ps : List String) :
    s.writePieces ps =
      (s.fill (Text.bytes (String.join ps)), s.verdict (Text.bytes (String.join ps))) := by
  induction ps generalizing s with
  | nil => simp [writePieces, fill, verdict, Text.bytes]
  | cons p ps ih =>
    simp only [writePieces, ih, write_eq, andThen_fill, String.join_cons, Text.bytes_append]

/-- Lines in pieces come to the same as their text in one. -/
theorem writeLines_eq (s : Sink ε) (cut : Cut) (i : Nat) (ls : List String) :
    s.writeLines cut i ls =
      (s.fill (Text.bytes (Text.unlines ls)), s.verdict (Text.bytes (Text.unlines ls))) := by
  induction ls generalizing s i with
  | nil => simp [writeLines, fill, verdict, Text.bytes, Text.unlines]
  | cons l ls ih =>
    simp only [writeLines, ih, writePieces_eq, cut.join_pieces, andThen_fill, Text.unlines_cons,
      Text.bytes_append]

/-- A text was written to a sink that had room for `limit` bytes: the first of its bytes are there, as
many as that, and there was a failure exactly if they are not all. -/
structure HoldsPrefix (s : Sink ε) (limit : Nat) (fault : ε) (text : String)
    (result : Except ε Unit) : Prop where
  taken : s.taken = (Text.bytes text).take (min limit (Text.bytes text).length)
  failed : result = .error fault ↔ limit < (Text.bytes text).length
  complete : result = .ok () ↔ (Text.bytes text).length ≤ limit

theorem verdict_eq_error_iff : s.verdict bytes = .error s.fault ↔ s.room < bytes.length := by
  constructor
  · intro hfault
    by_contra hfits
    rw [verdict_of_fits (by omega)] at hfault
    cases hfault
  · exact verdict_of_full

theorem verdict_eq_ok_iff : s.verdict bytes = .ok () ↔ bytes.length ≤ s.room := by
  constructor
  · intro hok
    by_contra hfull
    rw [verdict_of_full (by omega)] at hok
    cases hok
  · exact verdict_of_fits

theorem holdsPrefix_writeLines (cut : Cut) (limit : Nat) (fault : ε)
    (portion : List UInt8 → List UInt8 → Nat) (ls : List String) :
    let s : Sink ε := ⟨limit, fault, portion, []⟩
    (s.writeLines cut 0 ls).1.HoldsPrefix limit fault (Text.unlines ls)
      (s.writeLines cut 0 ls).2 := by
  intro s
  rw [writeLines_eq]
  refine ⟨?_, verdict_eq_error_iff, verdict_eq_ok_iff⟩
  rw [← List.take_eq_take_min]
  rfl

end Sink

/-- The recordings among requests. -/
def recordings (qs : List (Request ε)) : List Recording :=
  qs.filterMap fun
    | .recording r => some r
    | _ => none

namespace Tally

theorem answerAll_eq_run (t : Tally) (qs : List (Request ε)) :
    (t.answerAll qs).1 = (t.run (recordings qs)).1 := by
  induction qs generalizing t with
  | nil => rfl
  | cons q qs ih =>
    cases q with
    | recording r => exact ih _
    | column sel cut s => exact ih t
    | summary cut s => exact ih t

/-- Output of a tally that is in use. A column or the summary, written to a sink with limited room in
whatever pieces, fails with the fault of the sink exactly if the whole text is longer than that, and
what got through is the first part of it. No output, failed or not, changes the tally: it is what its
recordings alone come to. -/
theorem output_holds_prefix (mode : Mode) (qs : List (Request ε)) :
    let t := ((empty mode).answerAll qs).1
    t = ((empty mode).run (recordings qs)).1 ∧
      ∀ (cut : Cut) (limit : Nat) (fault : ε) (portion : List UInt8 → List UInt8 → Nat),
        let s : Sink ε := ⟨limit, fault, portion, []⟩
        (∀ sel, ∃ s' result, t.answer (.column sel cut s) = (t, .written s' result) ∧
          s'.HoldsPrefix limit fault (t.columnText sel) result) ∧
        ∃ s' result, t.answer (.summary cut s) = (t, .written s' result) ∧
          s'.HoldsPrefix limit fault (Report.Summary.render t) result := by
  intro t
  refine ⟨answerAll_eq_run _ qs, ?_⟩
  intro cut limit fault portion s
  constructor
  · intro sel
    exact ⟨_, _, rfl, Sink.holdsPrefix_writeLines cut limit fault portion (t.column sel)⟩
  · exact ⟨_, _, rfl, Sink.holdsPrefix_writeLines cut limit fault portion (Report.Summary.lines t)⟩

/-- The end of the room can lie within a character. -/
example :
    let s : Sink Unit := ⟨4, (), fun _ _ => 3, []⟩
    ((ofLines ["é", "ü"]).writeColumn .keys .whole s).1.taken = [0xc3, 0xa9, 0x0a, 0xc3] := by
  decide +kernel

end Tally

end TraceTally
