import Mathlib
import TraceTally.Session

/-! How a session ends. It succeeds exactly when settings, input and tally can be had, and prints
all of its output or nothing. -/
namespace TraceTally

namespace FileTree

variable {tree : FileTree} {path s : String}

/-- `path` names a file whose bytes are the text `s` in UTF-8. -/
inductive Holds (tree : FileTree) (path s : String) : Prop
  | intro {place : List String} (hp : tree.resolve path = .ok place)
      (hd : tree.isDirectory place = false) (hn : namesDirectory path = false)
      (hf : tree.file? place = some s.toUTF8)

theorem fromUTF8?_eq_some_iff {bytes : ByteArray} :
    String.fromUTF8? bytes = some s ↔ bytes = s.toUTF8 := by
  constructor
  · intro h
    unfold String.fromUTF8? at h
    split at h
    · obtain rfl := Option.some.inj h
      rfl
    · cases h
  · rintro rfl
    exact dif_pos s.isValidUTF8

/-- Reading gives the text of a file and never anything else. -/
theorem read_eq_ok_iff : tree.read path = .ok s ↔ tree.Holds path s := by
  constructor
  · intro h
    cases hp : tree.resolve path with
    | error fault => simp [FileTree.read, hp, bind, Except.bind] at h
    | ok place =>
      cases hd : tree.isDirectory place with
      | true => simp [FileTree.read, hp, hd, bind, Except.bind] at h
      | false =>
        cases hn : namesDirectory path with
        | true => simp [FileTree.read, hp, hd, hn, bind, Except.bind] at h
        | false =>
          cases hf : tree.file? place with
          | none => simp [FileTree.read, hp, hd, hn, hf, bind, Except.bind] at h
          | some bytes =>
            cases hs : String.fromUTF8? bytes with
            | none => simp [FileTree.read, hp, hd, hn, hf, hs, bind, Except.bind] at h
            | some s' =>
              obtain rfl : s' = s := by
                simpa [FileTree.read, hp, hd, hn, hf, hs, bind, Except.bind, pure, Except.pure]
                  using h
              rw [fromUTF8?_eq_some_iff.mp hs] at hf
              exact ⟨hp, hd, hn, hf⟩
  · rintro ⟨hp, hd, hn, hf⟩
    have hs : String.fromUTF8? s.toUTF8 = some s := fromUTF8?_eq_some_iff.mpr rfl
    simp only [FileTree.read, hp, hd, hn, hf, hs, bind, Except.bind]
    rfl

theorem read_eq_ok (tree : FileTree) :
    (fun path s => tree.read path = .ok s) = tree.Holds := by
  funext path s
  exact propext read_eq_ok_iff

end FileTree

namespace Session

open CommandLine (Invocation Command Format)

variable {holds : String → String → Prop} {read : String → Except ReadFault String}
  {config input : Option String} {inv : Invocation} {s : Settings} {t : Tally}
  {path content filter : String}

/-- The settings that hold: the usual ones, or those of the file that was named. -/
inductive Settled (holds : String → String → Prop) : Option String → Settings → Prop
  | usual : Settled holds none ⟨"transferFrom.txt", "all.txt"⟩
  | named {path text : String} {s : Settings} (hr : holds path text)
      (hp : Settings.parse text = .ok s) : Settled holds (some path) s

/-- The path that the input is read from: the one that was given, or that of the settings. -/
inductive InputPath (s : Settings) : Option String → Mode → String → Prop
  | given (path : String) (mode : Mode) : InputPath s (some path) mode path
  | paired : InputPath s none .paired s.pairedInput
  | single : InputPath s none .single s.singleInput

/-- The text of the input. -/
inductive Input (holds : String → String → Prop) (config input : Option String) (mode : Mode)
    (content : String) : Prop
  | intro {s : Settings} {path : String} (hs : Settled holds config s)
      (hp : InputPath s input mode path) (hr : holds path content)

/-- The tally of the input. -/
inductive Tallied (holds : String → String → Prop) (inv : Invocation) : Tally → Prop
  | paired {sel content : String} {t : Tally} (hc : inv.command = .paired sel)
      (hi : Input holds inv.config inv.input .paired content)
      (ht : Tally.ofPairedLines (Text.lines content) = .ok t) : Tallied holds inv t
  | single {content : String} (hc : inv.command = .single)
      (hi : Input holds inv.config inv.input .single content) :
      Tallied holds inv (Tally.ofLines (Text.lines content))

/-- A session on files that are all at hand. -/
def outcome (read : String → Except ReadFault String) (filter : String) (inv : Invocation) :
    Outcome :=
  Id.run (run (fun path => pure (read path)) filter inv)

/-- The tally that a session comes to, or why there is none. -/
def result (read : String → Except ReadFault String) (inv : Invocation) : Except Failure Tally :=
  (Id.run (course (fun path => pure (read path)) inv)).2

theorem loadSettings_of_settled (h : Settled (fun path text => read path = .ok text) config s) :
    Id.run (loadSettings (fun path => pure (read path)) config) = .ok s := by
  cases h with
  | usual => rfl
  | named hr hp => simp [loadSettings, hr, Settings.ofToml_eq_ok_iff.mpr hp]

theorem settled_of_loadSettings
    (h : Id.run (loadSettings (fun path => pure (read path)) config) = .ok s) :
    Settled (fun path text => read path = .ok text) config s := by
  cases config with
  | none =>
    cases h
    exact .usual
  | some path =>
    cases hr : read path with
    | error fault => simp [loadSettings, hr] at h
    | ok text =>
      cases hp : Settings.ofToml text with
      | error e => simp [loadSettings, hr, hp] at h
      | ok s' =>
        obtain rfl : s' = s := by simpa [loadSettings, hr, hp] using h
        exact .named hr (Settings.ofToml_eq_ok_iff.mp hp)

theorem inputPath_spec (inv : Invocation) (s : Settings) :
    InputPath s inv.input (modeOf inv.command) (inputPath inv s) := by
  cases hi : inv.input with
  | some path => simpa [inputPath, hi] using InputPath.given path _
  | none =>
    cases hc : inv.command with
    | paired sel => simpa [inputPath, hi, hc, modeOf] using InputPath.paired
    | single => simpa [inputPath, hi, hc, modeOf] using InputPath.single

theorem InputPath.unique {mode : Mode} {path' : String} (h : InputPath s input mode path)
    (h' : InputPath s input mode path') : path = path' := by
  cases h <;> cases h' <;> rfl

theorem tallied_iff : Tallied holds inv t ↔ ∃ content,
    Input holds inv.config inv.input (modeOf inv.command) content ∧
      buildTally inv.command (Text.lines content) = .ok t := by
  constructor
  · intro h
    cases h with
    | paired hc hi ht =>
      exact ⟨_, by simpa [hc, modeOf] using hi, by simpa [hc, buildTally] using ht⟩
    | single hc hi => exact ⟨_, by simpa [hc, modeOf] using hi, by simp [hc, buildTally]⟩
  · rintro ⟨content, hi, ht⟩
    cases hc : inv.command with
    | paired sel =>
      rw [hc] at hi ht
      exact .paired hc hi ht
    | single =>
      rw [hc] at hi ht
      obtain rfl := Except.ok.inj ht
      exact .single hc hi

theorem result_eq (read : String → Except ReadFault String) (inv : Invocation) : result read inv =
    match Id.run (loadSettings (fun path => pure (read path)) inv.config) with
    | .error f => .error f
    | .ok s =>
      match read (inputPath inv s) with
      | .error fault => .error ⟨none, .unreadable (inputPath inv s) fault⟩
      | .ok content => (tallyText inv.command (inputPath inv s) content).2 := by
  rw [result, course, Id.run_bind]
  cases Id.run (loadSettings (fun path => pure (read path)) inv.config) with
  | error f => rfl
  | ok s =>
    simp only [Id.run_bind, Id.run_pure]
    cases read (inputPath inv s) with
    | error fault => rfl
    | ok content => rfl

theorem tallyText_eq_ok_iff {command : Command} :
    (tallyText command path content).2 = .ok t ↔
      buildTally command (Text.lines content) = .ok t := by
  rw [tallyText]
  cases buildTally command (Text.lines content) <;> simp

/-- A session has a tally exactly when settings, input and tally can be had. -/
theorem result_eq_ok_iff :
    result read inv = .ok t ↔ Tallied (fun path text => read path = .ok text) inv t := by
  rw [tallied_iff, result_eq]
  constructor
  · intro h
    cases hs : Id.run (loadSettings (fun path => pure (read path)) inv.config) with
    | error f => simp [hs] at h
    | ok s =>
      cases hr : read (inputPath inv s) with
      | error fault => simp [hs, hr] at h
      | ok content =>
        simp only [hs, hr, tallyText_eq_ok_iff] at h
        exact ⟨content, ⟨settled_of_loadSettings hs, inputPath_spec inv s, hr⟩, h⟩
  · rintro ⟨content, ⟨hs, hp, hr⟩, ht⟩
    obtain rfl := hp.unique (inputPath_spec inv _)
    simp only [loadSettings_of_settled hs, hr, tallyText_eq_ok_iff, ht]

/-- The column that a command asks for. -/
inductive Selected : Command → Selector → Prop
  | keys : Selected (.paired "1") .keys
  | counts : Selected (.paired "2") .counts
  | durations : Selected (.paired "3") .durations
  | single : Selected .single .keys

theorem selectorOf_of_selected {command : Command} {sel : Selector} (h : Selected command sel) :
    selectorOf command = some sel := by
  cases h <;> rfl

theorem selectorOf_eq_none {text : String} (h : text ∉ ["1", "2", "3"]) :
    selectorOf (.paired text) = none := by
  simp only [List.mem_cons, List.not_mem_nil, or_false, not_or] at h
  simp [selectorOf, Selector.parse?, h]

theorem outcome_of_error {f : Failure} (h : result read inv = .error f) :
    (outcome read filter inv).exit = 1 ∧ (outcome read filter inv).stdout = "" := by
  simp only [outcome, run, Id.run_bind, Id.run_pure, conclude]
  rw [result] at h
  simp [h]

theorem outcome_of_nothing_selected (h : result read inv = .ok t)
    (hsel : selectorOf inv.command = none) :
    (outcome read filter inv).exit = 0 ∧ (outcome read filter inv).stdout = "" ∧
      (inv.debug = false → (outcome read filter inv).stderr = "") := by
  simp only [outcome, run, Id.run_bind, Id.run_pure, conclude]
  rw [result] at h
  simp +contextual [h, hsel]

theorem outcome_of_selected {sel : Selector} (h : result read inv = .ok t)
    (hsel : selectorOf inv.command = some sel) :
    (outcome read filter inv).exit = 0 ∧
      (outcome read filter inv).stdout = render t sel inv.format ∧
      (inv.debug = false → (outcome read filter inv).stderr =
        if inv.summary then Report.Summary.render t else "") := by
  simp only [outcome, run, Id.run_bind, Id.run_pure, conclude]
  rw [result] at h
  simp +contextual [h, hsel]

theorem outcome_exit_eq_zero_iff :
    (outcome read filter inv).exit = 0 ↔ ∃ t, result read inv = .ok t := by
  cases h : result read inv with
  | error f => simp [(outcome_of_error h).1]
  | ok t =>
    cases hsel : selectorOf inv.command with
    | none => simp [(outcome_of_nothing_selected h hsel).1]
    | some sel => simp [(outcome_of_selected h hsel).1]

theorem result_eq_ok_iff_tallied {tree : FileTree} :
    result tree.read inv = .ok t ↔ Tallied tree.Holds inv t := by
  rw [result_eq_ok_iff, tree.read_eq_ok]

theorem exit_eq_zero_iff_tallied {tree : FileTree} :
    (outcome tree.read filter inv).exit = 0 ↔ ∃ t, Tallied tree.Holds inv t := by
  rw [outcome_exit_eq_zero_iff]
  exact exists_congr fun t => result_eq_ok_iff_tallied

theorem outcome_of_not_tallied {tree : FileTree} (h : ¬ ∃ t, Tallied tree.Holds inv t) :
    (outcome tree.read filter inv).exit = 1 ∧ (outcome tree.read filter inv).stdout = "" := by
  cases hr : result tree.read inv with
  | error f => exact outcome_of_error hr
  | ok t => exact (h ⟨t, result_eq_ok_iff_tallied.mp hr⟩).elim

theorem start_eq_outcome {args : List String} (h : CommandLine.parse args = .ok inv) :
    Id.run (start (fun path => pure (read path)) filter args) = outcome read filter inv := by
  rw [start, h]
  rfl

/-- A session on a tree of files, without a log. It ends well exactly when the settings load, also
those that nothing depends on, and the input is text that can be tallied; otherwise nothing is
printed. When it ends well it prints nothing at all if no column was selected, and otherwise the
whole tally in the form that was asked for. -/
theorem start_all_or_nothing (tree : FileTree) (filter : String) (args : List String)
    (inv : Invocation) (hargs : CommandLine.parse args = .ok inv) (hdebug : inv.debug = false) :
    let o := Id.run (start (fun path => pure (tree.read path)) filter args)
    (o.exit = 0 ↔ ∃ t, Tallied tree.Holds inv t) ∧
      ((¬ ∃ t, Tallied tree.Holds inv t) → o.exit = 1 ∧ o.stdout = "") ∧
      (∀ text, inv.command = .paired text → text ∉ ["1", "2", "3"] → o.exit = 0 →
        o.stdout = "" ∧ o.stderr = "") ∧
      ∀ sel, Selected inv.command sel → o.exit = 0 → ∃ t, Tallied tree.Holds inv t ∧
        (o.stdout = match inv.format with
          | .text => Text.unlines (t.column sel)
          | .json => (Report.Document.ofTally t).render ++ "\n"
          | .csv => Report.Csv.render t) ∧
        o.stderr = if inv.summary then Report.Summary.render t else "" := by
  intro o
  have ho : o = outcome tree.read filter inv := start_eq_outcome hargs
  have hexit : o.exit = 0 ↔ ∃ t, Tallied tree.Holds inv t := ho ▸ exit_eq_zero_iff_tallied
  refine ⟨hexit, ?_, ?_, ?_⟩
  · intro hnone
    rw [ho]
    exact outcome_of_not_tallied hnone
  · intro text hc htext hzero
    obtain ⟨t, ht⟩ := hexit.mp hzero
    have hsel : selectorOf inv.command = none := by rw [hc, selectorOf_eq_none htext]
    obtain ⟨-, hout, herr⟩ := outcome_of_nothing_selected (result_eq_ok_iff_tallied.mpr ht) hsel
    rw [ho]
    exact ⟨hout, herr hdebug⟩
  · intro sel hsel hzero
    obtain ⟨t, ht⟩ := hexit.mp hzero
    obtain ⟨-, hout, herr⟩ :=
      outcome_of_selected (result_eq_ok_iff_tallied.mpr ht) (selectorOf_of_selected hsel)
    rw [ho]
    refine ⟨t, ht, ?_, herr hdebug⟩
    rw [hout]
    cases inv.format <;> rfl

/-- A selector that names no column, with settings that the input given makes needless. -/
theorem start_all_or_nothing_unselected :
    let tree := FileTree.ofEntries
      [(["t"], "X\r\n3\r\n".toUTF8), (["c"], "single_input = \"x\"".toUTF8)] []
    let args := ["paired", "-c", "01", "--format=csv", "--config", "c", "-i", "t"]
    let inv : Invocation := ⟨some "t", some "c", .csv, true, false, .paired "01"⟩
    let o := Id.run (start (fun path => pure (tree.read path)) "" args)
    CommandLine.parse args = .ok inv ∧ inv.debug = false ∧ o.exit = 0 ∧
      (∃ t, Tallied tree.Holds inv t) ∧ o.stdout = "" ∧ o.stderr = "" := by
  intro tree args inv o
  have hargs : CommandLine.parse args = .ok inv := by decide +kernel
  have hinput : tree.Holds "t" "X\r\n3\r\n" := by
    have hp : tree.resolve "t" = .ok ["tmp", "work", "t"] := by cbv
    exact ⟨hp, by decide +kernel, by cbv, by decide +kernel⟩
  have hconfig : tree.Holds "c" "single_input = \"x\"" := by
    have hp : tree.resolve "c" = .ok ["tmp", "work", "c"] := by cbv
    exact ⟨hp, by decide +kernel, by cbv, by decide +kernel⟩
  have hsettings : Settings.parse "single_input = \"x\"" = .ok ⟨"transferFrom.txt", "x"⟩ := by
    decide +kernel
  obtain ⟨hexit, -, hnothing, -⟩ := start_all_or_nothing tree "" args inv hargs rfl
  have htallied : ∃ t, Tallied tree.Holds inv t :=
    ⟨_, .paired rfl (.intro (.named hconfig hsettings) (.given "t" .paired) hinput) rfl⟩
  have hzero := hexit.mpr htallied
  exact ⟨hargs, rfl, hzero, htallied, hnothing "01" rfl (by decide) hzero⟩

end Session

end TraceTally
