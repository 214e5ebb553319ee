import Mathlib
import TraceTally.CommandLine.Parse

/-! Where options stand on a command line. Each may stand in front of the command, behind it or
between it and its selector, in any order and any spelling: what is understood is the same. -/
namespace TraceTally.CommandLine

/-- An option that was chosen, with its value if it takes one. -/
inductive Choice where
  | setting (s : Setting) (value : String)
  | flag (f : Flag)
  deriving DecidableEq

def Setting.name : Setting → String
  | input => "input"
  | config => "config"
  | format => "format"

def Flag.name : Flag → String
  | summary => "summary"
  | debug => "debug"

def Format.name : Format → String
  | text => "text"
  | json => "json"
  | csv => "csv"

/-- The ways to write a choice: the value apart from the name or joined to it, a letter for the name
of the input or of the summary. -/
inductive Spelling : Choice → List String → Prop
  | apart (s : Setting) (v : String) : Spelling (.setting s v) ["--" ++ s.name, v]
  | joined (s : Setting) (v : String) : Spelling (.setting s v) ["--" ++ s.name ++ "=" ++ v]
  | inputLetter (v : String) : Spelling (.setting .input v) ["-i", v]
  | flag (f : Flag) : Spelling (.flag f) ["--" ++ f.name]
  | summaryLetter : Spelling (.flag .summary) ["-c"]

/-- Choices written one after the other. -/
inductive Spelt : List Choice → List String → Prop
  | nil : Spelt [] []
  | cons {c : Choice} {cs : List Choice} {ws vs : List String} (hc : Spelling c ws)
      (hcs : Spelt cs vs) : Spelt (c :: cs) (ws ++ vs)

/-- What is given, as choices. -/
def Given.choices (g : Given) : List Choice :=
  (g.input.map (Choice.setting .input)).toList ++ (g.config.map (Choice.setting .config)).toList ++
    (g.format.map fun f => Choice.setting .format f.name).toList ++
    (if g.summary then [.flag .summary] else []) ++ (if g.debug then [.flag .debug] else [])

/-- Argument lists that hold every choice exactly once, around the words of the command. -/
inductive Arranged (g : Given) : Command → List String → Prop
  | single {before after : List Choice} {ws vs : List String}
      (hperm : (before ++ after).Perm g.choices) (hb : Spelt before ws) (ha : Spelt after vs) :
      Arranged g .single (ws ++ "single" :: vs)
  | paired {before between after : List Choice} {ws us vs : List String} {selector : String}
      (hperm : (before ++ (between ++ after)).Perm g.choices) (hb : Spelt before ws)
      (hm : Spelt between us) (ha : Spelt after vs) :
      Arranged g (.paired selector) (ws ++ "paired" :: (us ++ selector :: vs))

/-- No option starts like this. -/
def NoDash (s : String) : Prop := s.toList.head? ≠ some '-'

instance (s : String) : Decidable (NoDash s) := inferInstanceAs (Decidable (_ ≠ _))

variable {g g' : Given} {l l' : Level} {level : Topic} {c : Choice} {cs : List Choice}
  {ws args : List String} {s : Setting} {f : Flag} {v arg : String}

theorem ofArgument_of_noDash (h : NoDash arg) : Word.ofArgument arg = .plain := by
  rw [Word.ofArgument]
  cases harg : arg.toList with
  | nil => rfl
  | cons c cs =>
    have hc : c ≠ '-' := by
      rintro rfl
      exact h (by rw [harg]; rfl)
    simp [hc]

theorem ofArgument_setting (s : Setting) :
    Word.ofArgument ("--" ++ s.name) = .long s.name none := by
  cases s <;> decide +kernel

theorem ofArgument_flag (f : Flag) : Word.ofArgument ("--" ++ f.name) = .long f.name none := by
  cases f <;> decide +kernel

theorem ofArgument_joined (s : Setting) (v : String) :
    Word.ofArgument ("--" ++ s.name ++ "=" ++ v) = .long s.name (some v) := by
  cases s <;> simp [Word.ofArgument, Setting.name]

namespace Format

theorem ofName?_name (f : Format) : ofName? f.name = some f := by
  cases f <;> rfl

theorem name_injective : Function.Injective name := by
  intro a b h
  have hname := congrArg ofName? h
  rw [ofName?_name, ofName?_name] at hname
  exact Option.some.inj hname

end Format

namespace Choice

def opt : Choice → Opt
  | setting s _ => .setting s
  | flag f => .flag f

/-- A value that its option takes, and that stands for itself when written apart. -/
def Fits : Choice → Prop
  | setting .format v => ∃ f : Format, v = f.name
  | setting _ v => v ≠ "" ∧ NoDash v
  | flag _ => True

end Choice

namespace Given

/-- The choice was made. -/
def Has (g : Given) : Choice → Prop
  | .setting .input v => g.input = some v
  | .setting .config v => g.config = some v
  | .setting .format v => g.format.map Format.name = some v
  | .flag .summary => g.summary = true
  | .flag .debug => g.debug = true

/-- Nothing was chosen for the option. -/
def Lacks (g : Given) (o : Opt) : Prop := ∀ c, c.opt = o → ¬ g.Has c

theorem mem_choices : c ∈ g.choices ↔ g.Has c := by
  cases c with
  | setting s v => cases s <;> simp [choices, Has]
  | flag f => cases f <;> simp [choices, Has]

theorem nodup_choices (g : Given) : (g.choices.map Choice.opt).Nodup := by
  obtain ⟨input, config, format, summary, debug⟩ := g
  cases input <;> cases config <;> cases format <;> cases summary <;> cases debug <;>
    simp [choices, Choice.opt]

theorem not_has_empty (c : Choice) : ¬ Has {} c := by
  cases c with
  | setting s v => cases s <;> simp [Has]
  | flag f => cases f <;> simp [Has]

/-- An option that was not given yet takes its value, and nothing else changes. -/
theorem exists_assign (hg : g.Lacks (.setting s)) (hv : (Choice.setting s v).Fits) :
    ∃ g', g.assign s v = .ok g' ∧ ∀ c, g'.Has c ↔ g.Has c ∨ c = .setting s v := by
  cases s with
  | input =>
    have hnone : g.input = none :=
      Option.eq_none_iff_forall_ne_some.mpr fun w hw => hg (.setting .input w) rfl hw
    refine ⟨{ g with input := some v }, by simp [assign, hnone, hv.1], ?_⟩
    rintro (⟨_ | _ | _, w⟩ | ⟨_ | _⟩) <;> simp [Has, hnone, @eq_comm String]
  | config =>
    have hnone : g.config = none :=
      Option.eq_none_iff_forall_ne_some.mpr fun w hw => hg (.setting .config w) rfl hw
    refine ⟨{ g with config := some v }, by simp [assign, hnone, hv.1], ?_⟩
    rintro (⟨_ | _ | _, w⟩ | ⟨_ | _⟩) <;> simp [Has, hnone, @eq_comm String]
  | format =>
    obtain ⟨f, rfl⟩ := hv
    have hnone : g.format = none := by
      rw [Option.eq_none_iff_forall_ne_some]
      intro w hw
      exact hg (.setting .format w.name) rfl (congrArg (Option.map Format.name) hw)
    have hne : f.name ≠ "" := by cases f <;> decide
    refine ⟨{ g with format := some f }, by simp [assign, hnone, hne, f.ofName?_name], ?_⟩
    rintro (⟨_ | _ | _, w⟩ | ⟨_ | _⟩) <;> simp [Has, hnone, @eq_comm String]

theorem exists_raise (hg : g.Lacks (.flag f)) :
    ∃ g', g.raise f = .ok g' ∧ ∀ c, g'.Has c ↔ g.Has c ∨ c = .flag f := by
  cases f with
  | summary =>
    have hfalse : g.summary = false := by simpa [Has] using hg (.flag .summary) rfl
    refine ⟨{ g with summary := true }, by simp [raise, hfalse], ?_⟩
    rintro (⟨_ | _ | _, w⟩ | ⟨_ | _⟩) <;> simp [Has, hfalse]
  | debug =>
    have hfalse : g.debug = false := by simpa [Has] using hg (.flag .debug) rfl
    refine ⟨{ g with debug := true }, by simp [raise, hfalse], ?_⟩
    rintro (⟨_ | _ | _, w⟩ | ⟨_ | _⟩) <;> simp [Has, hfalse]

end Given

/-- What the level will have been given once its last option is looked at. -/
def Level.Settles (l : Level) (g : Given) : Prop := l.settle = .ok { given := g }

/-- A reader that takes options one at a time, as they are read at a level. -/
structure Follows {α : Type} (level : Topic) (read : Level → List String → Except Reply α) :
    Prop where
  long : ∀ {l l' : Level} {arg name : String} {value : Option String} (args : List String),
    Word.ofArgument arg = .long name value → l.named level name value = .ok l' →
      read l (arg :: args) = read l' args
  shorts : ∀ {l l' : Level} {arg : String} {letters : List Char} (args : List String),
    Word.ofArgument arg = .shorts letters → l.letters level letters = .ok l' →
      read l (arg :: args) = read l' args
  value : ∀ {arg : String} (g : Given) (s : Setting) (args : List String),
    Word.ofArgument arg = .plain →
      read ⟨g, .waiting s⟩ (arg :: args) = read ⟨g, .holding s arg⟩ args

theorem follows_readProgram : Follows .program readProgram where
  long args harg hread := by simp [readProgram, harg, hread, bind, Except.bind]
  shorts args harg hread := by simp [readProgram, harg, hread, bind, Except.bind]
  value g s args harg := by simp [readProgram, harg]

theorem follows_readCommand (level : Topic) (selector : Option String) :
    Follows level fun l args => readCommand l level selector args where
  long args harg hread := by simp [readCommand, harg, hread, bind, Except.bind]
  shorts args harg hread := by simp [readCommand, harg, hread, bind, Except.bind]
  value g s args harg := by simp [readCommand, harg]

namespace Level

theorem settles_given (g : Given) : Settles { given := g } g := rfl

theorem settles_holding (h : g.assign s v = .ok g') : Settles ⟨g, .holding s v⟩ g' := by
  simp [Settles, settle, h, bind, Except.bind, pure, Except.pure]

theorem Settles.not_waiting (h : Settles l g) (s : Setting) : l.pending ≠ .waiting s := by
  intro hw
  simp [Settles, settle, hw] at h

theorem option_waiting (h : Settles l g) (long : Bool) :
    l.option level (.setting s) long none = .ok ⟨g, .waiting s⟩ := by
  rw [Settles] at h
  simp [option, h, bind, Except.bind, pure, Except.pure]

theorem option_joined (h : Settles l g) (hv : g.assign s v = .ok g') (long : Bool) :
    l.option level (.setting s) long (some v) = .ok { given := g' } := by
  rw [Settles] at h
  simp [option, h, hv, bind, Except.bind, pure, Except.pure]

theorem option_flag (h : Settles l g) (hf : g.raise f = .ok g') (long : Bool) :
    l.option level (.flag f) long none = .ok { given := g' } := by
  rw [Settles] at h
  simp [option, h, hf, bind, Except.bind, pure, Except.pure]

end Level

/-- An argument that names an option at every level, with the value that is joined to it. -/
inductive OptionWord : String → Opt → Option String → Prop
  | long {arg name : String} {o : Opt} {value : Option String}
      (harg : Word.ofArgument arg = .long name value)
      (ho : ∀ level, Opt.ofLong? level name = some o) : OptionWord arg o value
  | letter {arg : String} {o : Opt} (letter : Char)
      (harg : Word.ofArgument arg = .shorts [letter])
      (ho : ∀ level, Opt.ofShort? level letter = some o) : OptionWord arg o none

theorem ofLong?_setting (s : Setting) (level : Topic) :
    Opt.ofLong? level s.name = some (.setting s) := by
  cases s <;> rfl

theorem ofLong?_flag (f : Flag) (level : Topic) : Opt.ofLong? level f.name = some (.flag f) := by
  cases f <;> rfl

theorem Choice.Fits.noDash (h : (Choice.setting s v).Fits) : NoDash v := by
  cases s with
  | input => exact h.2
  | config => exact h.2
  | format =>
    obtain ⟨f, rfl⟩ := h
    cases f <;> decide

namespace Follows

variable {α : Type} {read : Level → List String → Except Reply α}

theorem optionWord {o : Opt} {value : Option String} (hf : Follows level read)
    (hw : OptionWord arg o value) (h : ∀ long, l.option level o long value = .ok l')
    (args : List String) : read l (arg :: args) = read l' args := by
  cases hw with
  | long harg ho =>
    apply hf.long args harg
    simp [Level.named, ho, h]
  | letter letter harg ho =>
    apply hf.shorts args harg
    cases o <;> simp [Level.letters, Level.attached?, ho, h, bind, Except.bind]

/-- The value stands in the next argument. It is looked at later. -/
theorem apart (hf : Follows level read) (hw : OptionWord arg (.setting s) none) (hv : NoDash v)
    (hl : l.Settles g) (args : List String) :
    read l (arg :: v :: args) = read ⟨g, .holding s v⟩ args := by
  rw [hf.optionWord hw (Level.option_waiting hl)]
  exact hf.value g s args (ofArgument_of_noDash hv)

/-- One choice is added to what the level is given, however it is written. -/
theorem spelling (hf : Follows level read) (hs : Spelling c ws) (hl : l.Settles g)
    (hg : g.Lacks c.opt) (hc : c.Fits) : ∃ l' g', l'.Settles g' ∧
      (∀ c', g'.Has c' ↔ g.Has c' ∨ c' = c) ∧ ∀ args, read l (ws ++ args) = read l' args := by
  cases hs with
  | apart s v =>
    obtain ⟨g', hassign, hhas⟩ := Given.exists_assign hg hc
    have hw : OptionWord ("--" ++ s.name) (.setting s) none :=
      .long (ofArgument_setting s) (ofLong?_setting s)
    exact ⟨_, g', Level.settles_holding hassign, hhas, hf.apart hw hc.noDash hl⟩
  | inputLetter v =>
    obtain ⟨g', hassign, hhas⟩ := Given.exists_assign hg hc
    have hw : OptionWord "-i" (.setting .input) none :=
      .letter 'i' (by decide +kernel) fun _ => rfl
    exact ⟨_, g', Level.settles_holding hassign, hhas, hf.apart hw hc.noDash hl⟩
  | joined s v =>
    obtain ⟨g', hassign, hhas⟩ := Given.exists_assign hg hc
    have hw : OptionWord ("--" ++ s.name ++ "=" ++ v) (.setting s) (some v) :=
      .long (ofArgument_joined s v) (ofLong?_setting s)
    exact ⟨_, g', Level.settles_given g', hhas, hf.optionWord hw (Level.option_joined hl hassign)⟩
  | flag f =>
    obtain ⟨g', hraise, hhas⟩ := Given.exists_raise hg
    have hw : OptionWord ("--" ++ f.name) (.flag f) none :=
      .long (ofArgument_flag f) (ofLong?_flag f)
    exact ⟨_, g', Level.settles_given g', hhas, hf.optionWord hw (Level.option_flag hl hraise)⟩
  | summaryLetter =>
    obtain ⟨g', hraise, hhas⟩ := Given.exists_raise hg
    have hw : OptionWord "-c" (.flag .summary) none :=
      .letter 'c' (by decide +kernel) fun _ => rfl
    exact ⟨_, g', Level.settles_given g', hhas, hf.optionWord hw (Level.option_flag hl hraise)⟩

/-- Choices of different options are added one after the other. -/
theorem spelt (hf : Follows level read) (hs : Spelt cs ws) (hl : l.Settles g)
    (hg : ∀ c ∈ cs, g.Lacks c.opt) (hd : (cs.map Choice.opt).Nodup) (hc : ∀ c ∈ cs, c.Fits) :
    ∃ l' g', l'.Settles g' ∧ (∀ c, g'.Has c ↔ g.Has c ∨ c ∈ cs) ∧
      ∀ args, read l (ws ++ args) = read l' args := by
  induction hs generalizing l g with
  | nil => exact ⟨l, g, hl, by simp, fun args => rfl⟩
  | @cons c cs ws vs hspell _ ih =>
    rw [List.map_cons, List.nodup_cons] at hd
    obtain ⟨l₁, g₁, hl₁, hhas₁, hread₁⟩ :=
      hf.spelling hspell hl (hg c (by simp)) (hc c (by simp))
    -- What follows is about other options, so it finds nothing given for them yet.
    have hlacks : ∀ x ∈ cs, g₁.Lacks x.opt := by
      intro x hx y hy hhas
      rcases (hhas₁ y).mp hhas with hhas | rfl
      · exact hg x (by simp [hx]) y hy hhas
      · exact hd.1 (List.mem_map.mpr ⟨x, hx, hy.symm⟩)
    obtain ⟨l₂, g₂, hl₂, hhas₂, hread₂⟩ := ih hl₁ hlacks hd.2 fun x hx => hc x (by simp [hx])
    refine ⟨l₂, g₂, hl₂, ?_, ?_⟩
    · intro x
      rw [hhas₂, hhas₁, List.mem_cons, or_assoc]
    · intro args
      rw [List.append_assoc, hread₁, hread₂]

theorem spelt_alone (hf : Follows level read) (hs : Spelt cs ws)
    (hd : (cs.map Choice.opt).Nodup) (hc : ∀ c ∈ cs, c.Fits) :
    ∃ l g, l.Settles g ∧ (∀ c, g.Has c ↔ c ∈ cs) ∧ ∀ args, read {} (ws ++ args) = read l args := by
  obtain ⟨l, g, hl, hhas, hread⟩ :=
    hf.spelt hs (Level.settles_given {}) (fun c _ x _ => Given.not_has_empty x) hd hc
  refine ⟨l, g, hl, ?_, hread⟩
  intro c
  rw [hhas, or_iff_right (Given.not_has_empty c)]

end Follows

/-- What is understood from what was given. -/
def Given.invocation (g : Given) (command : Command) : Invocation where
  input := g.input
  config := g.config
  format := g.format.getD .text
  summary := g.summary
  debug := g.debug
  command := command

theorem orElse_eq_of_iff {α : Type} {a b d : Option α}
    (h : ∀ x, b = some x ∨ a = some x ↔ d = some x) : (a <|> b) = d := by
  cases a with
  | some x => exact ((h x).mp (Or.inr rfl)).symm
  | none =>
    ext x
    simpa using h x

/-- What the two levels have between them is understood, wherever it was given. -/
theorem ofLevels_eq {outer inner : Given} (h : ∀ c, outer.Has c ∨ inner.Has c ↔ g.Has c)
    (command : Command) : Invocation.ofLevels outer inner command = g.invocation command := by
  have hinput : (inner.input <|> outer.input) = g.input :=
    orElse_eq_of_iff fun v => h (.setting .input v)
  have hconfig : (inner.config <|> outer.config) = g.config :=
    orElse_eq_of_iff fun v => h (.setting .config v)
  have hformat : (inner.format <|> outer.format) = g.format := by
    apply orElse_eq_of_iff
    intro f
    have hf := h (.setting .format f.name)
    simpa [Given.Has, Format.name_injective.eq_iff] using hf
  have hsummary : (inner.summary || outer.summary) = g.summary := by
    have hf := h (.flag .summary)
    rw [Bool.eq_iff_iff, Bool.or_eq_true, or_comm]
    exact hf
  have hdebug : (inner.debug || outer.debug) = g.debug := by
    have hf := h (.flag .debug)
    rw [Bool.eq_iff_iff, Bool.or_eq_true, or_comm]
    exact hf
  simp [Invocation.ofLevels, Given.invocation, hinput, hconfig, hformat, hsummary, hdebug]

theorem readProgram_command (hl : l.Settles g) (hlevel : Topic.ofCommand? arg = some level)
    (harg : Word.ofArgument arg = .plain) (args : List String) :
    readProgram l (arg :: args) = readFrom l level args := by
  have hpending := hl.not_waiting
  simp only [readProgram, harg]
  cases hp : l.pending with
  | waiting s => exact (hpending s hp).elim
  | nothing => simp [hlevel]
  | holding s v => simp [hlevel]

theorem readCommand_selector (hl : l.Settles g) (hv : NoDash v) (args : List String) :
    readCommand l .paired none (v :: args) = readCommand { given := g } .paired (some v) args := by
  have hpending := hl.not_waiting
  rw [Level.Settles] at hl
  rw [readCommand, ofArgument_of_noDash hv]
  cases hp : l.pending with
  | waiting s => exact (hpending s hp).elim
  | nothing => simp [readWord, hl, bind, Except.bind, pure, Except.pure]
  | holding s w => simp [readWord, hl, bind, Except.bind, pure, Except.pure]

/-- The choices behind the command, up to its end. -/
theorem exists_readCommand_single {after : List Choice} {vs : List String} (ha : Spelt after vs)
    (hd : (after.map Choice.opt).Nodup) (hc : ∀ c ∈ after, c.Fits) :
    ∃ inner, readCommand {} .single none vs = .ok (inner, .single) ∧
      ∀ c, inner.Has c ↔ c ∈ after := by
  obtain ⟨l, inner, hl, hhas, hread⟩ := (follows_readCommand .single none).spelt_alone ha hd hc
  have hend := hread []
  rw [List.append_nil] at hend
  rw [Level.Settles] at hl
  refine ⟨inner, ?_, hhas⟩
  rw [hend]
  simp [readCommand, finishCommand, hl, bind, Except.bind, pure, Except.pure]

theorem exists_readCommand_paired {between after : List Choice} {us vs : List String}
    {selector : String} (hselector : NoDash selector) (hm : Spelt between us)
    (ha : Spelt after vs) (hd : ((between ++ after).map Choice.opt).Nodup)
    (hc : ∀ c ∈ between ++ after, c.Fits) :
    ∃ inner, readCommand {} .paired none (us ++ selector :: vs) = .ok (inner, .paired selector) ∧
      ∀ c, inner.Has c ↔ c ∈ between ++ after := by
  rw [List.map_append, List.nodup_append] at hd
  obtain ⟨hbetween, hafter, hdisjoint⟩ := hd
  obtain ⟨l₁, g₁, hl₁, hhas₁, hread₁⟩ := (follows_readCommand .paired none).spelt_alone hm hbetween
    fun c h => hc c (List.mem_append_left _ h)
  have hlacks : ∀ c ∈ after, g₁.Lacks c.opt := by
    intro c hmem x hx hhas
    have hearlier : x.opt ∈ between.map Choice.opt := List.mem_map_of_mem ((hhas₁ x).mp hhas)
    exact hdisjoint _ hearlier _ (List.mem_map_of_mem hmem) hx
  obtain ⟨l₂, inner, hl₂, hhas₂, hread₂⟩ := (follows_readCommand .paired (some selector)).spelt ha
    (Level.settles_given g₁) hlacks hafter fun c h => hc c (List.mem_append_right _ h)
  have hend := hread₂ []
  rw [List.append_nil] at hend
  rw [Level.Settles] at hl₂
  refine ⟨inner, ?_, ?_⟩
  · rw [hread₁, readCommand_selector hl₁ hselector, hend]
    simp [readCommand, finishCommand, hl₂, bind, Except.bind, pure, Except.pure]
  · intro c
    rw [hhas₂, hhas₁, List.mem_append]

/-- The two levels put together: choices in front of the command and choices behind it. -/
theorem parse_of_levels {before behind : List Choice} {command : Command}
    (hperm : (before ++ behind).Perm g.choices) (hfits : ∀ c, g.Has c → c.Fits)
    (hb : Spelt before ws) (hlevel : Topic.ofCommand? arg = some level)
    (harg : Word.ofArgument arg = .plain) (hhelp : level ≠ .help)
    (hbehind : (behind.map Choice.opt).Nodup → (∀ c ∈ behind, c.Fits) →
      ∃ inner, readCommand {} level none args = .ok (inner, command) ∧
        ∀ c, inner.Has c ↔ c ∈ behind) :
    parse (ws ++ arg :: args) = .ok (g.invocation command) := by
  have hmem : ∀ c, c ∈ before ++ behind ↔ g.Has c :=
    fun c => hperm.mem_iff.trans Given.mem_choices
  have hd := (hperm.map Choice.opt).nodup_iff.mpr g.nodup_choices
  rw [List.map_append, List.nodup_append] at hd
  obtain ⟨l, outer, hl, houter, hread⟩ := follows_readProgram.spelt_alone hb hd.1
    fun c hc => hfits c ((hmem c).mp (List.mem_append_left _ hc))
  obtain ⟨inner, hcommand, hinner⟩ := hbehind hd.2.1
    fun c hc => hfits c ((hmem c).mp (List.mem_append_right _ hc))
  have hboth : ∀ c, outer.Has c ∨ inner.Has c ↔ g.Has c := by
    intro c
    rw [houter, hinner, ← List.mem_append, hmem]
  rw [parse, hread, readProgram_command hl hlevel harg, ← ofLevels_eq hboth]
  rw [Level.Settles] at hl
  cases level with
  | help => exact (hhelp rfl).elim
  | program => simp [readFrom, hcommand, hl, bind, Except.bind, pure, Except.pure]
  | paired => simp [readFrom, hcommand, hl, bind, Except.bind, pure, Except.pure]
  | single => simp [readFrom, hcommand, hl, bind, Except.bind, pure, Except.pure]

theorem Given.fits_of_has (hinput : ∀ v, g.input = some v → v ≠ "" ∧ NoDash v)
    (hconfig : ∀ v, g.config = some v → v ≠ "" ∧ NoDash v) (h : g.Has c) : c.Fits := by
  cases c with
  | flag f => trivial
  | setting s v =>
    cases s with
    | input => exact hinput v h
    | config => exact hconfig v h
    | format =>
      obtain ⟨f, -, rfl⟩ := Option.map_eq_some_iff.mp h
      exact ⟨f, rfl⟩

/-- However the options are written and wherever they stand, what is understood is what was chosen;
the format is text unless another was. -/
theorem parse_arranged {command : Command}
    (hinput : ∀ v, g.input = some v → v ≠ "" ∧ NoDash v)
    (hconfig : ∀ v, g.config = some v → v ≠ "" ∧ NoDash v)
    (hselector : ∀ v, command = .paired v → NoDash v) (h : Arranged g command args) :
    parse args = .ok {
      input := g.input
      config := g.config
      format := g.format.getD .text
      summary := g.summary
      debug := g.debug
      command } := by
  have hfits : ∀ c, g.Has c → c.Fits := fun c => Given.fits_of_has hinput hconfig
  cases h with
  | single hperm hb ha =>
    exact parse_of_levels hperm hfits hb rfl (by decide +kernel) (by decide)
      (exists_readCommand_single ha)
  | paired hperm hb hm ha =>
    exact parse_of_levels hperm hfits hb rfl (by decide +kernel) (by decide)
      (exists_readCommand_paired (hselector _ rfl) hm ha)

/-- Values that look like commands and selectors, with options on all three sides. -/
theorem parse_arranged_lookalike :
    let g : Given := ⟨some "paired", some "single", some .csv, true, true⟩
    let args := ["-i", "paired", "--debug", "paired", "--format=csv", "-c", "help", "--config",
      "single"]
    Arranged g (.paired "help") args ∧ parse args = .ok ⟨some "paired", some "single", .csv, true,
      true, .paired "help"⟩ := by
  intro g args
  have hbefore : Spelt [.setting .input "paired", .flag .debug] ["-i", "paired", "--debug"] :=
    .cons (.inputLetter _) (.cons (.flag .debug) .nil)
  have hbetween : Spelt [.setting .format "csv", .flag .summary] ["--format=csv", "-c"] :=
    .cons (.joined .format "csv") (.cons .summaryLetter .nil)
  have hafter : Spelt [.setting .config "single"] ["--config", "single"] :=
    .cons (.apart .config "single") .nil
  have h : Arranged g (.paired "help") args := .paired (by decide) hbefore hbetween hafter
  refine ⟨h, parse_arranged ?_ ?_ ?_ h⟩
  · rintro v ⟨⟩
    decide
  · rintro v ⟨⟩
    decide
  · rintro v ⟨⟩
    decide

end TraceTally.CommandLine
