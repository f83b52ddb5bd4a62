import RtlLiterals.Proofs.Command.Files

/-!
# RtlLiterals.Proofs.Command.Endings -- a run reports everything or refuses

A run whose command line can be read ends in one of two ways. It refuses, with exit code one and
nothing on the standard output, for one of four reasons; or it ends well, and the standard output is
the report on the whole source. The settings file is never a reason: one that cannot be read as
settings counts as the defaults.

## §A How it goes

What a run looks at is said by relations, without the functions that the program is made of:
`HoldsText` for bytes that are a text, `SettingsOf` for bytes that are a settings file, `Chooses`
for the strategy and the language. A plan is refused exactly for the reasons that lie in its names
and in its path (`planFrom_eq_error_iff`), and what a plan says is what the arguments choose
(`chooses_of_planFrom`). The files are those of any `FileSystem`, after the directory for logs was
made.
-/

namespace RtlLiterals

/-! ## §B Texts and settings in bytes -/

/-- **`HoldsText bytes t`** -- the bytes could be read, and they are the text `t`. -/
def HoldsText (bytes : Except FileError ByteArray) (t : Text) : Prop :=
  ∃ b, bytes = .ok b ∧ Text.ofBytes? b = some t

theorem textOf_eq_ok_iff {bytes : Except FileError ByteArray} {t : Text} :
    World.textOf bytes = .ok t ↔ HoldsText bytes t := by
  cases bytes with
  | error e =>
    constructor
    · intro h
      cases h
    · rintro ⟨b, hb, _⟩
      cases hb
  | ok b =>
    cases h : Text.ofBytes? b <;>
      simp [World.textOf, HoldsText, bind, Except.bind, h]

theorem HoldsText.unique {bytes : Except FileError ByteArray} {t t' : Text}
    (h : HoldsText bytes t) (h' : HoldsText bytes t') : t = t' := by
  have htext := (textOf_eq_ok_iff.2 h).symm.trans (textOf_eq_ok_iff.2 h')
  exact Except.ok.inj htext

/-- **`SettingsOf bytes settings`** -- the settings are those of a file with the bytes, or the
defaults if it holds none. -/
def SettingsOf (bytes : Except FileError ByteArray) (settings : Settings) : Prop :=
  (∃ t, HoldsText bytes t ∧ Settings.ofText t = .ok settings) ∨
    ((∀ t, HoldsText bytes t → ∃ problem, Settings.ofText t = .error problem) ∧
      settings = .default)

theorem settingsOf_ofFile (bytes : Except FileError ByteArray) :
    SettingsOf bytes (Settings.ofFile (World.textOf bytes)) := by
  cases htext : World.textOf bytes with
  | error e =>
    refine .inr ⟨fun t ht => ?_, rfl⟩
    rw [textOf_eq_ok_iff.2 ht] at htext
    cases htext
  | ok t =>
    have ht := textOf_eq_ok_iff.1 htext
    cases hread : Settings.ofText t with
    | ok settings => exact .inl ⟨t, ht, by rw [Settings.ofFile, hread]⟩
    | error problem =>
      refine .inr ⟨fun t' ht' => ⟨problem, ?_⟩, by rw [Settings.ofFile, hread]⟩
      rw [ht'.unique ht, hread]

/-! ## §C Plans -/

namespace Arguments

/-- Where the source is. A path that is a single dash stands for the standard input. -/
def source (a : Arguments) : Source :=
  match a.path with
  | none => .standardInput
  | some p => if p = ['-'] then .standardInput else .file p

/-- **`a.Refused isDirectory`** -- the arguments ask for something that cannot be done, whatever
files hold: the source is a directory, or a name says nothing. -/
inductive Refused (a : Arguments) (isDirectory : Path → Bool) : Prop
  | directory {p : Path} : a.path = some p → p ≠ ['-'] → isDirectory p = true → Refused a isDirectory
  | strategy {name : Text} : a.strategy = some name → StrategyKind.ofName? name = none →
    Refused a isDirectory
  | language {name : Text} : a.language = some name → Language.ofName? name = none →
    Refused a isDirectory

/-- **`a.Chooses settings kind language`** -- the strategy and the language of a run with the
settings. The arguments come first; then the settings give the strategy, and the path of the source
the language. -/
structure Chooses (a : Arguments) (settings : Settings) (kind : StrategyKind)
    (language : Language) : Prop where
  named_kind {name : Text} : a.strategy = some name → StrategyKind.ofName? name = some kind
  settings_kind : a.strategy = none → settings.strategy = kind
  named_language {name : Text} : a.language = some name → Language.ofName? name = some language
  file_language {p : Path} : a.language = none → a.source = .file p → Language.ofPath p = language
  input_language : a.language = none → a.source = .standardInput → language = .plainText

variable {a : Arguments} {isDirectory : Path → Bool}

/-- The name of a strategy says nothing, or the strategy is the one that is named, if any. -/
theorem namedStrategy_cases (a : Arguments) :
    ((∃ name, a.strategy = some name ∧ StrategyKind.ofName? name = none) ∧
        ∃ e, a.namedStrategy = .error e) ∨
      ∃ kind?, a.namedStrategy = .ok kind? ∧ (a.strategy = none → kind? = none) ∧
        ∀ name, a.strategy = some name →
          ∃ kind, kind? = some kind ∧ StrategyKind.ofName? name = some kind := by
  unfold namedStrategy
  cases a.strategy with
  | none => exact .inr ⟨none, rfl, fun _ => rfl, fun name h => nomatch h⟩
  | some name =>
    cases hkind : StrategyKind.ofName? name with
    | none => exact .inl ⟨⟨name, rfl, hkind⟩, .unknownStrategy name, by simp only [hkind]⟩
    | some kind =>
      refine .inr ⟨some kind, by simp only [hkind], nofun, ?_⟩
      rintro _ ⟨⟩
      exact ⟨kind, rfl, hkind⟩

/-- The name of a language says nothing, or the language is the one that is named, or else the one
of the source. -/
theorem languageFor_cases (a : Arguments) (s : Source) :
    ((∃ name, a.language = some name ∧ Language.ofName? name = none) ∧
        ∃ e, a.languageFor s = .error e) ∨
      ∃ language, a.languageFor s = .ok language ∧
        (∀ name, a.language = some name → Language.ofName? name = some language) ∧
        (a.language = none → language = match s with
          | .file p => .ofPath p
          | .standardInput => .plainText) := by
  unfold languageFor
  cases a.language with
  | none => cases s <;> exact .inr ⟨_, rfl, nofun, fun _ => rfl⟩
  | some name =>
    cases hlanguage : Language.ofName? name with
    | none => exact .inl ⟨⟨name, rfl, hlanguage⟩, .unknownLanguage name, by simp only [hlanguage]⟩
    | some language =>
      refine .inr ⟨language, by simp only [hlanguage], ?_, nofun⟩
      rintro _ ⟨⟩
      exact hlanguage

/-- A plan is for the source of the arguments, unless that is a directory. -/
theorem planFrom_eq_planFor (h : ∀ p, a.path = some p → p ≠ ['-'] → isDirectory p = false) :
    a.planFrom isDirectory = a.planFor a.source := by
  unfold planFrom source
  cases hpath : a.path with
  | none => rfl
  | some p =>
    by_cases hdash : p = ['-']
    · simp only [if_pos hdash]
    · simp only [if_neg hdash, h p hpath hdash]
      rfl

/-- **Planning.** Either something is refused, or there is a plan that says what the arguments
choose. -/
theorem planFrom_cases (a : Arguments) (isDirectory : Path → Bool) :
    (a.Refused isDirectory ∧ ∃ e, a.planFrom isDirectory = .error e) ∨
      (¬ a.Refused isDirectory ∧ ∃ p, a.planFrom isDirectory = .ok p ∧ p.source = a.source ∧
        p.format = a.format.getD .text ∧ p.settings = a.settings ∧
        ∀ settings : Settings, a.Chooses settings (p.strategy.getD settings.strategy) p.language) := by
  by_cases hdirectory : ∃ p, a.path = some p ∧ p ≠ ['-'] ∧ isDirectory p = true
  · obtain ⟨p, hpath, hdash, hp⟩ := hdirectory
    refine .inl ⟨.directory hpath hdash hp, .isDirectory p, ?_⟩
    simp only [planFrom, hpath, if_neg hdash, hp, if_true]
  have hfile : ∀ p, a.path = some p → p ≠ ['-'] → isDirectory p = false := fun p hpath hdash =>
    Bool.eq_false_iff.2 fun hp => hdirectory ⟨p, hpath, hdash, hp⟩
  rw [planFrom_eq_planFor hfile]
  rcases a.namedStrategy_cases with ⟨⟨name, hname, hnone⟩, e, hs⟩ | ⟨kind?, hs, hdefault, hnamed⟩
  · exact .inl ⟨.strategy hname hnone, e, by rw [planFor, hs]; rfl⟩
  rcases a.languageFor_cases a.source with ⟨⟨name, hname, hnone⟩, e, hl⟩ |
    ⟨language, hl, hlanguage, hsource⟩
  · exact .inl ⟨.language hname hnone, e, by rw [planFor, hs, hl]; rfl⟩
  refine .inr ⟨?_, ⟨a.source, kind?, language, a.format.getD .text, a.settings⟩,
    by rw [planFor, hs, hl]; rfl, rfl, rfl, rfl, fun settings => ?_⟩
  · rintro (⟨hpath, hdash, hp⟩ | ⟨hname, hnone⟩ | ⟨hname, hnone⟩)
    · exact hdirectory ⟨_, hpath, hdash, hp⟩
    · obtain ⟨kind, _, hkind⟩ := hnamed _ hname
      rw [hkind] at hnone
      cases hnone
    · rw [hlanguage _ hname] at hnone
      cases hnone
  · refine ⟨fun hname => ?_, fun hnone => ?_, fun hname => hlanguage _ hname,
      fun hnone hfile => ?_, fun hnone hinput => ?_⟩
    · obtain ⟨kind, rfl, hkind⟩ := hnamed _ hname
      exact hkind
    · rw [hdefault hnone]
      rfl
    · have := hsource hnone
      rw [hfile] at this
      exact this.symm
    · have := hsource hnone
      rw [hinput] at this
      exact this

end Arguments

/-! ## §D Endings -/

namespace FileSystem

variable {σ : Type} (files : FileSystem σ) (environment : Environment)
  (input : Except FileError ByteArray) (s : σ)

/-- **`files.Refuses input s a`** -- a run with the arguments is refused: they ask for something
that cannot be done, or the source is no text that can be read. -/
def Refuses (a : Arguments) : Prop :=
  a.Refused (files.isDirectory s) ∨ ∀ t, ¬ HoldsText (a.source.bytesFrom input (files.read s)) t

/-- **`files.InEffect environment s a settings`** -- the settings of a run with the arguments: those
of the file that the arguments name, or else of the file of the user, or else the defaults. -/
def InEffect (a : Arguments) (settings : Settings) : Prop :=
  match a.settings.orElse fun _ => environment.settingsFile? with
  | some file => SettingsOf (files.read s file) settings
  | none => settings = .default

theorem inEffect_settingsFrom {a : Arguments} {p : Plan} (h : p.settings = a.settings) :
    files.InEffect environment s a (p.settingsFrom environment (files.read s)) := by
  unfold InEffect Plan.settingsFrom Plan.settingsFile?
  rw [h]
  cases a.settings.orElse fun _ => environment.settingsFile? with
  | none => rfl
  | some file => exact settingsOf_ofFile _

/-- **`files.Reports environment input s a output`** -- the output is the report on the whole
source, with the strategy that the arguments choose. -/
def Reports (a : Arguments) (output : Text) : Prop :=
  ∃ source settings kind language,
    HoldsText (a.source.bytesFrom input (files.read s)) source ∧
    files.InEffect environment s a settings ∧ a.Chooses settings kind language ∧
    output = Report.render (a.format.getD .text) (scanWith (.resolve kind language) source)

/-- **The two endings.** -/
theorem outcome_cases {args : List Text} {a : Arguments} (h : Arguments.parse args = .ok a) :
    (files.Refuses input s a ∧ (files.outcome environment input s args).exitCode = 1 ∧
        (files.outcome environment input s args).output = []) ∨
      (¬ files.Refuses input s a ∧ (files.outcome environment input s args).exitCode = 0 ∧
        files.Reports environment input s a (files.outcome environment input s args).output) := by
  rcases a.planFrom_cases (files.isDirectory s) with ⟨hrefused, e, hplan⟩ |
    ⟨hplanned, p, hplan, hsource, hformat, hsettings, hchooses⟩
  · simp only [outcome, h, hplan]
    exact .inl ⟨.inl hrefused, rfl, rfl⟩
  cases htext : World.textOf (a.source.bytesFrom input (files.read s)) with
  | error e =>
    simp only [outcome, h, hplan, hsource, htext]
    refine .inl ⟨.inr fun t ht => ?_, rfl, rfl⟩
    rw [textOf_eq_ok_iff.2 ht] at htext
    cases htext
  | ok source =>
    simp only [outcome, h, hplan, hsource, htext]
    have hholds := textOf_eq_ok_iff.1 htext
    refine .inr ⟨?_, rfl, source, p.settingsFrom environment (files.read s), _, p.language, hholds,
      files.inEffect_settingsFrom environment s hsettings, hchooses _, ?_⟩
    · rintro (hrefused | hunreadable)
      · exact hplanned hrefused
      · exact hunreadable source hholds
    · rw [← hformat]
      rfl

/-- The outcome of a run of the program. -/
def ending (args : List Text) : Outcome := (((files.world environment input).run args).run s).1

/-- A tree with a directory in place of a settings file. -/
def misplacedTree : FileTree := ⟨[([Text.ofString "settings"], .directory)], []⟩

/-- A command line that names the directory as settings file, and the standard input as source. -/
def misplacedArgs : List Text := ["--config", "/settings", "-"].map Text.ofString

/-- What the command line says. -/
def misplacedArguments : Arguments :=
  ⟨some ['-'], none, none, none, some (Text.ofString "/settings")⟩

end FileSystem

end RtlLiterals
