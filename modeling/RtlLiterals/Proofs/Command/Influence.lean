import RtlLiterals.Proofs.Command.Endings
import RtlLiterals.Proofs.File.Elsewhere
import RtlLiterals.Proofs.Settings.RoundTrip

/-!
# RtlLiterals.Proofs.Command.Influence -- what a settings file can change

Two runs with the same command line and the same source may have different settings files: one of
them may be missing, or hold no settings. The runs write the same output and exit alike if the two
files give the same strategy; and whatever they give, if the strategy is named on the command line
or the language has no use for one.

## §A How it goes

Nothing is asked of the files but that both runs get the same bytes for their source (`Gives`), so
the environments and all other files may differ as well. Which run is refused depends on the source
and on the names (`refuses_iff`), and the report on the source, the strategy and the language.

Two trees that are the same but for one name give a run the same source, if neither the source nor
the directory for logs is reached over that name (`gives_iff_of_sameBut`).
-/

namespace RtlLiterals

/-! ## §B Settings and arguments -/

/-- Bytes give one settings only. -/
theorem SettingsOf.unique {bytes : Except FileError ByteArray} {settings settings' : Settings}
    (h : SettingsOf bytes settings) (h' : SettingsOf bytes settings') : settings = settings' := by
  rcases h with ⟨t, ht, hread⟩ | ⟨hnone, hdefault⟩ <;>
    rcases h' with ⟨t', ht', hread'⟩ | ⟨hnone', hdefault'⟩
  · rw [ht.unique ht', hread'] at hread
    exact (Except.ok.inj hread).symm
  · obtain ⟨problem, hproblem⟩ := hnone' t ht
    rw [hread] at hproblem
    cases hproblem
  · obtain ⟨problem, hproblem⟩ := hnone t' ht'
    rw [hread'] at hproblem
    cases hproblem
  · rw [hdefault, hdefault']

theorem Strategy.resolve_plainText (kind : StrategyKind) : resolve kind .plainText = .lexical := by
  cases kind <;> rfl

namespace Arguments

/-- **`a.HasLanguage language`** -- the language of a run with the arguments: the one they name, or
else that of the path of the source. What comes from the standard input is plain text. -/
def HasLanguage (a : Arguments) (language : Language) : Prop :=
  match a.language, a.source with
  | some name, _ => Language.ofName? name = some language
  | none, .file p => Language.ofPath p = language
  | none, .standardInput => .plainText = language

theorem HasLanguage.unique {a : Arguments} {language language' : Language}
    (h : a.HasLanguage language) (h' : a.HasLanguage language') : language = language' := by
  unfold HasLanguage at h h'
  cases hname : a.language with
  | some name =>
    simp only [hname] at h h'
    exact Option.some.inj (h.symm.trans h')
  | none =>
    cases hsource : a.source with
    | standardInput =>
      simp only [hname, hsource] at h h'
      exact h.symm.trans h'
    | file p =>
      simp only [hname, hsource] at h h'
      exact h.symm.trans h'

theorem Chooses.hasLanguage {a : Arguments} {settings : Settings} {kind : StrategyKind}
    {language : Language} (h : a.Chooses settings kind language) : a.HasLanguage language := by
  unfold HasLanguage
  cases hname : a.language with
  | some name => exact h.named_language hname
  | none =>
    cases hsource : a.source with
    | standardInput => exact (h.input_language hname hsource).symm
    | file p => exact h.file_language hname hsource

/-- The strategy is named, or it is that of the settings. -/
theorem Chooses.kind_eq {a : Arguments} {settings settings' : Settings}
    {kind kind' : StrategyKind} {language language' : Language}
    (h : a.Chooses settings kind language) (h' : a.Chooses settings' kind' language')
    (hstrategy : a.strategy ≠ none ∨ settings.strategy = settings'.strategy) : kind = kind' := by
  cases hname : a.strategy with
  | some name => exact Option.some.inj ((h.named_kind hname).symm.trans (h'.named_kind hname))
  | none =>
    have hsame := hstrategy.resolve_left fun hnamed => hnamed hname
    rw [← h.settings_kind hname, ← h'.settings_kind hname, hsame]

/-- **`a.Misnames`** -- a name of the arguments says nothing. -/
def Misnames (a : Arguments) : Prop :=
  (∃ name, a.strategy = some name ∧ StrategyKind.ofName? name = none) ∨
    ∃ name, a.language = some name ∧ Language.ofName? name = none

theorem source_eq_file_iff {a : Arguments} {p : Path} :
    a.source = .file p ↔ a.path = some p ∧ p ≠ ['-'] := by
  unfold source
  cases a.path with
  | none => simp
  | some q =>
    by_cases hdash : q = ['-']
    · simp only [if_pos hdash, Option.some.injEq]
      constructor
      · intro h
        cases h
      · rintro ⟨rfl, hother⟩
        exact absurd hdash hother
    · simp only [if_neg hdash, Option.some.injEq, Source.file.injEq]
      constructor
      · rintro rfl
        exact ⟨rfl, hdash⟩
      · exact And.left

end Arguments

/-! ## §C Two runs -/

/-- What is around a run. -/
structure Surroundings (σ : Type) where
  environment : Environment
  input : Except FileError ByteArray
  state : σ

namespace FileSystem

variable {σ : Type} (files : FileSystem σ)

/-- The files that a run meets: the directory for logs was made, if it could be. -/
def met (around : Surroundings σ) : σ := (files.withLogs around.environment around.state).2

/-- **`files.Gives around a bytes`** -- a run with the arguments gets the bytes for its source. -/
structure Gives (around : Surroundings σ) (a : Arguments) (bytes : ByteArray) : Prop where
  not_directory : ∀ p, a.source = .file p → files.isDirectory (files.met around) p = false
  bytes_eq : a.source.bytesFrom around.input (files.read (files.met around)) = .ok bytes

/-- **`files.SetTo around a kind`** -- the settings in effect for a run with the arguments have the
strategy. -/
def SetTo (around : Surroundings σ) (a : Arguments) (kind : StrategyKind) : Prop :=
  ∃ settings, files.InEffect around.environment (files.met around) a settings ∧
    settings.strategy = kind

/-- The outcome of a run. -/
def endingAmid (around : Surroundings σ) (args : List Text) : Outcome :=
  files.ending around.environment around.input around.state args

variable {files} {around : Surroundings σ} {a : Arguments}

theorem endingAmid_eq (args : List Text) :
    files.endingAmid around args =
      (files.outcome around.environment around.input (files.met around) args).after
        (World.logWarning (files.withLogs around.environment around.state).1) :=
  congrArg Prod.fst (files.run_world around.environment around.input around.state args)

theorem InEffect.unique {environment : Environment} {s : σ} {settings settings' : Settings}
    (h : files.InEffect environment s a settings) (h' : files.InEffect environment s a settings') :
    settings = settings' := by
  unfold InEffect at h h'
  cases hfile : a.settings.orElse fun _ => environment.settingsFile? with
  | some file =>
    simp only [hfile] at h h'
    exact h.unique h'
  | none =>
    simp only [hfile] at h h'
    rw [h, h']

/-- **Refusals.** A run is refused if a name says nothing, or if it gets no text for its source. -/
theorem refuses_iff :
    files.Refuses around.input (files.met around) a ↔
      a.Misnames ∨ ∀ bytes, files.Gives around a bytes → Text.ofBytes? bytes = none := by
  constructor
  · rintro ((⟨hpath, hdash, hdirectory⟩ | hstrategy | hlanguage) | hunreadable)
    · -- A directory gives no bytes, so it is refused as a source that gives no text.
      right
      intro bytes hgives
      rw [hgives.not_directory _ (Arguments.source_eq_file_iff.2 ⟨hpath, hdash⟩)] at hdirectory
      cases hdirectory
    · exact .inl (.inl ⟨_, ‹_›, ‹_›⟩)
    · exact .inl (.inr ⟨_, ‹_›, ‹_›⟩)
    · right
      intro bytes hgives
      rw [Option.eq_none_iff_forall_ne_some]
      intro t ht
      exact hunreadable t ⟨bytes, hgives.bytes_eq, ht⟩
  · rintro ((⟨name, hname, hnone⟩ | ⟨name, hname, hnone⟩) | hnone)
    · exact .inl (.strategy hname hnone)
    · exact .inl (.language hname hnone)
    · -- No text comes from a directory, nor from a source that cannot be read.
      by_cases hdirectory : ∃ p, a.source = .file p ∧ files.isDirectory (files.met around) p = true
      · obtain ⟨p, hsource, hp⟩ := hdirectory
        obtain ⟨hpath, hdash⟩ := Arguments.source_eq_file_iff.1 hsource
        exact .inl (.directory hpath hdash hp)
      · right
        rintro t ⟨bytes, hbytes, ht⟩
        have hgives : files.Gives around a bytes := by
          refine ⟨fun p hp => ?_, hbytes⟩
          exact Bool.eq_false_iff.2 fun h => hdirectory ⟨p, hp, h⟩
        rw [hnone bytes hgives] at ht
        cases ht

theorem gives_of_not_refuses {t : Text} (h : ¬ files.Refuses around.input (files.met around) a)
    (htext : HoldsText (a.source.bytesFrom around.input (files.read (files.met around))) t) :
    ∃ bytes, files.Gives around a bytes ∧ Text.ofBytes? bytes = some t := by
  obtain ⟨bytes, hbytes, ht⟩ := htext
  refine ⟨bytes, ⟨fun p hp => ?_, hbytes⟩, ht⟩
  obtain ⟨hpath, hdash⟩ := Arguments.source_eq_file_iff.1 hp
  exact Bool.eq_false_iff.2 fun hdirectory => h (.inl (.directory hpath hdash hdirectory))

/-- Two reports are the same if the sources are, and if the strategies are or do not matter. -/
theorem Reports.output_eq {here there : Surroundings σ} {output output' : Text}
    (hgives : ∀ bytes, files.Gives here a bytes ↔ files.Gives there a bytes)
    (hstrategy : a.strategy ≠ none ∨ a.HasLanguage .plainText ∨
      ∃ kind, files.SetTo here a kind ∧ files.SetTo there a kind)
    (hhere : ¬ files.Refuses here.input (files.met here) a)
    (h : files.Reports here.environment here.input (files.met here) a output)
    (h' : files.Reports there.environment there.input (files.met there) a output') :
    output = output' := by
  obtain ⟨source, settings, kind, language, htext, hsettings, hchooses, rfl⟩ := h
  obtain ⟨source', settings', kind', language', htext', hsettings', hchooses', rfl⟩ := h'
  have hsource : source = source' := by
    obtain ⟨bytes, hbytes, ht⟩ := gives_of_not_refuses hhere htext
    exact HoldsText.unique ⟨bytes, ((hgives bytes).1 hbytes).bytes_eq, ht⟩ htext'
  have hlanguage : language = language' := hchooses.hasLanguage.unique hchooses'.hasLanguage
  subst hsource hlanguage
  have hresolve : Strategy.resolve kind language = Strategy.resolve kind' language := by
    rcases hstrategy with hnamed | hplain | ⟨k, ⟨s, hs, rfl⟩, s', hs', hkind⟩
    · rw [hchooses.kind_eq hchooses' (.inl hnamed)]
    · rw [hchooses.hasLanguage.unique hplain, Strategy.resolve_plainText,
        Strategy.resolve_plainText]
    · rw [hs.unique hsettings, hs'.unique hsettings'] at hkind
      rw [hchooses.kind_eq hchooses' (.inr hkind.symm)]
  rw [hresolve]

theorem met_tree (around : Surroundings FileTree) :
    FileTree.files.met around = match around.environment.logDirectory? with
      | none => around.state
      | some p => (around.state.makeDirectories p).2 := by
  unfold met withLogs
  cases around.environment.logDirectory? with
  | none => rfl
  | some p =>
    have hmake : FileTree.files.makeDirectories around.state p =
        around.state.makeDirectories p := rfl
    simp only [hmake]
    rcases around.state.makeDirectories p with ⟨_ | _, s⟩ <;> rfl

/-- If two trees are the same but for one name, and the directory for logs is made away from it, the
runs meet trees that are the same but for this name. -/
theorem sameBut_met {name : FullName} {here : Surroundings FileTree} {t' : FileTree}
    (h : here.state.SameBut name t')
    (hlogs : ∀ p, here.environment.logDirectory? = some p → ∀ q ∈ p.ancestors,
      FileTree.KeepsOff name (here.state.startOf q) q.split) :
    (FileTree.files.met here).SameBut name (FileTree.files.met { here with state := t' }) ∧
      (FileTree.files.met here).current = here.state.current := by
  rw [met_tree, met_tree]
  cases hp : here.environment.logDirectory? with
  | none => exact ⟨h, rfl⟩
  | some p =>
    exact ⟨h.makeDirectories (hlogs p hp), FileTree.current_makeFirst here.state p.ancestors⟩

/-- **The same source.** If two trees are the same but for one name, and neither the directory for
logs nor the source is reached over it, both runs get the same bytes for their source. -/
theorem gives_iff_of_sameBut {name : FullName} {here : Surroundings FileTree} {t' : FileTree}
    {a : Arguments} (h : here.state.SameBut name t')
    (hlogs : ∀ p, here.environment.logDirectory? = some p → ∀ q ∈ p.ancestors,
      FileTree.KeepsOff name (here.state.startOf q) q.split)
    (hsource : ∀ p, a.source = .file p →
      FileTree.KeepsOff name (here.state.startOf p) p.split) (bytes : ByteArray) :
    FileTree.files.Gives here a bytes ↔
      FileTree.files.Gives { here with state := t' } a bytes := by
  obtain ⟨hmet, hcurrent⟩ := sameBut_met h hlogs
  have hoff : ∀ p, a.source = .file p →
      FileTree.KeepsOff name ((FileTree.files.met here).startOf p) p.split := by
    intro p hp
    rw [FileTree.startOf_congr hcurrent]
    exact hsource p hp
  have hdirectory : ∀ p, a.source = .file p →
      FileTree.files.isDirectory (FileTree.files.met here) p =
        FileTree.files.isDirectory (FileTree.files.met { here with state := t' }) p := by
    intro p hp
    exact hmet.isDirectory_eq (hoff p hp)
  have hbytes : a.source.bytesFrom here.input (FileTree.files.read (FileTree.files.met here)) =
      a.source.bytesFrom here.input
        (FileTree.files.read (FileTree.files.met { here with state := t' })) := by
    cases hp : a.source with
    | standardInput => rfl
    | file p => exact hmet.read_eq (hoff p hp)
  constructor
  · intro hgives
    refine ⟨fun p hp => ?_, hbytes.symm.trans hgives.bytes_eq⟩
    rw [← hdirectory p hp]
    exact hgives.not_directory p hp
  · intro hgives
    refine ⟨fun p hp => ?_, hbytes.trans hgives.bytes_eq⟩
    rw [hdirectory p hp]
    exact hgives.not_directory p hp

/-- A command line that names a settings file and a script. -/
def scriptArgs : List Text := ["--config", "/settings", "/a.js"].map Text.ofString

/-- What the command line says. -/
def scriptArguments : Arguments :=
  ⟨some (Text.ofString "/a.js"), none, none, none, some (Text.ofString "/settings")⟩

/-- The script, for a user whose directory of settings is not there before the run. -/
def bareRun : Surroundings FileTree :=
  ⟨⟨some (Text.ofString "/user"), none⟩, .ok .empty,
    ⟨[([Text.ofString "a.js"], .file (Text.toBytes (Text.ofString "'\u0628'")))], []⟩⟩

/-- Settings that turn decorations off. -/
def quietSettings : Settings := ⟨false, .lexical, .default⟩

/-- The same with a settings file. -/
def quietRun : Surroundings FileTree :=
  { bareRun with
    state :=
      ⟨([Text.ofString "settings"], .file (Text.toBytes quietSettings.toText)) ::
        bareRun.state.entries, []⟩ }

theorem sameBut_bareRun :
    bareRun.state.SameBut [Text.ofString "settings"] quietRun.state := by
  refine ⟨rfl, fun other hother => ?_⟩
  have hname : other ≠ [Text.ofString "settings"] := by
    rintro rfl
    exact hother List.prefix_rfl
  show _ = if other = [] then _ else List.lookup other (_ :: bareRun.state.entries)
  rw [List.lookup_cons, beq_false_of_ne hname]
  rfl

end FileSystem

end RtlLiterals
