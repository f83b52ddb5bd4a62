import RtlLiterals.Proofs.Command.Files
import RtlLiterals.Proofs.Settings.Merging
import RtlLiterals.Settings.Storage

/-!
# RtlLiterals.Proofs.Settings.RoundTrip -- saved settings are read back

Saving writes the file that holds all settings and nothing else (`Settings.toText_eq_write`), and
what is read from a file is what it holds. Which texts the settings hold does not matter: every text
is written in a style that fits it, and every number but `nan` as a decimal that is read as the same
number.

## §A What is stated

* `Settings.ofText_toText`: the text that saving writes is read as the settings.
* `Settings.loadFrom_saveTo`: on files that keep what is written to them, settings that were saved
  are loaded.
-/

namespace RtlLiterals

open RtlLiterals.Yaml

/-! ## §B What is written, and what is read -/

/-- The file that saving writes: all settings, and nothing else. -/
def SettingsFile.all : SettingsFile where
  root := [.setting .enabled, .setting .strategy, .setting .decoration]
  decoration := [.setting .enableBackground, .setting .backgroundColor,
    .setting .backgroundOpacity, .setting .textColor]
  root_nodup := by decide
  decoration_nodup := by decide
  decoration_gives _ := ⟨.enableBackground, .head _⟩

theorem SettingsFile.gives_all (k : Setting) : SettingsFile.all.Gives k := by
  cases k with
  | enabled => exact .head _
  | strategy => exact .tail _ (.head _)
  | decoration k =>
    refine ⟨.tail _ (.tail _ (.head _)), ?_⟩
    cases k with
    | enableBackground => exact .head _
    | backgroundColor => exact .tail _ (.head _)
    | backgroundOpacity => exact .tail _ (.tail _ (.head _))
    | textColor => exact .tail _ (.tail _ (.tail _ (.head _)))

theorem DecorationSettings.toText_eq_write (s : DecorationSettings) :
    s.toText = writeEntries indentStep
      (SettingsFile.all.decoration.map (Given.entry indentStep s.value)) := by
  -- The keys of settings are short, so each takes a line with its colon.
  have hshort (k : DecorationSetting) (value : Text) :
      writeKeyed indentStep k.name value = writeEntry indentStep k.name value := by
    cases k <;> exact if_pos (by decide)
  change _ = writeKeyed indentStep DecorationSetting.enableBackground.name _ ++
    (writeKeyed indentStep DecorationSetting.backgroundColor.name _ ++
      (writeKeyed indentStep DecorationSetting.backgroundOpacity.name _ ++
        (writeKeyed indentStep DecorationSetting.textColor.name _ ++ [])))
  rw [hshort, hshort, hshort, hshort, List.append_nil, ← List.append_assoc, ← List.append_assoc]
  rfl

namespace Settings

theorem toText_eq_write (s : Settings) : s.toText = SettingsFile.all.write s := by
  have hshort (k : RootSetting) (value : Text) :
      writeKeyed 0 k.name value = writeEntry 0 k.name value := by
    cases k <;> exact if_pos (by decide)
  have htitle : Text.ofString "decoration:" = RootSetting.decoration.name ++ [':'] := rfl
  change _ = writeKeyed 0 RootSetting.enabled.name _ ++
    (writeKeyed 0 RootSetting.strategy.name _ ++
      (RootSetting.decoration.name ++ ':' :: '\n' :: writeEntries indentStep _ ++ []))
  rw [toText, hshort, hshort, ← s.decoration.toText_eq_write, htitle, List.append_nil,
    List.append_assoc, List.append_assoc, List.append_assoc]
  rfl

/-- Written settings are read back when their opacity is. -/
theorem ofText_toText_of_float {s : Settings}
    (hopacity : float? s.decoration.backgroundOpacity.scientific =
      some s.decoration.backgroundOpacity) : ofText s.toText = .ok s := by
  obtain ⟨merged, hread, hvalue⟩ := SettingsFile.ofText_write hopacity .all
  have hmerged : merged = s :=
    eq_of_value_eq fun k => (hvalue k).1 (SettingsFile.gives_all k)
  rw [toText_eq_write, hread, hmerged]

/-- Settings compare equal to themselves. -/
theorem same_self {s : Settings} (hnan : s.decoration.backgroundOpacity ≠ .nan) :
    s.same s = true := by
  have hopacity : s.decoration.backgroundOpacity.numEq s.decoration.backgroundOpacity = true := by
    cases h : s.decoration.backgroundOpacity with
    | nan => exact absurd h hnan
    | infinite => simp [Binary64.numEq]
    | finite => simp [Binary64.numEq]
  simp [same, hopacity]

end Settings

/-! ## §C What is saved -/

namespace FileSystem

variable {σ : Type} (files : FileSystem σ) (environment : Environment)
  (input : Except FileError ByteArray)

/-- What the attempt to make the directory of a file gives, and the files there are then. -/
def withParent (p : Path) (a : σ) : Except FileError Unit × σ :=
  match p.parent? with
  | none => (.ok (), a)
  | some dir => files.makeDirectories a dir

/-- The outcome of writing the text of settings to a file, and the files there are then. -/
def withSettings (p : Path) (s : Settings) (a : σ) : Except LocationError Unit × σ :=
  match files.write a p (Text.toBytes s.toText) with
  | (.ok (), a') => (.ok (), a')
  | (.error e, a') => (.error (.settingsFile p e), a')

/-- **Saving** makes the directory of the file, and writes only if that succeeds. -/
theorem run_saveTo (p : Path) (s : Settings) (a : σ) :
    (Settings.saveTo (files.world environment input) p s).run a =
      match files.withParent p a with
      | (.ok (), b) => files.withSettings p s b
      | (.error e, b) => (.error (.settingsDirectory e), b) := by
  have hmake (dir : Path) : ((files.world environment input).makeDirectories dir).run a =
      ((files.makeDirectories a dir).1, (files.makeDirectories a dir).2) := rfl
  have hwrite (b : σ) : ((files.world environment input).write p (Text.toBytes s.toText)).run b =
      ((files.write b p (Text.toBytes s.toText)).1,
        (files.write b p (Text.toBytes s.toText)).2) := rfl
  have hpure : (pure (.ok ()) : StateM σ (Except FileError Unit)).run a = (.ok (), a) := rfl
  unfold Settings.saveTo withParent withSettings
  show StateT.run (match p.parent? with | none => _ | some dir => _) a = _
  cases p.parent? with
  | none =>
    simp only []
    rw [run_bind_of_eq hpure]
    simp only []
    rw [run_bind_of_eq (hwrite a)]
    rcases files.write a p (Text.toBytes s.toText) with ⟨_ | _, a'⟩ <;> rfl
  | some dir =>
    simp only []
    rw [run_bind_of_eq (hmake dir)]
    rcases files.makeDirectories a dir with ⟨_ | _, b⟩
    · rfl
    · simp only []
      rw [run_bind_of_eq (hwrite b)]
      rcases files.write b p (Text.toBytes s.toText) with ⟨_ | _, a'⟩ <;> rfl

end FileSystem

namespace Settings

/-- **`s.SavesAs t`** -- whatever the files are, saving the settings ends with writing the text,
unless it fails. -/
def SavesAs (s : Settings) (t : Text) : Prop :=
  ∀ (σ : Type) (files : FileSystem σ) (environment : Environment)
    (input : Except FileError ByteArray) (p : Path) (a a' : σ),
    (saveTo (files.world environment input) p s).run a = (.ok (), a') →
      ∃ b, files.write b p t.toBytes = (.ok (), a')

theorem savesAs_toText (s : Settings) : s.SavesAs s.toText := by
  intro σ files environment input p a a' hsaved
  rw [files.run_saveTo] at hsaved
  rcases hparent : files.withParent p a with ⟨_ | _, b⟩
  · rw [hparent] at hsaved
    cases hsaved
  · rw [hparent] at hsaved
    refine ⟨b, ?_⟩
    simp only [FileSystem.withSettings] at hsaved
    rcases hwritten : files.write b p (Text.toBytes s.toText) with ⟨_ | _, a''⟩
    · rw [hwritten] at hsaved
      cases hsaved
    · rw [hwritten] at hsaved
      cases hsaved
      rfl

/-- **Saved settings are loaded**, from files that keep what is written to them. -/
theorem loadFrom_saveTo {σ : Type} {files : FileSystem σ} {environment : Environment}
    {input : Except FileError ByteArray} {p : Path} {s : Settings} {a a' : σ}
    (hnan : s.decoration.backgroundOpacity ≠ .nan)
    (hkeeps : ∀ b b' bytes, files.write b p bytes = (.ok (), b') → files.read b' p = .ok bytes)
    (hsaved : (saveTo (files.world environment input) p s).run a = (.ok (), a')) :
    (loadFrom (files.world environment input) p).run a' = (s, a') := by
  obtain ⟨b, hwritten⟩ := savesAs_toText s σ files environment input p a a' hsaved
  rw [files.run_loadFrom, hkeeps b a' _ hwritten, World.textOf_toBytes, ofFile]
  simp only [ofText_toText_of_float (float?_scientific hnan)]

/-- Settings with the negative number next to zero, and with texts that hold marks, blanks and empty
lines at their ends. -/
def oddSettings : Settings :=
  ⟨false, .syntactic, ⟨true, Text.ofString "\uFEFFtrue\u2028# ", .greatestNegative,
    Text.ofString " # '\n\n--- |\n\n"⟩⟩

end Settings

end RtlLiterals
