import RtlLiterals.Proofs.File.Elsewhere

/-!
# RtlLiterals.Proofs.File.Changes -- what making and writing change

A tree changes in two ways: directories are added where nothing was (`AddsDirectories`), and a file
gets its bytes. A path that could be followed can still be followed after either
(`Keeps.follow_eq`), and the path that was written leads to what was written.
-/

namespace RtlLiterals

namespace FileTree

variable {t t' t'' : FileTree}

/-! ## §A What a change leaves -/

/-- **`Untouched t t' name`** -- the second tree has under the name what the first has, or a
directory where the first has nothing. -/
def Untouched (t t' : FileTree) (name : FullName) : Prop :=
  t'.find? name = t.find? name ∨ (t.find? name = none ∧ t'.find? name = some .directory)

theorem Untouched.refl (t : FileTree) (name : FullName) : Untouched t t name := .inl rfl

theorem Untouched.trans {name : FullName} (h : Untouched t t' name) (h' : Untouched t' t'' name) :
    Untouched t t'' name := by
  rcases h' with heq | ⟨hnone, hdirectory⟩
  · unfold Untouched
    rw [heq]
    exact h
  · rcases h with heq | ⟨-, hdirectory'⟩
    · exact .inr ⟨heq ▸ hnone, hdirectory⟩
    · rw [hdirectory'] at hnone
      cases hnone

/-- **`AddsDirectories t t'`** -- the second tree has all that the first has, and besides only
directories. -/
structure AddsDirectories (t t' : FileTree) : Prop where
  current_eq : t'.current = t.current
  untouched : ∀ name, Untouched t t' name

theorem AddsDirectories.refl (t : FileTree) : AddsDirectories t t := ⟨rfl, .refl t⟩

theorem AddsDirectories.trans (h : AddsDirectories t t') (h' : AddsDirectories t' t'') :
    AddsDirectories t t'' :=
  ⟨h'.current_eq.trans h.current_eq, fun name => (h.untouched name).trans (h'.untouched name)⟩

/-- What is there stays. -/
theorem AddsDirectories.find?_eq (h : AddsDirectories t t') {name : FullName} {e : FileEntry}
    (he : t.find? name = some e) : t'.find? name = some e := by
  rcases h.untouched name with heq | ⟨hnone, -⟩
  · exact heq.trans he
  · rw [hnone] at he
    cases he

/-! ## §B Where something new is put -/

/-- A run of two steps that gives a result ran both of them. -/
theorem exists_of_bind_eq_ok {ε α β : Type} {x : Except ε α} {f : α → Except ε β} {b : β}
    (h : (x >>= f) = .ok b) : ∃ a, x = .ok a ∧ f a = .ok b := by
  cases x with
  | error e => cases h
  | ok a => exact ⟨a, rfl, h⟩

/-- **`Reaches t p part separator name`** -- the path leads through directories that are there to
the place of its last part, which is a name, and `name` is that place. -/
structure Reaches (t : FileTree) (p : Path) (part : Text) (separator : Bool) (name : FullName) :
    Prop where
  checked : checkPath p = .ok ()
  place : ∃ before here, lastPart? p = some (before, part, separator) ∧
    t.follow (t.startOf p) before = .ok here ∧ t.find? here = some .directory ∧
      name = here ++ [part]
  not_dots : ¬ isDots part = true
  short : ¬ maxNameBytes < Text.byteLength part

theorem checkDirectory_eq_ok_iff {name : FullName} :
    t.checkDirectory name = .ok () ↔ t.find? name = some .directory := by
  unfold checkDirectory
  cases t.find? name with
  | none => simp
  | some e => cases e <;> simp

/-- A directory is made where nothing is. -/
theorem reaches_of_directoryName {p : Path} {name : FullName} (h : t.directoryName p = .ok name) :
    ∃ part separator, Reaches t p part separator name ∧ t.find? name = none := by
  unfold directoryName at h
  obtain ⟨_, hpath, h⟩ := exists_of_bind_eq_ok h
  split at h
  · cases h
  case h_2 before part separator hlast =>
    obtain ⟨here, hfollow, h⟩ := exists_of_bind_eq_ok h
    obtain ⟨_, hdirectory, h⟩ := exists_of_bind_eq_ok h
    split at h
    · cases h
    split at h
    · cases h
    split at h
    · cases h
    case isFalse hdots hshort hfree =>
      obtain rfl := Except.ok.inj h
      exact ⟨part, separator, ⟨hpath, ⟨before, here, hlast, hfollow,
        checkDirectory_eq_ok_iff.1 hdirectory, rfl⟩, hdots, hshort⟩, by simpa using hfree⟩

/-- A file is written where no directory is, and no separator follows its name. -/
theorem reaches_of_fileName {p : Path} {name : FullName} (h : t.fileName p = .ok name) :
    ∃ part, Reaches t p part false name ∧ t.find? name ≠ some .directory := by
  unfold fileName at h
  obtain ⟨_, hpath, h⟩ := exists_of_bind_eq_ok h
  split at h
  · cases h
  case h_2 before part separator hlast =>
    obtain ⟨here, hfollow, h⟩ := exists_of_bind_eq_ok h
    obtain ⟨_, hdirectory, h⟩ := exists_of_bind_eq_ok h
    split at h
    · cases h
    split at h
    · cases h
    split at h
    · cases h
    case isFalse hname hshort hfree =>
      obtain rfl := Except.ok.inj h
      obtain ⟨hdots, hseparator⟩ := not_or.1 hname
      obtain rfl : separator = false := by simpa using hseparator
      refine ⟨part, ⟨hpath, ⟨before, here, hlast, hfollow,
        checkDirectory_eq_ok_iff.1 hdirectory, rfl⟩, hdots, hshort⟩, ?_⟩
      intro hthere
      rw [hthere] at hfree
      exact hfree rfl

theorem Reaches.name_ne_nil {p : Path} {part : Text} {separator : Bool} {name : FullName}
    (h : Reaches t p part separator name) : name ≠ [] := by
  obtain ⟨before, here, -, -, -, rfl⟩ := h.place
  simp

theorem find?_insert_self {name : FullName} (hname : name ≠ []) (e : FileEntry) :
    (t.insert name e).find? name = some e := by
  rw [find?_insert, if_neg hname, if_pos rfl]

theorem find?_insert_of_ne {name other : FullName} (hother : other ≠ name) (e : FileEntry) :
    (t.insert name e).find? other = t.find? other := by
  rw [find?_insert, if_neg hother]
  by_cases hroot : other = []
  · rw [if_pos hroot, hroot]
    rfl
  · rw [if_neg hroot]

/-! ## §C Making directories -/

theorem addsDirectories_insert {name : FullName} (hname : name ≠ []) (hfree : t.find? name = none) :
    AddsDirectories t (t.insert name .directory) := by
  refine ⟨rfl, fun other => ?_⟩
  by_cases hother : other = name
  · subst hother
    exact .inr ⟨hfree, find?_insert_self hname .directory⟩
  · exact .inl (find?_insert_of_ne hother .directory)

theorem addsDirectories_of_makeDirectory {p : Path} (h : t.makeDirectory p = .ok t') :
    AddsDirectories t t' := by
  unfold makeDirectory at h
  cases hname : t.directoryName p with
  | error e =>
    rw [hname] at h
    cases h
  | ok name =>
    rw [hname] at h
    obtain rfl := Except.ok.inj h
    obtain ⟨part, separator, hreaches, hfree⟩ := reaches_of_directoryName hname
    exact addsDirectories_insert hreaches.name_ne_nil hfree

/-- **Making directories.** Whether it succeeds or not, nothing but directories is added. -/
theorem addsDirectories_makeFirst (t : FileTree) (ps : List Path) :
    AddsDirectories t (t.makeFirst ps).2 := by
  fun_induction makeFirst t ps with
  | case1 => exact .refl _
  | case2 p ps made hmade => exact addsDirectories_of_makeDirectory hmade
  | case3 p ps _ e rest hrest ih =>
    rw [hrest] at ih
    exact ih
  | case4 p ps _ rest hrest made hmade ih =>
    rw [hrest] at ih
    exact ih.trans (addsDirectories_of_makeDirectory hmade)
  | case5 p ps _ rest hrest e he ih =>
    rw [hrest] at ih
    exact ih
  | case6 => exact .refl _

theorem addsDirectories_makeDirectories (t : FileTree) (p : Path) :
    AddsDirectories t (t.makeDirectories p).2 :=
  addsDirectories_makeFirst t p.ancestors

/-! ## §D Writing -/

/-- **`Keeps t t'`** -- what is in the first tree is in the second, directories as directories. -/
structure Keeps (t t' : FileTree) : Prop where
  current_eq : t'.current = t.current
  isSome : ∀ name, (t.find? name).isSome = true → (t'.find? name).isSome = true
  directory : ∀ name, t.find? name = some .directory → t'.find? name = some .directory

/-- A file in place of a file, or of nothing, takes nothing away. -/
theorem keeps_insert_file {name : FullName} (hname : name ≠ [])
    (hfile : t.find? name ≠ some .directory) (bytes : ByteArray) :
    Keeps t (t.insert name (.file bytes)) := by
  refine ⟨rfl, fun other hother => ?_, fun other hother => ?_⟩
  · by_cases heq : other = name
    · rw [heq, find?_insert_self hname]
      rfl
    · rwa [find?_insert_of_ne heq]
  · rw [find?_insert_of_ne]
    · exact hother
    · rintro rfl
      exact hfile hother

theorem checkPart_eq_ok_iff {here : FullName} {part : Text} :
    t.checkPart here part = .ok () ↔ part = [] ∨ isDots part = true ∨
      (¬ maxNameBytes < Text.byteLength part ∧ (t.find? (here ++ [part])).isSome = true) := by
  unfold checkPart isDots
  by_cases hempty : part = []
  · simp [hempty]
  by_cases hone : part = ['.']
  · simp [hone]
  by_cases htwo : part = ['.', '.']
  · simp [htwo]
  by_cases hlong : maxNameBytes < Text.byteLength part
  · simp [hempty, hone, htwo, hlong]
  · cases t.find? (here ++ [part]) <;> simp [hempty, hone, htwo, hlong]

/-- **A path that can be followed** can be followed in a tree that keeps all there was. -/
theorem Keeps.follow_eq (h : Keeps t t') {parts : List Text} {here there : FullName}
    (hfollow : t.follow here parts = .ok there) : t'.follow here parts = .ok there := by
  induction parts generalizing here with
  | nil => exact hfollow
  | cons part rest ih =>
    rw [follow_cons] at hfollow ⊢
    obtain ⟨_, hdirectory, hfollow⟩ := exists_of_bind_eq_ok hfollow
    obtain ⟨_, hpart, hfollow⟩ := exists_of_bind_eq_ok hfollow
    have hpart' : t'.checkPart here part = .ok () :=
      checkPart_eq_ok_iff.2 ((checkPart_eq_ok_iff.1 hpart).imp_right
        (Or.imp_right (And.imp_right (h.isSome (here ++ [part])))))
    rw [checkDirectory_eq_ok_iff.2 (h.directory here (checkDirectory_eq_ok_iff.1 hdirectory)),
      hpart']
    exact ih hfollow

theorem follow_append {parts rest : List Text} {here there : FullName}
    (h : t.follow here parts = .ok there) :
    t.follow here (parts ++ rest) = t.follow there rest := by
  induction parts generalizing here with
  | nil =>
    obtain rfl := Except.ok.inj h
    rfl
  | cons part parts ih =>
    rw [follow_cons] at h
    obtain ⟨_, hdirectory, h⟩ := exists_of_bind_eq_ok h
    obtain ⟨_, hpart, h⟩ := exists_of_bind_eq_ok h
    rw [List.cons_append, follow_cons, hdirectory, hpart]
    exact ih h

/-- Without a separator behind it, the last part ends the path. -/
theorem split_of_lastPart? {p : Path} {before : List Text} {part : Text}
    (h : lastPart? p = some (before, part, false)) : p.split = before ++ [part] := by
  unfold lastPart? at h
  cases hparts : p.split.reverse with
  | nil => simp [hparts] at h
  | cons last others =>
    rw [hparts] at h
    by_cases hempty : last = []
    · simp only [hempty] at h
      split at h
      · cases h
      · simp at h
    · have hdrop : (last :: others).dropWhile (· == []) = last :: others :=
        List.dropWhile_cons_of_neg (by simpa using hempty)
      simp only [hdrop, Option.some.injEq, Prod.mk.injEq] at h
      obtain ⟨rfl, rfl, -⟩ := h
      rw [List.reverse_eq_iff.1 hparts, List.reverse_cons]

/-- **A file that is written** is where its path leads. -/
theorem resolve_insert {p : Path} {part : Text} {name : FullName}
    (h : Reaches t p part false name) (hfile : t.find? name ≠ some .directory)
    (bytes : ByteArray) : (t.insert name (.file bytes)).resolve p = .ok name := by
  obtain ⟨before, here, hlast, hfollow, hdirectory, hname⟩ := h.place
  obtain ⟨hpart, -⟩ := exists_split_of_lastPart? hlast
  have hkeeps := keeps_insert_file h.name_ne_nil hfile bytes
  have hfind := find?_insert_self (t := t) h.name_ne_nil (.file bytes)
  have hcheck : (t.insert name (.file bytes)).checkPart here part = .ok () := by
    refine checkPart_eq_ok_iff.2 (.inr (.inr ⟨h.short, ?_⟩))
    rw [← hname, hfind]
    rfl
  unfold resolve
  rw [h.checked, split_of_lastPart? hlast]
  change (do
    let found ← (t.insert name (.file bytes)).follow (t.startOf p) (before ++ [part])
    if ((t.insert name (.file bytes)).find? found).isSome then Except.ok found
      else .error FileError.notFound) = .ok name
  rw [follow_append (hkeeps.follow_eq hfollow), follow_cons,
    checkDirectory_eq_ok_iff.2 (hkeeps.directory here hdirectory), hcheck,
    enter_of_name hpart h.not_dots, ← hname]
  change (if ((t.insert name (.file bytes)).find? name).isSome then Except.ok name
    else .error FileError.notFound) = .ok name
  rw [hfind]
  rfl

theorem fileName_of_write {p : Path} {bytes : ByteArray} (h : t.write p bytes = .ok t') :
    ∃ name, t.fileName p = .ok name ∧ t' = t.insert name (.file bytes) := by
  unfold write at h
  cases hname : t.fileName p with
  | error e =>
    rw [hname] at h
    cases h
  | ok name =>
    rw [hname] at h
    exact ⟨name, rfl, (Except.ok.inj h).symm⟩

/-- **Writing.** It puts one file where no directory is, and there its path leads. -/
theorem exists_of_write {p : Path} {bytes : ByteArray} (h : t.write p bytes = .ok t') :
    ∃ name, t'.resolve p = .ok name ∧ t.find? name ≠ some .directory ∧
      t'.find? name = some (.file bytes) ∧
        ∀ other, other ≠ name → t'.find? other = t.find? other := by
  obtain ⟨name, hname, rfl⟩ := fileName_of_write h
  obtain ⟨part, hreaches, hfile⟩ := reaches_of_fileName hname
  exact ⟨name, resolve_insert hreaches hfile bytes, hfile,
    find?_insert_self hreaches.name_ne_nil _, fun _ hother => find?_insert_of_ne hother _⟩

theorem read_of_write {p : Path} {bytes : ByteArray} (h : t.write p bytes = .ok t') :
    t'.read p = .ok bytes := by
  obtain ⟨name, hresolve, -, hfind, -⟩ := exists_of_write h
  simp only [read, hresolve, hfind, bind, Except.bind]

end FileTree

end RtlLiterals
