import RtlLiterals.Proofs.File.Changes
import RtlLiterals.Proofs.Path.Components
import RtlLiterals.Proofs.Settings.RoundTrip

/-!
# RtlLiterals.Proofs.File.Admitting -- where a file can be put

The stops of a path are the entries that its parts lead to, one after the other, told from the parts
alone (`enter`). A path can be followed to a directory if there is a directory at all of its stops,
and what can stand in the way is only a file at one of them, since a directory that is missing is
made. What makes a path useless for a file is therefore known before anything is made: that it names
a directory, or has a file on its way (`Admits`).

## §A How it goes

A directory is made after all those on the way to it, so the directories of a path are made by
induction on its components (`exists_makeFirst_prefixesOf`). What is true afterwards is `Made`: the
tree is one still, there are directories at all stops, and nothing was made but at a stop.
-/

namespace RtlLiterals.FileTree

variable {t t' t'' : FileTree} {here : FullName} {parts before : List Text} {part : Text}

/-! ## §B Stops -/

/-- **`Along P here parts`** -- it is true of all stops of a path with these parts, followed from
`here`. -/
def Along (P : FullName → Prop) (here : FullName) (parts : List Text) : Prop :=
  ∀ before, before <+: parts → P (before.foldl enter here)

section

variable {P : FullName → Prop}

theorem along_nil : Along P here [] ↔ P here := by
  constructor
  · intro h
    exact h [] List.nil_prefix
  · intro h before hbefore
    rwa [List.prefix_nil.1 hbefore]

theorem along_cons : Along P here (part :: parts) ↔ P here ∧ Along P (enter here part) parts := by
  constructor
  · intro h
    exact ⟨h [] List.nil_prefix,
      fun before hbefore => h (part :: before) (List.cons_prefix_cons.2 ⟨rfl, hbefore⟩)⟩
  · rintro ⟨hhere, h⟩ before hbefore
    cases before with
    | nil => exact hhere
    | cons first before =>
      obtain ⟨rfl, htail⟩ := List.cons_prefix_cons.1 hbefore
      exact h before htail

theorem along_concat :
    Along P here (before ++ [part]) ↔
      Along P here before ∧ P ((before ++ [part]).foldl enter here) := by
  constructor
  · intro h
    exact ⟨fun first hfirst => h first (hfirst.trans (List.prefix_append ..)),
      h _ List.prefix_rfl⟩
  · rintro ⟨h, hlast⟩ first hfirst
    rcases List.prefix_concat_iff.1 hfirst with rfl | hfirst
    · exact hlast
    · exact h first hfirst

theorem Along.mono {Q : FullName → Prop} (h : Along P here parts) (hPQ : ∀ name, P name → Q name) :
    Along Q here parts :=
  fun before hbefore => hPQ _ (h before hbefore)

theorem enter_of_not_isStep (hpart : Path.isStep part = false) : enter here part = here := by
  have hstay : part = [] ∨ part = ['.'] := by
    rw [Path.isStep, Bool.and_eq_false_iff] at hpart
    simpa using hpart
  rw [enter, if_pos hstay]

/-- Parts that are no steps make no new stop. -/
theorem along_filter : Along P here (parts.filter Path.isStep) ↔ Along P here parts := by
  induction parts generalizing here with
  | nil => rfl
  | cons part parts ih =>
    cases hpart : Path.isStep part with
    | true => rw [List.filter_cons_of_pos hpart, along_cons, along_cons, ih]
    | false =>
      rw [List.filter_cons_of_neg (by simp [hpart]), along_cons, enter_of_not_isStep hpart, ih]
      exact ⟨fun h => ⟨h [] List.nil_prefix, h⟩, And.right⟩

theorem along_congr {parts' : List Text}
    (h : parts.filter Path.isStep = parts'.filter Path.isStep) :
    Along P here parts ↔ Along P here parts' := by
  rw [← along_filter, h, along_filter]

end

theorem foldl_enter_concat (hpart : part ≠ []) (hdots : ¬ isDots part = true) :
    (before ++ [part]).foldl enter here = before.foldl enter here ++ [part] := by
  rw [List.foldl_append]
  exact enter_of_name hpart hdots

/-- There is a directory at all stops. -/
def Passes (t : FileTree) : FullName → List Text → Prop := Along (t.find? · = some .directory)

/-- There is no file at any stop. -/
def Clear (t : FileTree) : FullName → List Text → Prop :=
  Along fun name => ∀ bytes, t.find? name ≠ some (.file bytes)

/-- No part is longer than a name may be. -/
def Short (parts : List Text) : Prop := ∀ part ∈ parts, ¬ maxNameBytes < Text.byteLength part

/-! ## §C Following paths -/

/-- **A tree**: the current directory is there, and whatever is there is in a directory. -/
structure IsTree (t : FileTree) : Prop where
  current : t.find? t.current = some .directory
  above : ∀ name part, (t.find? (name ++ [part])).isSome = true → t.find? name = some .directory

theorem find?_nil (t : FileTree) : t.find? [] = some .directory := rfl

theorem IsTree.startOf (h : t.IsTree) (p : Path) : t.find? (t.startOf p) = some .directory := by
  unfold FileTree.startOf
  split
  · exact t.find?_nil
  · exact h.current

/-- From a directory, an empty part and dots lead to a directory. -/
theorem IsTree.enter_dots (h : t.IsTree) (hhere : t.find? here = some .directory)
    (hpart : part = [] ∨ isDots part = true) : t.find? (enter here part) = some .directory := by
  by_cases hstay : part = [] ∨ part = ['.']
  · rwa [enter, if_pos hstay]
  · have hup : part = ['.', '.'] := by
      simp only [isDots, Bool.or_eq_true, beq_iff_eq] at hpart
      tauto
    rw [enter, if_neg hstay, if_pos hup]
    rcases List.eq_nil_or_concat here with rfl | ⟨above, last, rfl⟩
    · exact hhere
    · rw [List.concat_eq_append] at hhere ⊢
      rw [List.dropLast_concat]
      exact h.above above last (by rw [hhere]; rfl)

/-- In a directory, anything may be put in place of a file, or of nothing. -/
theorem IsTree.insert (h : t.IsTree) (hhere : t.find? here = some .directory) {e : FileEntry}
    (he : e = .directory ∨ t.find? (here ++ [part]) ≠ some .directory) :
    (t.insert (here ++ [part]) e).IsTree := by
  have hdirectory (name : FullName) (hname : t.find? name = some .directory) :
      (t.insert (here ++ [part]) e).find? name = some .directory := by
    by_cases heq : name = here ++ [part]
    · rcases he with rfl | hother
      · rw [heq, find?_insert_self (by simp)]
      · exact absurd (heq ▸ hname) hother
    · rw [find?_insert_of_ne heq, hname]
  refine ⟨hdirectory _ h.current, fun name last hthere => hdirectory name ?_⟩
  by_cases heq : name ++ [last] = here ++ [part]
  · rwa [(List.append_inj' heq rfl).1]
  · rw [find?_insert_of_ne heq] at hthere
    exact h.above name last hthere

/-- **A path through directories** can be followed. -/
theorem follow_of_passes (h : t.Passes here parts) (hshort : Short parts) :
    t.follow here parts = .ok (parts.foldl enter here) := by
  induction parts generalizing here with
  | nil => rfl
  | cons part parts ih =>
    obtain ⟨hhere, hrest⟩ := along_cons.1 h
    have hpart : t.checkPart here part = .ok () := by
      rw [checkPart_eq_ok_iff]
      by_cases hempty : part = []
      · exact .inl hempty
      by_cases hdots : isDots part = true
      · exact .inr (.inl hdots)
      · have hnext := hrest [] List.nil_prefix
        rw [List.foldl_nil, enter_of_name hempty hdots] at hnext
        exact .inr (.inr ⟨hshort part (List.mem_cons_self ..), by rw [hnext]; rfl⟩)
    rw [follow_cons, checkDirectory_eq_ok_iff.2 hhere, hpart]
    exact ih hrest fun next hnext => hshort next (List.mem_cons_of_mem part hnext)

/-- A path that can be followed goes through directories, and its names are short. -/
theorem passes_of_follow {there : FullName} (h : t.follow here parts = .ok there)
    (hthere : t.find? there = some .directory) : t.Passes here parts ∧ Short parts := by
  induction parts generalizing here with
  | nil =>
    obtain rfl := Except.ok.inj h
    exact ⟨along_nil.2 hthere, nofun⟩
  | cons part parts ih =>
    rw [follow_cons] at h
    obtain ⟨_, hdirectory, h⟩ := exists_of_bind_eq_ok h
    obtain ⟨_, hpart, h⟩ := exists_of_bind_eq_ok h
    obtain ⟨hpasses, hshort⟩ := ih h
    refine ⟨along_cons.2 ⟨checkDirectory_eq_ok_iff.1 hdirectory, hpasses⟩, ?_⟩
    intro next hnext
    rcases List.mem_cons.1 hnext with rfl | hnext
    · rcases checkPart_eq_ok_iff.1 hpart with rfl | hdots | ⟨hshort, -⟩
      · decide
      · simp only [isDots, Bool.or_eq_true, beq_iff_eq] at hdots
        rcases hdots with rfl | rfl <;> decide
      · exact hshort
    · exact hshort next hnext

/-- **No file in the way.** Then a directory is missing, or all of them are there. -/
theorem passes_or_notFound (h : t.IsTree) (hhere : t.find? here = some .directory)
    (hclear : t.Clear here parts) (hshort : Short parts) :
    t.Passes here parts ∨ t.follow here parts = .error .notFound := by
  induction parts generalizing here with
  | nil => exact .inl (along_nil.2 hhere)
  | cons part parts ih =>
    have hnames : Short parts := fun next hnext => hshort next (List.mem_cons_of_mem part hnext)
    have hrest := (along_cons.1 hclear).2
    -- Whatever kind of part it is, the rest of the path starts from a directory.
    have hgo (hnext : t.find? (enter here part) = some .directory)
        (hpart : t.checkPart here part = .ok ()) :
        t.Passes here (part :: parts) ∨ t.follow here (part :: parts) = .error .notFound := by
      refine (ih hnext hrest hnames).imp (fun hpasses => along_cons.2 ⟨hhere, hpasses⟩) ?_
      intro hfollow
      rw [follow_cons, checkDirectory_eq_ok_iff.2 hhere, hpart]
      exact hfollow
    by_cases hstay : part = [] ∨ isDots part = true
    · exact hgo (h.enter_dots hhere hstay)
        (checkPart_eq_ok_iff.2 (hstay.imp_right .inl))
    · obtain ⟨hempty, hdots⟩ := not_or.1 hstay
      have henter : enter here part = here ++ [part] := enter_of_name hempty hdots
      have hlong := hshort part (List.mem_cons_self ..)
      cases hthere : t.find? (here ++ [part]) with
      | none =>
        right
        have hpart : t.checkPart here part = .error .notFound := by
          simp only [isDots, Bool.or_eq_true, beq_iff_eq, not_or] at hdots
          rw [checkPart, if_neg (not_or.2 ⟨hempty, hdots.1⟩), if_neg hdots.2, if_neg hlong, hthere]
          rfl
        rw [follow_cons, checkDirectory_eq_ok_iff.2 hhere, hpart]
        rfl
      | some e =>
        cases e with
        | directory =>
          exact hgo (henter ▸ hthere)
            (checkPart_eq_ok_iff.2 (.inr (.inr ⟨hlong, by rw [hthere]; rfl⟩)))
        | file bytes =>
          exact absurd (henter ▸ hthere) (hrest [] List.nil_prefix bytes)

/-! ## §D Making directories -/

/-- **`Made t t' here parts`** -- the second tree is the first with directories at all stops. -/
structure Made (t t' : FileTree) (here : FullName) (parts : List Text) : Prop where
  isTree : t'.IsTree
  adds : AddsDirectories t t'
  passes : t'.Passes here parts
  only : ∀ name, Along (· ≠ name) here parts → t'.find? name = t.find? name

theorem Made.refl (h : t.IsTree) (hpasses : t.Passes here parts) : Made t t here parts :=
  ⟨h, .refl t, hpasses, fun _ _ => rfl⟩

theorem Made.congr {parts' : List Text} (h : Made t t' here parts)
    (hparts : parts.filter Path.isStep = parts'.filter Path.isStep) : Made t t' here parts' :=
  ⟨h.isTree, h.adds, (along_congr hparts).1 h.passes,
    fun name hname => h.only name ((along_congr hparts).2 hname)⟩

theorem Made.trans (h : Made t t' here before) (h' : Made t' t'' here (before ++ [part])) :
    Made t t'' here (before ++ [part]) :=
  ⟨h'.isTree, h.adds.trans h'.adds, h'.passes,
    fun name hname => (h'.only name hname).trans (h.only name (along_concat.1 hname).1)⟩

/-- Where only directories are added, no file gets in the way. -/
theorem AddsDirectories.clear (h : AddsDirectories t t') (hclear : t.Clear here parts) :
    t'.Clear here parts := by
  refine hclear.mono fun name hname bytes hfile => ?_
  rcases h.untouched name with heq | ⟨-, hdirectory⟩
  · exact hname bytes (heq.symm.trans hfile)
  · rw [hdirectory] at hfile
    cases hfile

/-- Where only directories are added, directories stay. -/
theorem AddsDirectories.passes (h : AddsDirectories t t') (hpasses : t.Passes here parts) :
    t'.Passes here parts :=
  hpasses.mono fun _ hdirectory => h.find?_eq hdirectory

/-- A new directory is one more stop. -/
theorem made_insert (htree : t.IsTree) (hpasses : t.Passes here before) (hpart : part ≠ [])
    (hdots : ¬ isDots part = true) (hfree : t.find? (before.foldl enter here ++ [part]) = none) :
    Made t (t.insert (before.foldl enter here ++ [part]) .directory) here (before ++ [part]) := by
  have hadds := addsDirectories_insert (by simp) hfree
  refine ⟨htree.insert (hpasses before List.prefix_rfl) (.inl rfl), hadds,
    along_concat.2 ⟨hadds.passes hpasses, ?_⟩, ?_⟩
  · rw [foldl_enter_concat hpart hdots, find?_insert_self (by simp)]
  · intro name hname
    refine find?_insert_of_ne ?_ .directory
    rintro rfl
    exact (along_concat.1 hname).2 (foldl_enter_concat hpart hdots)

theorem lastPart?_of_split {p : Path} (h : p.split = before ++ [part]) (hpart : part ≠ []) :
    lastPart? p = some (before, part, false) := by
  unfold lastPart?
  have hreverse : p.split.reverse = part :: before.reverse := by
    rw [h, List.reverse_append]
    rfl
  simp only [hreverse]
  rw [List.dropWhile_cons_of_neg (by simpa using hpart)]
  simp [hpart]

theorem isDirectory_of_passes {p : Path} (hpath : checkPath p = .ok ())
    (hpasses : t.Passes (t.startOf p) p.split) (hshort : Short p.split) :
    t.isDirectory p = true := by
  have hthere := hpasses p.split List.prefix_rfl
  have hresolve : t.resolve p = .ok (p.split.foldl enter (t.startOf p)) := by
    simp only [resolve, hpath, follow_of_passes hpasses hshort, hthere, bind, Except.bind]
    rfl
  rw [isDirectory, hresolve]
  simp only [hthere]
  rfl

section

variable {p : Path} (htree : t.IsTree) (hpath : checkPath p = .ok ())
  (hsplit : p.split = before ++ [part]) (hpart : part ≠ []) (hshort : Short (before ++ [part]))
  (hclear : t.Clear (t.startOf p) (before ++ [part]))
include htree hpath hsplit hpart hshort hclear

/-- **One directory**, in one that is there: it is made, or it is there already. -/
theorem makeDirectory_cases (hpasses : t.Passes (t.startOf p) before) :
    (∃ t', t.makeDirectory p = .ok t' ∧ Made t t' (t.startOf p) (before ++ [part])) ∨
      t.makeDirectory p = .error .alreadyExists ∧ t.isDirectory p = true ∧
        t.Passes (t.startOf p) (before ++ [part]) := by
  have hhere := hpasses before List.prefix_rfl
  have hname : t.directoryName p =
      if isDots part then .error .alreadyExists
      else if (t.find? (before.foldl enter (t.startOf p) ++ [part])).isSome then
        .error .alreadyExists
      else .ok (before.foldl enter (t.startOf p) ++ [part]) := by
    have hfollow := follow_of_passes hpasses fun name hmem => hshort name (by simp [hmem])
    simp only [directoryName, hpath, lastPart?_of_split hsplit hpart, hfollow,
      checkDirectory_eq_ok_iff.2 hhere, bind, Except.bind, if_neg (hshort part (by simp))]
  have hthere (h : t.find? (enter (before.foldl enter (t.startOf p)) part) = some .directory) :
      t.isDirectory p = true ∧ t.Passes (t.startOf p) (before ++ [part]) := by
    have hall : t.Passes (t.startOf p) (before ++ [part]) :=
      along_concat.2 ⟨hpasses, by rwa [List.foldl_append]⟩
    refine ⟨isDirectory_of_passes hpath ?_ ?_, hall⟩
    · rwa [hsplit]
    · rwa [hsplit]
  by_cases hdots : isDots part = true
  · rw [if_pos hdots] at hname
    refine .inr ⟨?_, hthere (htree.enter_dots hhere (.inr hdots))⟩
    rw [makeDirectory, hname]
    rfl
  · rw [if_neg hdots] at hname
    cases hfind : t.find? (before.foldl enter (t.startOf p) ++ [part]) with
    | none =>
      rw [hfind] at hname
      refine .inl ⟨_, ?_, made_insert htree hpasses hpart hdots hfind⟩
      rw [makeDirectory, hname]
      rfl
    | some e =>
      cases e with
      | directory =>
        rw [hfind] at hname
        refine .inr ⟨?_, hthere ?_⟩
        · rw [makeDirectory, hname]
          rfl
        · rw [enter_of_name hpart hdots, hfind]
      | file bytes =>
        refine absurd ?_ ((along_concat.1 hclear).2 bytes)
        rw [foldl_enter_concat hpart hdots, hfind]

/-- **One more directory**: those on the way to it are there, or they are made first. -/
theorem exists_makeFirst_cons {ps : List Path}
    (hrest : ∃ t', t.makeFirst ps = (.ok (), t') ∧ Made t t' (t.startOf p) before) :
    ∃ t', t.makeFirst (p :: ps) = (.ok (), t') ∧ Made t t' (t.startOf p) (before ++ [part]) := by
  have hnames : Short before := fun name hmem => hshort name (by simp [hmem])
  rcases passes_or_notFound htree (htree.startOf p) (along_concat.1 hclear).1 hnames with
    hpasses | hmissing
  · rcases makeDirectory_cases htree hpath hsplit hpart hshort hclear hpasses with
      ⟨made, hmade, hadded⟩ | ⟨hmade, hthere, hall⟩
    · refine ⟨made, ?_, hadded⟩
      rw [makeFirst, hmade]
    · refine ⟨t, ?_, .refl htree hall⟩
      rw [makeFirst_of_error hmade (by decide), if_pos hthere]
  · -- Nothing is in the way, so the others can be made, and then this one.
    have hmissing : t.makeDirectory p = .error .notFound := by
      simp only [makeDirectory, directoryName, hpath, lastPart?_of_split hsplit hpart, hmissing,
        bind, Except.bind]
      rfl
    obtain ⟨rest, hrun, hrest⟩ := hrest
    have hstart : rest.startOf p = t.startOf p := startOf_congr hrest.adds.current_eq p
    have hpasses := hrest.passes
    have hclear := hrest.adds.clear hclear
    rw [← hstart] at hpasses hclear
    rcases makeDirectory_cases hrest.isTree hpath hsplit hpart hshort hclear hpasses with
      ⟨made, hmade, hadded⟩ | ⟨hmade, hthere, hall⟩
    · refine ⟨made, ?_, hrest.trans (hstart ▸ hadded)⟩
      simp only [makeFirst, hmissing, hrun, hmade]
    · refine ⟨rest, ?_, hrest.trans (.refl hrest.isTree (hstart ▸ hall))⟩
      simp only [makeFirst, hmissing, hrun, hmade, hthere, if_true]

end

/-- The path is short enough and has no null character, as has every path that is made of some of
its components. -/
theorem checkPath_ofComponents {p : Path} (h : checkPath p = .ok ()) {parts : List Text}
    (hparts : parts.Sublist p.components) (hne : Path.ofComponents p.isAbsolute parts ≠ []) :
    checkPath (Path.ofComponents p.isAbsolute parts) = .ok () := by
  have hsublist := Path.ofComponents_sublist hparts
  have hlength := Text.byteLength_le_of_sublist hsublist
  unfold checkPath at h ⊢
  split at h
  · cases h
  split at h
  · cases h
  split at h
  · cases h
  case isFalse hnull _ hlong =>
    rw [if_neg, if_neg hne, if_neg (by omega)]
    intro hmem
    exact hnull (List.contains_iff_mem.2 (hsublist.subset (List.contains_iff_mem.1 hmem)))

section

variable {p : Path} (htree : t.IsTree) (hpath : checkPath p = .ok ())
include htree hpath

/-- **The directories of a path** can be made one in the other, if no file is in the way. -/
theorem exists_makeFirst_prefixesOf {parts : List Text} (hinitial : parts <+: p.components)
    (hshort : Short parts) (hclear : t.Clear (t.startOf p) parts) :
    ∃ t', t.makeFirst (Path.prefixesOf p.isAbsolute parts.reverse) = (.ok (), t') ∧
      Made t t' (t.startOf p) parts := by
  induction parts using List.reverseRecOn with
  | nil => exact ⟨t, rfl, .refl htree (along_nil.2 (htree.startOf p))⟩
  | append_singleton before part ih =>
    have hmem {name : Text} (hname : name ∈ before ++ [part]) : name ≠ [] ∧ '/' ∉ name :=
      ⟨Path.ne_nil_of_mem_components (hinitial.subset hname),
        Path.notMem_of_mem_components (hinitial.subset hname)⟩
    have hne : before ++ [part] ≠ [] := by simp
    have hsplit := Path.split_ofComponents hne p.isAbsolute fun name hname => (hmem hname).2
    have habsolute := Path.isAbsolute_ofComponents hne p.isAbsolute fun name hname => hmem hname
    have hstart : t.startOf (Path.ofComponents p.isAbsolute (before ++ [part])) = t.startOf p := by
      unfold FileTree.startOf
      rw [habsolute]
    rw [← List.append_assoc] at hsplit
    -- A separator at the start is an empty part before the others, which makes no stop.
    have hlead (names : List Text) :
        (Path.lead p.isAbsolute ++ names).filter Path.isStep = names.filter Path.isStep :=
      Path.filter_lead p.isAbsolute names
    have hnames : Short (Path.lead p.isAbsolute ++ before ++ [part]) := by
      intro name hname
      rw [List.append_assoc] at hname
      rcases List.mem_append.1 hname with hname | hname
      · obtain rfl : name = [] := by
          unfold Path.lead at hname
          split at hname <;> simp_all
        decide
      · exact hshort name hname
    have hway : t.Clear (t.startOf (Path.ofComponents p.isAbsolute (before ++ [part])))
        (Path.lead p.isAbsolute ++ before ++ [part]) := by
      rw [hstart, List.append_assoc]
      exact (along_congr (hlead _)).2 hclear
    obtain ⟨rest, hrun, hrest⟩ := ih ((List.prefix_append before [part]).trans hinitial)
      (fun name hname => hshort name (by simp [hname])) (along_concat.1 hclear).1
    obtain ⟨made, hmade, hadded⟩ := exists_makeFirst_cons htree
      (checkPath_ofComponents hpath hinitial.sublist (Path.ofComponents_ne_nil hne fun name hname =>
        (hmem hname).1)) hsplit (hmem (by simp)).1 hnames hway
      ⟨rest, hrun, hstart ▸ hrest.congr (hlead before).symm⟩
    rw [hstart, List.append_assoc] at hadded
    refine ⟨made, ?_, hadded.congr (hlead _)⟩
    rw [← hmade, List.reverse_append]
    simp [Path.prefixesOf]

/-- **The directories on the way to a file**, if no file is in the way of them. -/
theorem exists_withParent (hsplit : p.split = before ++ [part]) (hpart : Path.isStep part = true)
    (hshort : Short before) (hclear : t.Clear (t.startOf p) before) :
    ∃ made, FileTree.files.withParent p t = (.ok (), made) ∧ Made t made (t.startOf p) before := by
  obtain ⟨parts, hcomponents, hparts⟩ := Path.exists_components_eq hsplit hpart
  have hinitial : parts <+: p.components := ⟨[part], hcomponents.symm⟩
  have hrun : FileTree.files.withParent p t =
      t.makeDirectories (Path.ofComponents p.isAbsolute parts) := by
    rw [FileSystem.withParent, Path.parent?_eq hcomponents]
    rfl
  rw [hrun]
  by_cases hne : parts = []
  · -- The file is to be in the root or in the current directory.
    refine ⟨t, ?_, (Made.refl htree (along_nil.2 (htree.startOf p))).congr ?_⟩
    · rw [hne]
      cases p.isAbsolute <;> rfl
    · rw [← hparts, hne]
  · have hnames : Short parts := by
      intro name hname
      by_cases hstep : Path.isStep name = true
      · refine hshort name (List.mem_of_mem_filter (p := Path.isStep) ?_)
        rw [← hparts]
        exact List.mem_filter.2 ⟨hname, hstep⟩
      · simp only [Path.isStep, Bool.and_eq_true, bne_iff_ne] at hstep
        obtain rfl | rfl : name = [] ∨ name = ['.'] := by tauto
        · decide
        · decide
    obtain ⟨made, hmade, hadded⟩ := exists_makeFirst_prefixesOf htree hpath hinitial hnames
      ((along_congr hparts).2 hclear)
    refine ⟨made, ?_, hadded.congr hparts⟩
    rw [makeDirectories, Path.ancestors_ofComponents hne hinitial, hmade]

end

/-! ## §E Trees stay trees -/

/-- In the tree of a directory there are just the directories around it. -/
theorem find?_empty (current name : FullName) :
    (empty current).find? name = if name <+: current then some .directory else none := by
  have hlookup (names : List FullName) :
      (names.map fun n => (n, FileEntry.directory)).lookup name =
        if name ∈ names then some .directory else none := by
    induction names with
    | nil => rfl
    | cons n names ih =>
      rw [List.map_cons, List.lookup_cons, ih]
      by_cases hname : name = n
      · simp [hname]
      · simp [hname, beq_false_of_ne hname]
  by_cases hroot : name = []
  · simp [find?, hroot]
  · have hmem : name ∈ (List.range current.length).map (fun n => current.take (n + 1)) ↔
        name <+: current := by
      rw [List.mem_map, List.prefix_iff_eq_take]
      constructor
      · rintro ⟨n, hn, rfl⟩
        rw [List.length_take, Nat.min_eq_left (List.mem_range.1 hn)]
      · intro hname
        have hpos : 0 < name.length := List.length_pos_iff.2 hroot
        have hle : name.length ≤ current.length := by
          rw [hname, List.length_take]
          exact Nat.min_le_right ..
        refine ⟨name.length - 1, List.mem_range.2 (by omega), ?_⟩
        rw [Nat.sub_add_cancel hpos, ← hname]
    have hentries : (empty current).entries =
        ((List.range current.length).map (fun n => current.take (n + 1))).map
          fun n => (n, FileEntry.directory) := by
      rw [List.map_map]
      rfl
    simp only [find?, if_neg hroot, hentries, hlookup, hmem]

theorem isTree_empty (current : FullName) : (empty current).IsTree := by
  constructor
  · rw [find?_empty]
    exact if_pos List.prefix_rfl
  · intro name part h
    rw [find?_empty] at h ⊢
    split at h
    case isTrue hinitial => rw [if_pos ((List.prefix_append name [part]).trans hinitial)]
    case isFalse => cases h

theorem IsTree.makeDirectory (h : t.IsTree) {p : Path} (hmade : t.makeDirectory p = .ok t') :
    t'.IsTree := by
  unfold FileTree.makeDirectory at hmade
  cases hname : t.directoryName p with
  | error e =>
    rw [hname] at hmade
    cases hmade
  | ok name =>
    rw [hname] at hmade
    obtain rfl := Except.ok.inj hmade
    obtain ⟨part, separator, hreaches, -⟩ := reaches_of_directoryName hname
    obtain ⟨before, here, -, -, hhere, rfl⟩ := hreaches.place
    exact h.insert hhere (.inl rfl)

theorem IsTree.makeFirst (h : t.IsTree) (ps : List Path) : (t.makeFirst ps).2.IsTree := by
  fun_induction FileTree.makeFirst t ps with
  | case1 => exact h
  | case2 p ps made hmade => exact h.makeDirectory hmade
  | case3 p ps _ e rest hrest ih =>
    rw [hrest] at ih
    exact ih
  | case4 p ps _ rest hrest made hmade ih =>
    rw [hrest] at ih
    exact ih.makeDirectory hmade
  | case5 p ps _ rest hrest e he ih =>
    rw [hrest] at ih
    exact ih
  | case6 => exact h

theorem IsTree.write (h : t.IsTree) {p : Path} {bytes : ByteArray}
    (hwrite : t.write p bytes = .ok t') : t'.IsTree := by
  obtain ⟨name, hname, rfl⟩ := fileName_of_write hwrite
  obtain ⟨part, hreaches, hfile⟩ := reaches_of_fileName hname
  obtain ⟨before, here, -, -, hhere, rfl⟩ := hreaches.place
  exact h.insert hhere (.inr hfile)

/-! ## §F Putting a file -/

/-- Where a path leads, told from its parts alone. -/
def place (t : FileTree) (p : Path) : FullName := p.split.foldl enter (t.startOf p)

/-- **`Admits t p`** -- a file can be put where the path leads, when the directories on the way are
made first. -/
structure Admits (t : FileTree) (p : Path) : Prop where
  /-- The path is not empty, not too long, and has no null character. -/
  usable : checkPath p = .ok ()
  short : Short p.split
  /-- It ends in a name, neither in a separator nor in dots. -/
  named : ∀ part ∈ p.split.getLast?, part ≠ [] ∧ ¬ isDots part = true
  /-- No file is on its way. -/
  clear : t.Clear (t.startOf p) p.split.dropLast
  /-- It does not lead back to a directory on its way. -/
  noReturn : Along (· ≠ t.place p) (t.startOf p) p.split.dropLast
  noDirectory : t.find? (t.place p) ≠ some .directory

section

variable {p : Path} (hsplit : p.split = before ++ [part]) (hpart : part ≠ [])
  (hdots : ¬ isDots part = true)
include hsplit hpart hdots

theorem place_of_split : t.place p = before.foldl enter (t.startOf p) ++ [part] := by
  rw [place, hsplit, foldl_enter_concat hpart hdots]

/-- With all directories there, a file goes to its place, unless that is a directory. -/
theorem fileName_of_passes (hpath : checkPath p = .ok ()) (hshort : Short (before ++ [part]))
    (hpasses : t.Passes (t.startOf p) before) (hother : t.find? (t.place p) ≠ some .directory) :
    t.fileName p = .ok (t.place p) := by
  have hfollow := follow_of_passes hpasses fun name hname => hshort name (by simp [hname])
  have hhere := checkDirectory_eq_ok_iff.2 (hpasses before List.prefix_rfl)
  rw [place_of_split hsplit hpart hdots] at hother ⊢
  have hfree : ((t.find? (before.foldl enter (t.startOf p) ++ [part])).any
      FileEntry.isDirectory) = false := by
    cases hfind : t.find? (before.foldl enter (t.startOf p) ++ [part]) with
    | none => rfl
    | some e =>
      cases e with
      | directory => exact absurd hfind hother
      | file bytes => rfl
  simp only [fileName, hpath, lastPart?_of_split hsplit hpart, hfollow, hhere, hfree, hdots,
    hshort part (by simp), bind, Except.bind, or_self, if_false, Bool.false_eq_true]

end

/-- **What admits a file** takes one, once the directories on the way are made. -/
theorem Admits.exists_fileName {p : Path} (h : t.Admits p) (htree : t.IsTree) :
    ∃ made name, FileTree.files.withParent p t = (.ok (), made) ∧ made.fileName p = .ok name := by
  obtain ⟨before, part, hsplit⟩ :=
    (List.eq_nil_or_concat p.split).resolve_left (Path.split_ne_nil p)
  rw [List.concat_eq_append] at hsplit
  have hbefore : p.split.dropLast = before := by rw [hsplit, List.dropLast_concat]
  obtain ⟨hempty, hdots⟩ := h.named part (by rw [hsplit]; simp)
  have hclear := h.clear
  have hreturn := h.noReturn
  have hshort := h.short
  rw [hbefore] at hclear hreturn
  rw [hsplit] at hshort
  have hpart : Path.isStep part = true := by
    simp only [isDots, Bool.or_eq_true, beq_iff_eq, not_or] at hdots
    simp [Path.isStep, hempty, hdots.1]
  obtain ⟨made, hrun, hmade⟩ := exists_withParent htree h.usable hsplit hpart
    (fun name hname => hshort name (by simp [hname])) hclear
  have hstart : made.startOf p = t.startOf p := startOf_congr hmade.adds.current_eq p
  have hplace : made.place p = t.place p := by rw [place, place, hstart]
  refine ⟨made, made.place p, hrun,
    fileName_of_passes hsplit hempty hdots h.usable hshort (hstart ▸ hmade.passes) ?_⟩
  -- The place is none of the directories that were made.
  rw [hplace, hmade.only _ hreturn]
  exact h.noDirectory

/-- **A path that takes a file**, when only directories were added, admits one. -/
theorem AddsDirectories.admits {p : Path} {name : FullName} (h : AddsDirectories t t')
    (hname : t'.fileName p = .ok name) : t.Admits p := by
  obtain ⟨part, hreaches, hfile⟩ := reaches_of_fileName hname
  obtain ⟨before, here, hlast, hfollow, hhere, rfl⟩ := hreaches.place
  obtain ⟨hempty, -⟩ := exists_split_of_lastPart? hlast
  have hsplit := split_of_lastPart? hlast
  have hbefore : p.split.dropLast = before := by rw [hsplit, List.dropLast_concat]
  rw [startOf_congr h.current_eq p] at hfollow
  obtain ⟨hpasses, hnames⟩ := passes_of_follow hfollow hhere
  have hplace : t.place p = here ++ [part] := by
    rw [place_of_split hsplit hempty hreaches.not_dots, ← eq_foldl_of_follow_eq_ok hfollow]
  refine ⟨hreaches.checked, ?_, ?_, ?_, ?_, ?_⟩
  · intro next hnext
    rw [hsplit] at hnext
    rcases List.mem_append.1 hnext with hnext | hnext
    · exact hnames next hnext
    · obtain rfl := List.mem_singleton.1 hnext
      exact hreaches.short
  · intro next hnext
    rw [hsplit, List.getLast?_concat] at hnext
    obtain rfl := Option.some.inj hnext
    exact ⟨hempty, hreaches.not_dots⟩
  · rw [hbefore]
    refine hpasses.mono fun stop hstop bytes hbytes => ?_
    cases hstop.symm.trans (h.find?_eq hbytes)
  · rw [hbefore, hplace]
    refine hpasses.mono fun stop hstop heq => ?_
    exact hfile (heq ▸ hstop)
  · rw [hplace]
    exact fun hdirectory => hfile (h.find?_eq hdirectory)

end RtlLiterals.FileTree
