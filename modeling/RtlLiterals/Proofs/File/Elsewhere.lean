import Mathlib.Data.List.Infix
import RtlLiterals.File.Tree

/-!
# RtlLiterals.Proofs.File.Elsewhere -- trees that differ in one place

A path is followed one part after the other, and where it leads next depends on the part alone, not
on the tree: `enter` is that step. So the entries that a path goes over can be told without a tree
(`KeepsOff`). Two trees that are the same but for one name, and what is below it, are the same for
every path that keeps off this name: it leads to the same entry or fails alike, and making it as a
directory gives two such trees again.
-/

namespace RtlLiterals.FileTree

/-! ## §A Where a path goes -/

/-- Where one part of a path leads from an entry. -/
def enter (here : FullName) (part : Text) : FullName :=
  if part = [] ∨ part = ['.'] then here
  else if part = ['.', '.'] then here.dropLast
  else here ++ [part]

/-- One part of a path can be followed: it is no name, or the name is there. -/
def checkPart (t : FileTree) (here : FullName) (part : Text) : Except FileError Unit :=
  if part = [] ∨ part = ['.'] then .ok ()
  else if part = ['.', '.'] then .ok ()
  else if maxNameBytes < Text.byteLength part then .error .nameTooLong
  else if (t.find? (here ++ [part])).isNone then .error .notFound
  else .ok ()

theorem follow_cons (t : FileTree) (here : FullName) (part : Text) (rest : List Text) :
    t.follow here (part :: rest) =
      t.checkDirectory here >>= fun _ => t.checkPart here part >>= fun _ =>
        t.follow (enter here part) rest := by
  rw [follow]
  unfold checkPart enter
  by_cases hstay : part = [] ∨ part = ['.']
  · simp only [if_pos hstay]
    rfl
  by_cases hup : part = ['.', '.']
  · simp only [if_neg hstay, if_pos hup]
    rfl
  by_cases hlong : maxNameBytes < Text.byteLength part
  · simp only [if_neg hstay, if_neg hup, if_pos hlong]
    rfl
  simp only [if_neg hstay, if_neg hup, if_neg hlong]
  cases (t.find? (here ++ [part])).isNone <;> rfl

theorem eq_foldl_of_follow_eq_ok {t : FileTree} {here there : FullName} {parts : List Text}
    (h : t.follow here parts = .ok there) : there = parts.foldl enter here := by
  induction parts generalizing here with
  | nil => exact (Except.ok.inj h).symm
  | cons part rest ih =>
    rw [follow_cons] at h
    cases hdirectory : t.checkDirectory here with
    | error e =>
      rw [hdirectory] at h
      cases h
    | ok _ =>
      cases hpart : t.checkPart here part with
      | error e =>
        rw [hdirectory, hpart] at h
        cases h
      | ok _ =>
        rw [hdirectory, hpart] at h
        exact ih h

/-- **`KeepsOff name here parts`** -- a path with these parts, followed from `here`, never stands on
`name` nor below it. -/
def KeepsOff (name here : FullName) (parts : List Text) : Prop :=
  ∀ before, before <+: parts → ¬ name <+: before.foldl enter here

instance (name here : FullName) (parts : List Text) : Decidable (KeepsOff name here parts) :=
  decidable_of_iff (∀ before ∈ parts.inits, ¬ name <+: before.foldl enter here) <| by
    simp only [List.mem_inits]
    rfl

theorem KeepsOff.here {name here : FullName} {parts : List Text} (h : KeepsOff name here parts) :
    ¬ name <+: here :=
  h [] List.nil_prefix

theorem KeepsOff.shorten {name here : FullName} {parts parts' : List Text}
    (h : KeepsOff name here parts) (hparts : parts' <+: parts) : KeepsOff name here parts' := by
  intro before hbefore
  exact h before (hbefore.trans hparts)

theorem KeepsOff.tail {name here : FullName} {part : Text} {rest : List Text}
    (h : KeepsOff name here (part :: rest)) : KeepsOff name (enter here part) rest := by
  intro before hbefore
  exact h (part :: before) (List.cons_prefix_cons.2 ⟨rfl, hbefore⟩)

/-- Where the whole path leads. -/
theorem KeepsOff.foldl {name here : FullName} {parts : List Text} (h : KeepsOff name here parts) :
    ¬ name <+: parts.foldl enter here :=
  h parts List.prefix_rfl

/-! ## §B Trees that are the same but for one name -/

/-- **`SameBut name t t'`** -- the trees have the same entries, except at `name` and below it. -/
structure SameBut (name : FullName) (t t' : FileTree) : Prop where
  current_eq : t.current = t'.current
  find?_eq : ∀ other, ¬ name <+: other → t.find? other = t'.find? other

variable {name here : FullName} {t t' : FileTree}

theorem SameBut.checkDirectory_eq (h : SameBut name t t') (hoff : ¬ name <+: here) :
    t.checkDirectory here = t'.checkDirectory here := by
  unfold checkDirectory
  rw [h.find?_eq here hoff]

theorem SameBut.checkPart_eq (h : SameBut name t t') {part : Text}
    (hoff : ¬ name <+: enter here part) : t.checkPart here part = t'.checkPart here part := by
  unfold checkPart
  by_cases hstay : part = [] ∨ part = ['.']
  · rw [if_pos hstay, if_pos hstay]
  by_cases hup : part = ['.', '.']
  · rw [if_neg hstay, if_neg hstay, if_pos hup, if_pos hup]
  · unfold enter at hoff
    rw [if_neg hstay, if_neg hup] at hoff
    rw [h.find?_eq _ hoff]

/-- **The walk.** A path that keeps off the name goes the same way in both trees. -/
theorem SameBut.follow_eq (h : SameBut name t t') {parts : List Text}
    (hoff : KeepsOff name here parts) : t.follow here parts = t'.follow here parts := by
  induction parts generalizing here with
  | nil => rfl
  | cons part rest ih =>
    rw [follow_cons, follow_cons, h.checkDirectory_eq hoff.here, h.checkPart_eq hoff.tail.here,
      ih hoff.tail]

/-! ## §C Looking at files -/

theorem startOf_congr (h : t.current = t'.current) (p : Path) : t.startOf p = t'.startOf p := by
  unfold startOf
  rw [h]

theorem SameBut.startOf_eq (h : SameBut name t t') (p : Path) : t.startOf p = t'.startOf p :=
  startOf_congr h.current_eq p

theorem follow_of_resolve {p : Path} {there : FullName} (h : t.resolve p = .ok there) :
    t.follow (t.startOf p) p.split = .ok there := by
  unfold resolve at h
  cases hpath : checkPath p with
  | error e =>
    rw [hpath] at h
    cases h
  | ok _ =>
    cases hfollow : t.follow (t.startOf p) p.split with
    | error e =>
      rw [hpath, hfollow] at h
      cases h
    | ok found =>
      rw [hpath, hfollow] at h
      change (if (t.find? found).isSome then Except.ok found else
        .error FileError.notFound) = .ok there at h
      split at h
      · exact h
      · cases h

theorem KeepsOff.not_prefix_of_resolve {p : Path} {there : FullName}
    (h : KeepsOff name (t.startOf p) p.split) (hresolve : t.resolve p = .ok there) :
    ¬ name <+: there := by
  rw [eq_foldl_of_follow_eq_ok (follow_of_resolve hresolve)]
  exact h.foldl

theorem SameBut.resolve_eq (h : SameBut name t t') {p : Path}
    (hoff : KeepsOff name (t.startOf p) p.split) : t.resolve p = t'.resolve p := by
  unfold resolve
  rw [← h.startOf_eq, ← h.follow_eq hoff]
  cases hfollow : t.follow (t.startOf p) p.split with
  | error e => rfl
  | ok there =>
    have hthere : ¬ name <+: there := by
      rw [eq_foldl_of_follow_eq_ok hfollow]
      exact hoff.foldl
    simp only [bind, Except.bind, h.find?_eq there hthere]

theorem SameBut.isDirectory_eq (h : SameBut name t t') {p : Path}
    (hoff : KeepsOff name (t.startOf p) p.split) : t.isDirectory p = t'.isDirectory p := by
  unfold isDirectory
  rw [← h.resolve_eq hoff]
  cases hresolve : t.resolve p with
  | error e => rfl
  | ok there =>
    simp only [h.find?_eq there (hoff.not_prefix_of_resolve hresolve)]

theorem SameBut.read_eq (h : SameBut name t t') {p : Path}
    (hoff : KeepsOff name (t.startOf p) p.split) : t.read p = t'.read p := by
  unfold read
  rw [← h.resolve_eq hoff]
  cases hresolve : t.resolve p with
  | error e => rfl
  | ok there =>
    have hsame := h.find?_eq there (hoff.not_prefix_of_resolve hresolve)
    simp only [bind, Except.bind, hsame]

/-! ## §D Making directories -/

/-- The last part of a path stands in it, behind the others; only empty parts follow. -/
theorem exists_split_of_lastPart? {p : Path} {before : List Text} {part : Text} {separator : Bool}
    (h : lastPart? p = some (before, part, separator)) :
    part ≠ [] ∧ ∃ rest, p.split = before ++ part :: rest := by
  unfold lastPart? at h
  cases hdrop : p.split.reverse.dropWhile (· == []) with
  | nil =>
    simp only [hdrop] at h
    cases h
  | cons last others =>
    simp only [hdrop] at h
    cases h
    constructor
    · have hlast := List.head?_dropWhile_not (· == []) p.split.reverse
      rw [hdrop] at hlast
      simpa using hlast
    · have hparts := congrArg List.reverse
        (List.takeWhile_append_dropWhile (p := (· == [])) (l := p.split.reverse))
      rw [hdrop, List.reverse_reverse, List.reverse_append, List.reverse_cons,
        List.append_assoc] at hparts
      exact ⟨_, hparts.symm⟩

theorem enter_of_name {part : Text} (hpart : part ≠ []) (hdots : ¬ isDots part = true) :
    enter here part = here ++ [part] := by
  unfold isDots at hdots
  unfold enter
  simp_all

theorem SameBut.directoryName_eq (h : SameBut name t t') {p : Path}
    (hoff : KeepsOff name (t.startOf p) p.split) : t.directoryName p = t'.directoryName p := by
  unfold directoryName
  cases checkPath p with
  | error e => rfl
  | ok _ =>
    simp only [bind, Except.bind]
    cases hlast : lastPart? p with
    | none => rfl
    | some last =>
      obtain ⟨before, part, separator⟩ := last
      obtain ⟨hpart, rest, hsplit⟩ := exists_split_of_lastPart? hlast
      have hbefore : KeepsOff name (t.startOf p) before := by
        apply hoff.shorten
        rw [hsplit]
        exact List.prefix_append before (part :: rest)
      simp only [← h.startOf_eq, ← h.follow_eq hbefore]
      cases hfollow : t.follow (t.startOf p) before with
      | error e => rfl
      | ok here =>
        -- The path stands on `here`, and with the last part on the name of the directory.
        have hhere := eq_foldl_of_follow_eq_ok hfollow
        have hoffHere : ¬ name <+: here := by
          rw [hhere]
          exact hbefore.foldl
        simp only [← h.checkDirectory_eq hoffHere]
        by_cases hdots : isDots part = true
        · simp only [if_pos hdots]
        · have hoffPart : ¬ name <+: here ++ [part] := by
            have hnext := hoff (before ++ [part]) (by rw [hsplit]; simp)
            rw [List.foldl_append, ← hhere] at hnext
            rw [← enter_of_name hpart hdots]
            exact hnext
          simp only [h.find?_eq _ hoffPart]

theorem lookup_filter_ne {n other : FullName} (hne : other ≠ n)
    (entries : List (FullName × FileEntry)) :
    (entries.filter (·.1 != n)).lookup other = entries.lookup other := by
  induction entries with
  | nil => rfl
  | cons entry entries ih =>
    obtain ⟨key, e⟩ := entry
    by_cases hkey : key = n
    · subst hkey
      rw [List.filter_cons_of_neg (by simp), ih, List.lookup_cons, beq_false_of_ne hne]
    · rw [List.filter_cons_of_pos (by simpa using hkey), List.lookup_cons, List.lookup_cons, ih]

theorem find?_insert (t : FileTree) (n other : FullName) (e : FileEntry) :
    (t.insert n e).find? other =
      if other = [] then some .directory else if other = n then some e else t.find? other := by
  unfold insert find?
  by_cases hroot : other = []
  · rw [if_pos hroot, if_pos hroot]
  · rw [if_neg hroot, if_neg hroot, List.lookup_cons]
    by_cases hname : other = n
    · rw [if_pos hname, beq_iff_eq.2 hname]
    · rw [if_neg hname, if_neg hroot, beq_false_of_ne hname]
      exact lookup_filter_ne hname t.entries

theorem SameBut.insert (h : SameBut name t t') (n : FullName) (e : FileEntry) :
    SameBut name (t.insert n e) (t'.insert n e) := by
  constructor
  · exact h.current_eq
  · intro other hother
    rw [find?_insert, find?_insert, h.find?_eq other hother]

theorem SameBut.makeDirectory_cases (h : SameBut name t t') {p : Path}
    (hoff : KeepsOff name (t.startOf p) p.split) :
    (∃ e, t.makeDirectory p = .error e ∧ t'.makeDirectory p = .error e) ∨
      ∃ n, t.makeDirectory p = .ok (t.insert n .directory) ∧
        t'.makeDirectory p = .ok (t'.insert n .directory) := by
  unfold makeDirectory
  rw [← h.directoryName_eq hoff]
  cases t.directoryName p with
  | error e => exact .inl ⟨e, rfl, rfl⟩
  | ok n => exact .inr ⟨n, rfl, rfl⟩

theorem current_of_makeDirectory {p : Path} (h : t.makeDirectory p = .ok t') :
    t'.current = t.current := by
  unfold makeDirectory at h
  cases hname : t.directoryName p with
  | error e =>
    rw [hname] at h
    cases h
  | ok n =>
    rw [hname] at h
    cases h
    rfl

theorem current_makeFirst (t : FileTree) (ps : List Path) :
    (t.makeFirst ps).2.current = t.current := by
  fun_induction makeFirst t ps with
  | case1 => rfl
  | case2 p ps made hmade => exact current_of_makeDirectory hmade
  | case3 p ps _ e rest hrest ih =>
    rw [hrest] at ih
    exact ih
  | case4 p ps _ rest hrest made hmade ih =>
    rw [hrest] at ih
    exact (current_of_makeDirectory hmade).trans ih
  | case5 p ps _ rest hrest e he ih =>
    rw [hrest] at ih
    exact ih
  | case6 => rfl

theorem makeFirst_of_error {p : Path} {e : FileError} (h : t.makeDirectory p = .error e)
    (hother : e ≠ .notFound) (ps : List Path) :
    t.makeFirst (p :: ps) = (if t.isDirectory p then .ok () else .error e, t) := by
  unfold makeFirst
  cases e <;> simp_all

/-- **Making directories.** If the paths keep off the name, the same is made in both trees, and what
is made leaves them the same but for the name. -/
theorem SameBut.makeFirst_eq (h : SameBut name t t') {ps : List Path}
    (hoff : ∀ p ∈ ps, KeepsOff name (t.startOf p) p.split) :
    (t.makeFirst ps).1 = (t'.makeFirst ps).1 ∧
      SameBut name (t.makeFirst ps).2 (t'.makeFirst ps).2 := by
  induction ps with
  | nil => exact ⟨rfl, h⟩
  | cons p ps ih =>
    have hp := hoff p List.mem_cons_self
    rcases h.makeDirectory_cases hp with ⟨e, hmade, hmade'⟩ | ⟨n, hmade, hmade'⟩
    · by_cases hmissing : e = .notFound
      · -- A directory on the way is missing: the other paths come first.
        subst hmissing
        obtain ⟨hresult, hrest⟩ := ih fun q hq => hoff q (List.mem_cons_of_mem p hq)
        have hcurrent := current_makeFirst t ps
        unfold makeFirst
        simp only [hmade, hmade']
        rcases hrun : t.makeFirst ps with ⟨result, rest⟩
        rcases hrun' : t'.makeFirst ps with ⟨result', rest'⟩
        rw [hrun, hrun'] at hresult hrest
        rw [hrun] at hcurrent
        obtain rfl : result = result' := hresult
        cases result with
        | error e => exact ⟨rfl, hrest⟩
        | ok _ =>
          rw [← startOf_congr hcurrent p] at hp
          rcases hrest.makeDirectory_cases hp with ⟨e, hagain, hagain'⟩ | ⟨n, hagain, hagain'⟩
          · simp only [hagain, hagain']
            rw [hrest.isDirectory_eq hp]
            exact ⟨rfl, hrest⟩
          · simp only [hagain, hagain']
            exact ⟨trivial, hrest.insert n .directory⟩
      · rw [makeFirst_of_error hmade hmissing, makeFirst_of_error hmade' hmissing,
          h.isDirectory_eq hp]
        exact ⟨rfl, h⟩
    · unfold makeFirst
      simp only [hmade, hmade']
      exact ⟨trivial, h.insert n .directory⟩

/-- A directory and all directories on the way to it, made in both trees. -/
theorem SameBut.makeDirectories (h : SameBut name t t') {p : Path}
    (hoff : ∀ q ∈ p.ancestors, KeepsOff name (t.startOf q) q.split) :
    SameBut name (t.makeDirectories p).2 (t'.makeDirectories p).2 :=
  (h.makeFirst_eq hoff).2

end RtlLiterals.FileTree
