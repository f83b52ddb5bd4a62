import RtlLiterals.Path
import RtlLiterals.Proofs.Text.Offsets

/-!
# RtlLiterals.Proofs.Path.Components -- paths and their components

A path is cut at its separators. Of the parts between them those that name a step are kept, and with
them a `.` that the path starts with: these are its components. A path that is put together from the
first components of another one has just these components again, and it is no longer than that one.
-/

namespace RtlLiterals

namespace Path

/-! ## §A Parts -/

theorem split_cons (c : Char) (p : Path) :
    split (c :: p) = if c = '/' then [] :: split p
      else match split p with
        | [] => [[c]]
        | part :: rest => (c :: part) :: rest := rfl

theorem split_eq_splitOn (p : Path) : split p = p.splitOn '/' := by
  induction p with
  | nil => rfl
  | cons c p ih =>
    rw [split_cons, List.splitOn_cons_eq_if_modifyHead, ← ih]
    by_cases hc : c = '/'
    · rw [if_pos hc, if_pos (beq_iff_eq.2 hc)]
    · rw [if_neg hc, if_neg (mt beq_iff_eq.1 hc)]
      cases hsplit : split p with
      | nil => exact absurd (ih.symm.trans hsplit) (List.splitOn_ne_nil '/' p)
      | cons part rest => rfl

theorem split_ne_nil (p : Path) : split p ≠ [] := by
  rw [split_eq_splitOn]
  exact List.splitOn_ne_nil '/' p

/-- A separator parts what is before it from what is behind it. -/
theorem split_append_slash (p q : Path) : split (p ++ '/' :: q) = split p ++ split q := by
  simp only [split_eq_splitOn, List.splitOn_append_cons_self]

theorem split_of_notMem {p : Path} (h : '/' ∉ p) : split p = [p] := by
  rw [split_eq_splitOn, List.splitOn_eq_singleton h]

theorem notMem_of_mem_split {p : Path} {part : Text} (h : part ∈ split p) : '/' ∉ part := by
  rw [split_eq_splitOn] at h
  induction p generalizing part with
  | nil =>
    obtain rfl := List.mem_singleton.1 h
    exact List.not_mem_nil
  | cons c p ih =>
    obtain ⟨first, rest, hsplit⟩ := List.exists_cons_of_ne_nil (List.splitOn_ne_nil '/' p)
    rw [List.splitOn_cons_eq_if_modifyHead, hsplit] at h
    rw [hsplit] at ih
    by_cases hc : c = '/'
    · rw [if_pos (beq_iff_eq.2 hc)] at h
      rcases List.mem_cons.1 h with rfl | h
      · exact List.not_mem_nil
      · exact ih h
    · rw [if_neg (mt beq_iff_eq.1 hc)] at h
      rcases List.mem_cons.1 h with rfl | h
      · exact fun hmem => (List.mem_cons.1 hmem).elim (Ne.symm hc) (ih (List.mem_cons_self ..))
      · exact ih (List.mem_cons_of_mem first h)

theorem intercalate_split (p : Path) : List.intercalate ['/'] (split p) = p := by
  rw [split_eq_splitOn, List.intercalate_splitOn]

theorem split_intercalate {parts : List Text} (hne : parts ≠ [])
    (hparts : ∀ part ∈ parts, '/' ∉ part) : split (List.intercalate ['/'] parts) = parts := by
  rw [split_eq_splitOn, List.splitOn_intercalate '/' hparts hne]

/-- The paths that start at the root are those with an empty part before others. -/
theorem isAbsolute_iff {p : Path} :
    isAbsolute p = true ↔ ∃ rest, rest ≠ [] ∧ split p = [] :: rest := by
  rw [split_eq_splitOn]
  cases p with
  | nil => simp [isAbsolute]
  | cons c p =>
    obtain ⟨first, rest, hsplit⟩ := List.exists_cons_of_ne_nil (List.splitOn_ne_nil '/' p)
    rw [List.splitOn_cons_eq_if_modifyHead, hsplit]
    by_cases hc : c = '/' <;> simp [isAbsolute, hc]

/-! ## §B Components -/

/-- The part names a step from one directory to the next. -/
def isStep (part : Text) : Bool := part != [] && part != ['.']

/-- **Components** are the parts that are steps, and a `.` before them. -/
theorem components_cases (p : Path) :
    (∃ rest, split p = ['.'] :: rest ∧ components p = ['.'] :: rest.filter isStep) ∨
      (∀ rest, split p ≠ ['.'] :: rest) ∧ components p = (split p).filter isStep := by
  unfold components
  split
  case h_1 rest hsplit => exact .inl ⟨rest, hsplit, rfl⟩
  case h_2 hsplit => exact .inr ⟨hsplit, rfl⟩

theorem components_sublist (p : Path) : (components p).Sublist (split p) := by
  rcases components_cases p with ⟨rest, hsplit, hcomponents⟩ | ⟨-, hcomponents⟩
  · rw [hsplit, hcomponents]
    exact List.filter_sublist.cons_cons _
  · rw [hcomponents]
    exact List.filter_sublist

theorem ne_nil_of_mem_components {p : Path} {part : Text} (h : part ∈ components p) :
    part ≠ [] := by
  rcases components_cases p with ⟨rest, -, hcomponents⟩ | ⟨-, hcomponents⟩
  · rw [hcomponents] at h
    rcases List.mem_cons.1 h with rfl | h
    · exact List.cons_ne_nil _ _
    · rintro rfl
      exact absurd (List.mem_filter.1 h).2 (by decide)
  · rw [hcomponents] at h
    rintro rfl
    exact absurd (List.mem_filter.1 h).2 (by decide)

theorem notMem_of_mem_components {p : Path} {part : Text} (h : part ∈ components p) :
    '/' ∉ part :=
  notMem_of_mem_split ((components_sublist p).subset h)

/-- The components of a path that ends in a name. -/
theorem exists_components_eq {p : Path} {before : List Text} {part : Text}
    (h : split p = before ++ [part]) (hpart : isStep part = true) :
    ∃ parts, components p = parts ++ [part] ∧ parts.filter isStep = before.filter isStep := by
  rcases components_cases p with ⟨rest, hsplit, hcomponents⟩ | ⟨-, hcomponents⟩
  · cases before with
    | nil =>
      obtain ⟨rfl, -⟩ := List.cons.inj (hsplit.symm.trans h)
      exact absurd hpart (by decide)
    | cons first before =>
      obtain ⟨rfl, rfl⟩ := List.cons.inj (hsplit.symm.trans h)
      refine ⟨['.'] :: before.filter isStep, ?_, ?_⟩
      · rw [hcomponents]
        exact congrArg _ ((List.filter_append ..).trans
          (congrArg _ (List.filter_cons_of_pos hpart)))
      · rw [List.filter_cons, List.filter_cons, List.filter_filter]
        simp
  · refine ⟨before.filter isStep, ?_, ?_⟩
    · rw [hcomponents, h, List.filter_append, List.filter_cons_of_pos hpart]
      rfl
    · rw [List.filter_filter]
      simp

theorem parent?_eq {p : Path} {parts : List Text} {part : Text}
    (h : components p = parts ++ [part]) :
    parent? p = some (ofComponents (isAbsolute p) parts) := by
  unfold parent?
  rw [h]
  cases hparts : parts ++ [part] with
  | nil => simp at hparts
  | cons first rest =>
    change some (ofComponents (isAbsolute p) (first :: rest).dropLast) = _
    rw [← hparts, List.dropLast_concat]

/-! ## §C Paths with given components -/

/-- The parts before the components of a path: an empty one if it starts at the root. -/
def lead (absolute : Bool) : List Text := if absolute then [[]] else []

theorem filter_lead (absolute : Bool) (parts : List Text) :
    (lead absolute ++ parts).filter isStep = parts.filter isStep := by
  cases absolute <;> rfl

section

variable {p : Path} {parts : List Text} (hne : parts ≠ [])
include hne

theorem split_ofComponents (absolute : Bool) (hparts : ∀ part ∈ parts, '/' ∉ part) :
    split (ofComponents absolute parts) = lead absolute ++ parts := by
  cases absolute with
  | false => exact split_intercalate hne hparts
  | true =>
    exact (split_append_slash [] (List.intercalate ['/'] parts)).trans
      (congrArg ([[]] ++ ·) (split_intercalate hne hparts))

theorem isAbsolute_ofComponents (absolute : Bool)
    (hparts : ∀ part ∈ parts, part ≠ [] ∧ '/' ∉ part) :
    isAbsolute (ofComponents absolute parts) = absolute := by
  have hsplit := split_ofComponents hne absolute fun part hpart => (hparts part hpart).2
  cases absolute with
  | true => exact isAbsolute_iff.2 ⟨parts, hne, hsplit⟩
  | false =>
    rw [← Bool.not_eq_true]
    intro habsolute
    obtain ⟨rest, -, hrest⟩ := isAbsolute_iff.1 habsolute
    have hmem : [] ∈ parts := by
      rw [show parts = [] :: rest from hsplit.symm.trans hrest]
      exact List.mem_cons_self ..
    exact (hparts [] hmem).1 rfl

theorem ofComponents_ne_nil {absolute : Bool} (hparts : ∀ part ∈ parts, part ≠ []) :
    ofComponents absolute parts ≠ [] := by
  obtain ⟨first, rest, rfl⟩ := List.exists_cons_of_ne_nil hne
  have hfirst := hparts first (List.mem_cons_self ..)
  by_cases hrest : rest = []
  · simp [ofComponents, hrest, hfirst]
  · simp [ofComponents, List.intercalate_cons_of_ne_nil hrest]

/-- **The first components** of a path are the components of the path that is made of them. -/
theorem components_ofComponents (hinitial : parts <+: components p) :
    components (ofComponents (isAbsolute p) parts) = parts := by
  have hsplit := split_ofComponents hne (isAbsolute p)
    fun part hpart => notMem_of_mem_components (hinitial.subset hpart)
  rcases components_cases p with ⟨rest, hdot, hcomponents⟩ | ⟨-, hcomponents⟩
  · obtain ⟨first, tail, rfl⟩ := List.exists_cons_of_ne_nil hne
    rw [hcomponents] at hinitial
    obtain ⟨rfl, htail⟩ := List.cons_prefix_cons.1 hinitial
    have hrelative : isAbsolute p = false := by
      rw [← Bool.not_eq_true]
      intro habsolute
      obtain ⟨rest', -, hrest⟩ := isAbsolute_iff.1 habsolute
      cases hdot.symm.trans hrest
    have hsteps : tail.filter isStep = tail :=
      List.filter_eq_self.2 fun part hpart => (List.mem_filter.1 (htail.subset hpart)).2
    rw [hrelative] at hsplit ⊢
    rw [components, show split (ofComponents false (['.'] :: tail)) = ['.'] :: tail from hsplit]
    exact congrArg _ hsteps
  · rw [hcomponents] at hinitial
    have hall : ∀ part ∈ parts, isStep part = true :=
      fun part hpart => (List.mem_filter.1 (hinitial.subset hpart)).2
    have hsteps : (lead (isAbsolute p) ++ parts).filter isStep = parts :=
      (filter_lead ..).trans (List.filter_eq_self.2 hall)
    rcases components_cases (ofComponents (isAbsolute p) parts) with ⟨rest, hdot, -⟩ | ⟨-, h⟩
    · -- Neither an empty part nor a step is a dot.
      have hmem : ['.'] ∈ parts := by
        rw [hsplit] at hdot
        cases habsolute : isAbsolute p with
        | true =>
          rw [habsolute] at hdot
          cases hdot
        | false =>
          rw [habsolute] at hdot
          rw [show parts = ['.'] :: rest from hdot]
          exact List.mem_cons_self ..
      exact absurd (hall _ hmem) (by decide)
    · rw [h, hsplit, hsteps]

theorem ancestors_ofComponents (hinitial : parts <+: components p) :
    ancestors (ofComponents (isAbsolute p) parts) = prefixesOf (isAbsolute p) parts.reverse := by
  have habsolute := isAbsolute_ofComponents hne (isAbsolute p) fun part hpart =>
    ⟨ne_nil_of_mem_components (hinitial.subset hpart),
      notMem_of_mem_components (hinitial.subset hpart)⟩
  obtain ⟨before, part, hparts⟩ := (List.eq_nil_or_concat parts).resolve_left hne
  rw [List.concat_eq_append] at hparts
  subst hparts
  rw [ancestors, components_ofComponents hne hinitial, habsolute]
  cases hparts : before ++ [part] with
  | nil => simp at hparts
  | cons first rest =>
    rw [← hparts]
    simp [prefixesOf]

end

/-! ## §D Lengths -/

theorem intercalate_sublist {α : Type} (between : List α) {parts parts' : List (List α)}
    (h : parts.Sublist parts') :
    (List.intercalate between parts).Sublist (List.intercalate between parts') := by
  induction h with
  | slnil => exact List.Sublist.refl _
  | @cons parts parts' part h ih =>
    by_cases hlast : parts' = []
    · subst hlast
      obtain rfl := List.sublist_nil.1 h
      exact List.nil_sublist _
    · rw [List.intercalate_cons_of_ne_nil hlast]
      exact ih.trans (List.sublist_append_right _ _)
  | @cons_cons parts parts' part h ih =>
    by_cases hlast : parts' = []
    · subst hlast
      obtain rfl := List.sublist_nil.1 h
      exact List.Sublist.refl _
    · rw [List.intercalate_cons_of_ne_nil hlast]
      by_cases hone : parts = []
      · rw [hone, List.intercalate_singleton]
        exact (List.sublist_append_left _ _).trans (List.sublist_append_left _ _)
      · rw [List.intercalate_cons_of_ne_nil hone]
        exact (List.Sublist.refl _).append ih

/-- A path that is made of components of another one is part of that one. -/
theorem ofComponents_sublist {p : Path} {parts : List Text} (h : parts.Sublist (components p)) :
    (ofComponents (isAbsolute p) parts).Sublist p := by
  have hparts := h.trans (components_sublist p)
  cases habsolute : isAbsolute p with
  | false =>
    have hsublist := intercalate_sublist ['/'] hparts
    rw [intercalate_split] at hsublist
    exact hsublist
  | true =>
    obtain ⟨rest, hne, hsplit⟩ := isAbsolute_iff.1 habsolute
    rw [hsplit] at hparts
    have hrest : parts.Sublist rest := by
      -- No component is empty, so the part before the root's separator is none of them.
      cases hparts with
      | cons _ hrest => exact hrest
      | cons_cons => exact absurd rfl (ne_nil_of_mem_components (h.subset (List.mem_cons_self ..)))
    have hp : p = '/' :: List.intercalate ['/'] rest := by
      have hjoined := intercalate_split p
      rw [hsplit, List.intercalate_cons_of_ne_nil hne] at hjoined
      exact hjoined.symm
    rw [hp]
    exact (intercalate_sublist ['/'] hrest).cons_cons '/'

end Path

theorem Text.byteLength_le_of_sublist {t t' : Text} (h : t.Sublist t') :
    byteLength t ≤ byteLength t' := by
  induction h with
  | slnil => exact Nat.le_refl 0
  | cons c _ ih =>
    rw [byteLength_cons]
    omega
  | cons_cons c _ ih =>
    rw [byteLength_cons, byteLength_cons]
    omega

end RtlLiterals
