import RtlLiterals.Proofs.Yaml.PlainScalar

/-!
# RtlLiterals.Proofs.Yaml.SingleQuoted -- scalars in single quotes are read back

Between single quotes a quote is written twice, and a line is indented after a break. The breaks
here are separators of lines and of paragraphs, which stand for themselves; spaces beside them would
be lost, so a text with such spaces is not written in this style.

## §A How it goes

What was passed since the last word is a text `w`: spaces on one line, or separators. `Gap.Holds`
says what gap the reader keeps of it, and `Gap.Before` is the invariant between two characters,
which each of them preserves (`singleQuoted_step`). The induction over the text is
`singleQuoted_write`.
-/

namespace RtlLiterals.Yaml

/-! ## §B Gaps -/

/-- **`g.Holds w broken`** -- the gap was made by the text `w`: blanks on one line, or separators
and any indentation after them. -/
inductive Gap.Holds : Gap → Text → (broken : Bool) → Prop
  | blanks (w : Text) : Holds (.ofBlanks w) w false
  | breaks {b : Char} (more : Text) : b ≠ '\n' → Holds ⟨[], true, [b], more⟩ (b :: more) true

namespace Gap.Holds

variable {g : Gap} {w : Text} {broken : Bool}

/-- A gap stands for the text that made it. -/
theorem content_eq (h : g.Holds w broken) : g.content = w := by
  cases h with
  | blanks => rfl
  | breaks more hb =>
    rw [content, if_pos rfl, fold, if_neg (by simp [hb])]
    rfl

theorem push_space (h : g.Holds w false) (rest : Text) :
    (g.push ' ' rest).Holds (w ++ [' ']) false := by
  cases h with
  | blanks => exact .blanks _

/-- Indentation after a break adds nothing. -/
theorem push_indentation (h : g.Holds w true) (rest : Text) : g.push ' ' rest = g := by
  cases h with
  | breaks more hb => rfl

theorem push_break {c : Char} (h : g.Holds w broken) (hw : broken = false → w = [])
    (hp : isPrintable c = true) (hb : isBreak c = true) (hc : c ≠ '\n') (rest : Text) :
    (g.push c rest).Holds (w ++ [c]) true := by
  have hblank : isBlank c = false := by
    rcases isBreak_of_isPrintable hp hb with rfl | rfl | rfl <;> decide
  have hbreak := breakText_of_isPrintable hp hb
  rw [push, if_neg (by simp [hblank]), if_neg (by simp [joinsNext_of_isPrintable hp]), hbreak]
  cases h with
  | blanks w =>
    obtain rfl := hw rfl
    exact .breaks [] hc
  | breaks more hb => exact .breaks (more ++ [c]) hb

end Gap.Holds

/-! ## §C Reading -/

theorem singleQuoted_spaces {g : Gap} {w : Text} (h : g.Holds w true) (n : Nat) (start : Mark)
    (t : Text) (m : Mark) (read : Text) :
    singleQuoted start (spaces n ++ t) m read g =
      singleQuoted start t (m.along (spaces n)) read g := by
  induction n generalizing m with
  | zero => rfl
  | succ n ih =>
    rw [spaces_succ, List.cons_append, singleQuoted, if_pos (by decide), h.push_indentation, ih,
      Mark.along_cons (by decide)]

/-- The indentation that a writer puts before a word, if it starts a line. -/
theorem singleQuoted_indentation {g : Gap} {w : Text} {broken : Bool} (h : g.Holds w broken)
    {indent : Nat} (hindent : 0 < indent) (start : Mark) (t : Text) (m : Mark) (read : Text)
    (hpos : broken = false → 0 < m.column) :
    ∃ m', 0 < m'.column ∧
      singleQuoted start ((if broken then spaces indent else []) ++ t) m read g =
        singleQuoted start t m' read g := by
  cases broken with
  | false => exact ⟨m, hpos rfl, rfl⟩
  | true =>
    refine ⟨m.along (spaces indent), ?_, ?_⟩
    · rw [Mark.column_along, length_spaces]
      omega
    · rw [if_pos rfl, singleQuoted_spaces h]

/-- The closing quote. -/
theorem singleQuoted_close {g : Gap} {w : Text} {broken : Bool} (h : g.Holds w broken)
    {rest : Text} (hrest : rest.head? ≠ some '\x27') (start : Mark) {m : Mark}
    (hpos : 0 < m.column) (read : Text) :
    singleQuoted start ('\x27' :: rest) m read g =
      .ok (read.reverse ++ w, ⟨rest, m.step '\x27' rest⟩) := by
  rw [singleQuoted, if_neg (by decide), Cursor.atMarker_of_column_pos hpos, if_neg (by simp),
    h.content_eq]
  cases rest with
  | nil => simp
  | cons d rest =>
    have hd : d ≠ '\x27' := by simpa using hrest
    simp [hd]

/-- A character of a word, which a quote in it is too. -/
theorem singleQuoted_word {g : Gap} {w : Text} {broken : Bool} (h : g.Holds w broken) {c : Char}
    (hc : isGap c = false) (start : Mark) (t : Text) {m : Mark} (hpos : 0 < m.column)
    (read : Text) :
    ∃ m', 0 < m'.column ∧
      singleQuoted start ((if c == '\x27' then ['\x27', '\x27'] else [c]) ++ t) m read g =
        singleQuoted start t m' (c :: (w.reverse ++ read)) .none := by
  have hbreak := (isGap_eq_false_iff.1 hc).2
  by_cases hquote : c = '\x27'
  · subst hquote
    refine ⟨(m.step '\x27' ('\x27' :: t)).step '\x27' t, ?_, ?_⟩
    · rw [Mark.column_step hbreak]
      omega
    · rw [if_pos (by simp), List.cons_append, singleQuoted, if_neg (by decide),
        Cursor.atMarker_of_column_pos hpos, if_neg (by simp), h.content_eq]
      rfl
  · refine ⟨m.step c t, ?_, ?_⟩
    · rw [Mark.column_step hbreak]
      omega
    · rw [if_neg (by simp [hquote]), List.cons_append, List.nil_append, singleQuoted,
        if_neg (by simp [hc]), Cursor.atMarker_of_column_pos hpos, if_neg (by simp), h.content_eq]
      simp [hquote]

/-- What is read in single quotes ends on no earlier line. -/
theorem singleQuoted_line_le {start : Mark} {t : Text} {m : Mark} {read : Text} {g : Gap}
    {content : Text} {k : Cursor} (h : singleQuoted start t m read g = .ok (content, k)) :
    m.line ≤ k.mark.line := by
  fun_induction singleQuoted start t m read g with
  | case1 => cases h
  | case2 c t m read g hgap ih => exact Nat.le_trans (m.line_le_step c t) (ih h)
  | case3 => cases h
  | case4 c m read g hgap joined hquote u hmarker ih =>
    exact Nat.le_trans (m.line_le_step _ _) (Nat.le_trans (Mark.line_le_step _ _ _) (ih h))
  | case5 c t m read g hgap hmarker joined hquote hnext =>
    cases h
    exact m.line_le_step c t
  | case6 c t m read g hgap hmarker joined hquote ih =>
    exact Nat.le_trans (m.line_le_step c t) (ih h)

/-! ## §D One character -/

/-- **`SingleQuotable u`** -- the text may stand between single quotes: it has no line feeds, and no
spaces beside its separators. -/
structure SingleQuotable (u : Text) : Prop where
  printable : ∀ c ∈ u, isPrintable c = true
  no_feed : '\n' ∉ u
  no_space_break : hasNeighbours isSpace isBreak u = false
  no_break_space : hasNeighbours isBreak isSpace u = false

theorem SingleQuotable.tail {c : Char} {u : Text} (h : SingleQuotable (c :: u)) :
    SingleQuotable u where
  printable d hd := h.printable d (List.mem_cons_of_mem _ hd)
  no_feed hu := h.no_feed (List.mem_cons_of_mem _ hu)
  no_space_break := (Bool.or_eq_false_iff.1 h.no_space_break).2
  no_break_space := (Bool.or_eq_false_iff.1 h.no_break_space).2

/-- **`g.Before w broken m u`** -- reading stands before the text `u` at the place `m`, and the gap
was made by the text `w`, which no space or break of `u` spoils. -/
structure Gap.Before (g : Gap) (w : Text) (broken : Bool) (m : Mark) (u : Text) : Prop where
  holds : g.Holds w broken
  /-- Within a line no marker of a document is met. -/
  column_pos : broken = false → 0 < m.column
  no_break : broken = false → w ≠ [] → u.head?.any isBreak = false
  no_space : broken = true → u.head?.any isSpace = false

theorem Gap.before_none {m : Mark} (hm : 0 < m.column) (u : Text) :
    Gap.none.Before [] false m u where
  holds := .blanks []
  column_pos _ := hm
  no_break _ h := absurd rfl h
  no_space h := Bool.noConfusion h

section

variable {g : Gap} {w : Text} {broken : Bool} {m : Mark} {c : Char} {u : Text}
  (hg : g.Before w broken m (c :: u)) (indent : Nat) (start : Mark) (t read : Text)
include hg

/-- A character of a word follows the gap. -/
theorem singleQuoted_char (hindent : 0 < indent) (hc : isGap c = false) :
    ∃ m', 0 < m'.column ∧
      singleQuoted start (writeSingleQuoted indent (c :: u) broken ++ t) m read g =
        singleQuoted start (writeSingleQuoted indent u false ++ t) m' (c :: (w.reverse ++ read))
          .none := by
  obtain ⟨m₁, hm₁, hindentation⟩ := singleQuoted_indentation hg.holds hindent start
    ((if c == '\x27' then ['\x27', '\x27'] else [c]) ++ (writeSingleQuoted indent u false ++ t)) m
    read hg.column_pos
  obtain ⟨m₂, hm₂, hword⟩ := singleQuoted_word hg.holds hc start
    (writeSingleQuoted indent u false ++ t) hm₁ read
  refine ⟨m₂, hm₂, ?_⟩
  rw [writeSingleQuoted, if_neg (by simp [(isGap_eq_false_iff.1 hc).2]), List.append_assoc,
    List.append_assoc, hindentation, hword]

variable (hu : SingleQuotable (c :: u))
include hu

/-- A break joins the gap, and no space follows it. -/
theorem singleQuoted_break (hc : isBreak c = true) :
    ∃ m' g', g'.Before (w ++ [c]) true m' u ∧
      singleQuoted start (writeSingleQuoted indent (c :: u) broken ++ t) m read g =
        singleQuoted start (writeSingleQuoted indent u true ++ t) m' read g' := by
  have hw : broken = false → w = [] := fun hbroken => Decidable.byContradiction fun hw => by
    have hbreak := hg.no_break hbroken hw
    rw [List.head?_cons, Option.any_some, hc] at hbreak
    cases hbreak
  have hfeed : c ≠ '\n' := fun h => hu.no_feed (h ▸ List.mem_cons_self ..)
  have hgap : isGap c = true := by rw [isGap, hc, Bool.or_true]
  have hspace : u.head?.any isSpace = false := by
    have h := (Bool.or_eq_false_iff.1 hu.no_break_space).1
    rwa [hc, Bool.true_and] at h
  refine ⟨m.step c (writeSingleQuoted indent u true ++ t),
    g.push c (writeSingleQuoted indent u true ++ t), ⟨?_, Bool.noConfusion, Bool.noConfusion,
      fun _ => hspace⟩, ?_⟩
  · exact hg.holds.push_break hw (hu.printable c (List.mem_cons_self ..)) hc hfeed _
  · rw [writeSingleQuoted, if_pos hc, List.cons_append, singleQuoted, if_pos hgap]

/-- A space joins the gap of its line. -/
theorem singleQuoted_space (hc : c = ' ') :
    ∃ m' g', g'.Before (w ++ [c]) false m' u ∧
      singleQuoted start (writeSingleQuoted indent (c :: u) broken ++ t) m read g =
        singleQuoted start (writeSingleQuoted indent u false ++ t) m' read g' := by
  subst hc
  cases broken with
  | true => exact absurd (hg.no_space rfl) (by simp [isSpace])
  | false =>
    have hbreak : u.head?.any isBreak = false := by
      have h := (Bool.or_eq_false_iff.1 hu.no_space_break).1
      rwa [show isSpace ' ' = true from rfl, Bool.true_and] at h
    refine ⟨m.step ' ' (writeSingleQuoted indent u false ++ t),
      g.push ' ' (writeSingleQuoted indent u false ++ t), ⟨hg.holds.push_space _, fun _ => ?_,
        fun _ _ => hbreak, Bool.noConfusion⟩, ?_⟩
    · rw [Mark.column_step (by decide)]
      omega
    · have htext : writeSingleQuoted indent (' ' :: u) false ++ t =
          ' ' :: (writeSingleQuoted indent u false ++ t) := by
        rw [writeSingleQuoted]
        rfl
      rw [htext, singleQuoted, if_pos (by decide)]

/-- **One character.** It goes into the gap or to what was read, and what follows is read alike. -/
theorem singleQuoted_step (hindent : 0 < indent) :
    ∃ m' read' g' w' broken', g'.Before w' broken' m' u ∧
      read'.reverse ++ w' = read.reverse ++ w ++ [c] ∧
      singleQuoted start (writeSingleQuoted indent (c :: u) broken ++ t) m read g =
        singleQuoted start (writeSingleQuoted indent u broken' ++ t) m' read' g' := by
  by_cases hbreak : isBreak c = true
  · obtain ⟨m', g', hg', hread⟩ := singleQuoted_break hg indent start t read hu hbreak
    exact ⟨m', read, g', w ++ [c], true, hg', (List.append_assoc ..).symm, hread⟩
  · by_cases hblank : isBlank c = true
    · have hspace := eq_space_of_isBlank (hu.printable c (List.mem_cons_self ..)) hblank
      obtain ⟨m', g', hg', hread⟩ := singleQuoted_space hg indent start t read hu hspace
      exact ⟨m', read, g', w ++ [c], false, hg', (List.append_assoc ..).symm, hread⟩
    · have hgap : isGap c = false :=
        isGap_eq_false_iff.2 ⟨Bool.eq_false_iff.2 hblank, Bool.eq_false_iff.2 hbreak⟩
      obtain ⟨m', hm', hread⟩ := singleQuoted_char hg indent start t read hindent hgap
      exact ⟨m', c :: (w.reverse ++ read), .none, [], false, Gap.before_none hm' u, by simp, hread⟩

end

/-! ## §E The whole scalar -/

/-- **A scalar in single quotes.** The text that is left is read as it was written, behind the text
`w` that was passed since the last word. -/
theorem singleQuoted_write {indent : Nat} (hindent : 0 < indent) (start : Mark) {rest : Text}
    (hrest : rest.head? ≠ some '\x27') {u : Text} (hu : SingleQuotable u) (read : Text) {g : Gap}
    {w : Text} {broken : Bool} {m : Mark} (hg : g.Before w broken m u) :
    ∃ m', singleQuoted start (writeSingleQuoted indent u broken ++ '\x27' :: rest) m read g =
      .ok (read.reverse ++ w ++ u, ⟨rest, m'⟩) := by
  induction u generalizing read g w broken m with
  | nil =>
    obtain ⟨m', hm', hindentation⟩ :=
      singleQuoted_indentation hg.holds hindent start ('\x27' :: rest) m read hg.column_pos
    rw [writeSingleQuoted, hindentation, singleQuoted_close hg.holds hrest start hm',
      List.append_nil]
    exact ⟨_, rfl⟩
  | cons c u ih =>
    obtain ⟨m₁, read₁, g₁, w₁, broken₁, hg₁, hread₁, hstep⟩ :=
      singleQuoted_step hg indent start ('\x27' :: rest) read hu hindent
    obtain ⟨m', hread⟩ := ih hu.tail read₁ hg₁
    refine ⟨m', ?_⟩
    rw [hstep, hread, hread₁, List.append_assoc, List.singleton_append]

end RtlLiterals.Yaml
