import Mathlib.Algebra.Group.Nat.Defs
import RtlLiterals.Proofs.Yaml.PlainScalar

/-!
# RtlLiterals.Proofs.Yaml.DoubleQuoted -- scalars in double quotes are read back

Any text can be written between double quotes: a character that cannot stand there as it is has an
escape, and every escape is read as the character it was written for (`doubleQuoted_escape`). No
line break is left as it is, so the only gaps are spaces, which stand for themselves. Each character
of the text is one step (`doubleQuoted_step`), and the whole text an induction over them.
-/

namespace RtlLiterals.Yaml

/-! ## §A Characters -/

theorem escapedChar?_of_escapeLetter? {c d : Char} (h : escapeLetter? c = some d) :
    escapedChar? d = some c ∧ isBreak d = false := by
  have hc : Char.ofNat c.toNat = c := Char.ofNat_toNat c
  simp only [escapeLetter?] at h
  split at h
  all_goals
    rename_i hn
    first
      | cases h
        rw [hn] at hc
        subst hc
        exact ⟨rfl, rfl⟩
      | cases h

theorem isBreak_hexDigit {n : Nat} (h : n < 16) : isBreak (hexDigit true n) = false := by
  have hall : ∀ n : Fin 16, isBreak (hexDigit true n) = false := by decide
  exact hall ⟨n, h⟩

/-- A digit that is not the last one. -/
theorem doubleQuoted_digit {d : Nat} (hd : d < 16) {left : Nat} (hleft : 1 < left)
    (start first : Mark) (t : Text) {m : Mark} (hpos : 0 < m.column) (read : Text) (value : Nat) :
    ∃ m', 0 < m'.column ∧
      doubleQuoted start (hexDigit true d :: t) m read (.digits left value first) =
        doubleQuoted start t m' read (.digits (left - 1) (value * 16 + d) first) := by
  refine ⟨m.step (hexDigit true d) t, ?_, ?_⟩
  · rw [Mark.column_step (isBreak_hexDigit hd)]
    omega
  · simp only [doubleQuoted, Text.hexValue?_hexDigit true hd, if_pos hleft]

/-- The digits before the last ones, of which some are left. -/
theorem doubleQuoted_digits {k : Nat} (start first : Mark) {n : Nat} (hn : n < 16 ^ k) (t : Text)
    {m : Mark} (hpos : 0 < m.column) (read : Text) {left : Nat} (hleft : 0 < left) (value : Nat) :
    ∃ m', 0 < m'.column ∧
      doubleQuoted start (hexDigits k n ++ t) m read (.digits (k + left) value first) =
        doubleQuoted start t m' read (.digits left (value * 16 ^ k + n) first) := by
  induction k generalizing n t left with
  | zero =>
    obtain rfl : n = 0 := by simpa using hn
    refine ⟨m, hpos, ?_⟩
    rw [hexDigits, List.nil_append, Nat.zero_add, Nat.pow_zero, Nat.mul_one, Nat.add_zero]
  | succ k ih =>
    have hhigh : n / 16 < 16 ^ k := by
      rw [Nat.pow_succ] at hn
      omega
    obtain ⟨m', hm', hread⟩ := ih hhigh ([hexDigit true (n % 16)] ++ t) (show 0 < left + 1 by omega)
    obtain ⟨m'', hm'', hdigit⟩ := doubleQuoted_digit (d := n % 16) (by omega)
      (show 1 < left + 1 by omega) start first t hm' read (value * 16 ^ k + n / 16)
    refine ⟨m'', hm'', ?_⟩
    have hvalue : (value * 16 ^ k + n / 16) * 16 + n % 16 = value * 16 ^ (k + 1) + n := by
      rw [Nat.pow_succ, Nat.add_mul, Nat.mul_assoc]
      omega
    rw [hexDigits, List.append_assoc, Nat.add_assoc k 1, Nat.add_comm 1 left, hread,
      List.singleton_append, hdigit, hvalue, Nat.add_sub_cancel]

/-- **An escape by a number.** All digits of a character give the character. -/
theorem doubleQuoted_number {k : Nat} (start first : Mark) {c : Char} (hc : c.toNat < 16 ^ (k + 1))
    (t : Text) {m : Mark} (hpos : 0 < m.column) (read : Text) :
    ∃ m', 0 < m'.column ∧
      doubleQuoted start (hexDigits (k + 1) c.toNat ++ t) m read (.digits (k + 1) 0 first) =
        doubleQuoted start t m' (c :: read) (.text .none) := by
  have hhigh : c.toNat / 16 < 16 ^ k := by
    rw [Nat.pow_succ] at hc
    omega
  have hdigit : c.toNat % 16 < 16 := Nat.mod_lt _ (by decide)
  obtain ⟨m', hm', hread⟩ := doubleQuoted_digits start first hhigh ([hexDigit true (c.toNat % 16)] ++ t)
    hpos read Nat.one_pos 0
  have hvalue : (0 * 16 ^ k + c.toNat / 16) * 16 + c.toNat % 16 = c.toNat := by omega
  have hvalid : ¬ ((0xD800 ≤ c.toNat && c.toNat ≤ 0xDFFF) || 0x10FFFF < c.toNat) = true := by
    have hscalar : c.toNat.isValidChar := c.valid
    simp only [Nat.isValidChar] at hscalar
    simp only [Bool.or_eq_true, Bool.and_eq_true, decide_eq_true_eq]
    omega
  refine ⟨m'.step (hexDigit true (c.toNat % 16)) t, ?_, ?_⟩
  · rw [Mark.column_step (isBreak_hexDigit hdigit)]
    omega
  · rw [hexDigits, List.append_assoc, hread, List.singleton_append]
    simp only [doubleQuoted, Text.hexValue?_hexDigit true hdigit, hvalue, if_neg (Nat.lt_irrefl 1),
      if_neg hvalid, Char.ofNat_toNat]

/-- The letter after a backslash, when digits follow it. -/
theorem doubleQuoted_numberLetter {d : Char} {k : Nat} (hletter : escapedChar? d = none)
    (hdigits : escapeDigits? d = some k) (hbreak : isBreak d = false) (start backslash : Mark)
    (t : Text) (m : Mark) (read : Text) :
    doubleQuoted start (d :: t) m read (.escape backslash) =
      doubleQuoted start t (m.step d t) read (.digits k 0 (m.step d t)) := by
  simp only [doubleQuoted, hbreak, hletter, hdigits]
  rfl

/-- What follows the backslash of an escape. -/
theorem doubleQuoted_escaped {c : Char} {k : Nat} {d : Char} (hletter : escapedChar? d = none)
    (hdigits : escapeDigits? d = some (k + 1)) (hbreak : isBreak d = false)
    (hc : c.toNat < 16 ^ (k + 1)) (start backslash : Mark) (t : Text) (m : Mark) (read : Text) :
    ∃ m', 0 < m'.column ∧
      doubleQuoted start (d :: hexDigits (k + 1) c.toNat ++ t) m read (.escape backslash) =
        doubleQuoted start t m' (c :: read) (.text .none) := by
  have hpos : 0 < (m.step d (hexDigits (k + 1) c.toNat ++ t)).column := by
    rw [Mark.column_step hbreak]
    omega
  rw [List.cons_append, doubleQuoted_numberLetter hletter hdigits hbreak]
  exact doubleQuoted_number start _ hc t hpos read

/-- **An escape.** It is read as its character, and the spaces before it with it. -/
theorem doubleQuoted_escape (c : Char) (start : Mark) (t : Text) {m : Mark} (hpos : 0 < m.column)
    (read blanks : Text) :
    ∃ m', 0 < m'.column ∧
      doubleQuoted start (escape c ++ t) m read (.text (.ofBlanks blanks)) =
        doubleQuoted start t m' (c :: (blanks.reverse ++ read)) (.text .none) := by
  have hbackslash (u : Text) :
      doubleQuoted start ('\\' :: u) m read (.text (.ofBlanks blanks)) =
        doubleQuoted start u (m.step '\\' u) (blanks.reverse ++ read) (.escape m) := by
    simp only [doubleQuoted, Cursor.atMarker_of_column_pos (k := ⟨_, m⟩) hpos]
    rfl
  rw [escape]
  cases hletter : escapeLetter? c with
  | some d =>
    obtain ⟨hchar, hbreak⟩ := escapedChar?_of_escapeLetter? hletter
    refine ⟨(m.step '\\' (d :: t)).step d t, ?_, ?_⟩
    · rw [Mark.column_step hbreak]
      omega
    · simp only [List.cons_append, List.nil_append, hbackslash]
      simp only [doubleQuoted, hbreak, hchar]
      rfl
  | none =>
    have hscalar : c.toNat < 0x110000 := by
      have hvalid : c.toNat.isValidChar := c.valid
      simp only [Nat.isValidChar] at hvalid
      omega
    simp only
    split
    · rw [List.cons_append, hbackslash]
      exact doubleQuoted_escaped (k := 1) rfl rfl rfl (by omega) start m t _ _
    · split
      · rw [List.cons_append, hbackslash]
        exact doubleQuoted_escaped (k := 3) rfl rfl rfl (by omega) start m t _ _
      · rw [List.cons_append, hbackslash]
        exact doubleQuoted_escaped (k := 7) rfl rfl rfl (by omega) start m t _ _

/-- A character that needs no escape stands for itself; a space waits for what follows it. -/
theorem doubleQuoted_char {c : Char} (hc : needsEscape c = false) (start : Mark) (t : Text)
    {m : Mark} (hpos : 0 < m.column) (read blanks : Text) :
    ∃ m' read' blanks', 0 < m'.column ∧ read'.reverse ++ blanks' = read.reverse ++ blanks ++ [c] ∧
      doubleQuoted start (c :: t) m read (.text (.ofBlanks blanks)) =
        doubleQuoted start t m' read' (.text (.ofBlanks blanks')) := by
  simp only [needsEscape, Bool.or_eq_false_iff, Bool.not_eq_false', beq_eq_false_iff_ne] at hc
  obtain ⟨⟨⟨hprintable, hbreak⟩, hquote⟩, hbackslash⟩ := hc
  have hpos' : 0 < (m.step c t).column := by
    rw [Mark.column_step hbreak]
    omega
  by_cases hblank : isBlank c = true
  · obtain rfl := eq_space_of_isBlank hprintable hblank
    refine ⟨m.step ' ' t, read, blanks ++ [' '], hpos', (List.append_assoc ..).symm, ?_⟩
    rw [doubleQuoted, if_pos (by decide), Gap.push_space_ofBlanks]
  · have hgap : isGap c = false := isGap_eq_false_iff.2 ⟨Bool.eq_false_iff.2 hblank, hbreak⟩
    refine ⟨m.step c t, c :: (blanks.reverse ++ read), [], hpos', by simp, ?_⟩
    simp only [doubleQuoted, hgap, Cursor.atMarker_of_column_pos (k := ⟨_, m⟩) hpos, hquote,
      hbackslash, Gap.content_ofBlanks, Gap.ofBlanks_nil, Bool.false_eq_true, if_false, beq_iff_eq]

/-! ## §B The whole scalar -/

/-- What is read in double quotes ends on no earlier line. -/
theorem doubleQuoted_line_le {start : Mark} {t : Text} {m : Mark} {read : Text} {inside : Inside}
    {content : Text} {k : Cursor} (h : doubleQuoted start t m read inside = .ok (content, k)) :
    m.line ≤ k.mark.line := by
  induction t generalizing m read inside with
  | nil => cases inside <;> cases h
  | cons c t ih =>
    have hstep := m.line_le_step c t
    have hnext {read' : Text} {inside' : Inside}
        (h : doubleQuoted start t (m.step c t) read' inside' = .ok (content, k)) :
        m.line ≤ k.mark.line := Nat.le_trans hstep (ih h)
    cases inside with
    | text gap =>
      simp only [doubleQuoted] at h
      split at h
      · exact hnext h
      split at h
      · cases h
      split at h
      · cases h
        exact hstep
      split at h
      · exact hnext h
      · exact hnext h
    | escape backslash =>
      simp only [doubleQuoted] at h
      split at h
      · split at h
        · exact hnext h
        · exact hnext h
      split at h
      · exact hnext h
      split at h
      · exact hnext h
      · cases h
    | lineBreak => exact hnext h
    | digits left value first =>
      simp only [doubleQuoted] at h
      split at h
      · cases h
      split at h
      · exact hnext h
      split at h
      · cases h
      · exact hnext h

/-- **One character.** It is read from what is written for it. -/
theorem doubleQuoted_step (c : Char) (start : Mark) (t : Text) {m : Mark} (hpos : 0 < m.column)
    (read blanks : Text) :
    ∃ m' read' blanks', 0 < m'.column ∧ read'.reverse ++ blanks' = read.reverse ++ blanks ++ [c] ∧
      doubleQuoted start ((if needsEscape c then escape c else [c]) ++ t) m read
          (.text (.ofBlanks blanks)) =
        doubleQuoted start t m' read' (.text (.ofBlanks blanks')) := by
  cases hescape : needsEscape c with
  | true =>
    obtain ⟨m', hm', hread⟩ := doubleQuoted_escape c start t hpos read blanks
    exact ⟨m', c :: (blanks.reverse ++ read), [], hm', by simp, hread⟩
  | false => exact doubleQuoted_char hescape start t hpos read blanks

/-- **A scalar in double quotes.** The text that is left is read as it was written, behind the
spaces that were passed since the last word. -/
theorem doubleQuoted_write (start : Mark) (u rest : Text) {m : Mark} (hpos : 0 < m.column)
    (read blanks : Text) :
    ∃ m', doubleQuoted start (writeDoubleQuoted u ++ '\x22' :: rest) m read
        (.text (.ofBlanks blanks)) = .ok (read.reverse ++ blanks ++ u, ⟨rest, m'⟩) := by
  induction u generalizing m read blanks with
  | nil =>
    refine ⟨m.step '\x22' rest, ?_⟩
    simp only [writeDoubleQuoted, List.flatMap_nil, List.nil_append, doubleQuoted,
      Cursor.atMarker_of_column_pos (k := ⟨_, m⟩) hpos, Gap.content_ofBlanks, List.reverse_append,
      List.reverse_reverse, List.append_nil]
    rfl
  | cons c u ih =>
    have hwrite : writeDoubleQuoted (c :: u) =
        (if needsEscape c then escape c else [c]) ++ writeDoubleQuoted u := rfl
    obtain ⟨m₁, read₁, blanks₁, hm₁, hread₁, hstep⟩ :=
      doubleQuoted_step c start (writeDoubleQuoted u ++ '\x22' :: rest) hpos read blanks
    obtain ⟨m', hread⟩ := ih hm₁ read₁ blanks₁
    refine ⟨m', ?_⟩
    rw [hwrite, List.append_assoc, hstep, hread, hread₁, List.append_assoc, List.singleton_append]

end RtlLiterals.Yaml
