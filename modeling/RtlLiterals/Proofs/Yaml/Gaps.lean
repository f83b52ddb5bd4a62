import RtlLiterals.Yaml.Token
import RtlLiterals.Yaml.Writing

/-!
# RtlLiterals.Proofs.Yaml.Gaps -- places, and the way from one line to the next

A place in a document has a column, which decides how deep a line is indented; it grows by one with
every character of a line and is zero after a break. This module says so, and says how reading gets
from the end of an entry of a mapping to the key of the next one.

## §A What a writer may write

`isPrintable` characters are the only ones that are written as they are. Of the breaks these are the
line feed and the two separators, each of which stands for itself, and of the blanks the space.
-/

namespace RtlLiterals.Yaml

/-! ## §B Characters -/

theorem isBreak_of_isPrintable {c : Char} (hp : isPrintable c = true) (hb : isBreak c = true) :
    c = '\n' ∨ c = lineSeparator ∨ c = paragraphSeparator := by
  simp only [isBreak, Bool.or_eq_true, beq_iff_eq] at hb
  rcases hb with (((rfl | rfl) | rfl) | rfl) | rfl
  · exact .inl rfl
  · exact absurd hp (by decide)
  · exact absurd hp (by decide)
  · exact .inr (.inl rfl)
  · exact .inr (.inr rfl)

/-- A break that is written as it is stands for itself. -/
theorem breakText_of_isPrintable {c : Char} (hp : isPrintable c = true) (hb : isBreak c = true) :
    breakText c = [c] := by
  rcases isBreak_of_isPrintable hp hb with rfl | rfl | rfl <;> decide

theorem joinsNext_of_isPrintable {c : Char} (hp : isPrintable c = true) (t : Text) :
    joinsNext c t = false := by
  have hreturn : c ≠ '\r' := by
    rintro rfl
    exact absurd hp (by decide)
  rw [joinsNext, beq_eq_false_iff_ne.2 hreturn, Bool.false_and]

theorem eq_space_of_isBlank {c : Char} (hp : isPrintable c = true) (hb : isBlank c = true) :
    c = ' ' := by
  simp only [isBlank, Bool.or_eq_true, beq_iff_eq] at hb
  rcases hb with rfl | rfl
  · rfl
  · exact absurd hp (by decide)

theorem isAccepted_of_isPrintable {c : Char} (hp : isPrintable c = true) : isAccepted c = true := by
  simp only [isPrintable, isAccepted, Bool.or_eq_true, Bool.and_eq_true, beq_iff_eq, bne_iff_ne,
    decide_eq_true_eq] at hp ⊢
  omega

theorem isGap_eq_false_iff {c : Char} :
    isGap c = false ↔ isBlank c = false ∧ isBreak c = false := by
  rw [isGap, Bool.or_eq_false_iff]

/-! ## §C Places -/

namespace Mark

theorem step_of_not_isBreak {c : Char} (h : isBreak c = false) (m : Mark) (t : Text) :
    m.step c t = ⟨m.index + c.utf8Size, m.line, m.column + 1⟩ := by
  rw [step, if_neg (by simp [h])]

theorem column_step {c : Char} (h : isBreak c = false) (m : Mark) (t : Text) :
    (m.step c t).column = m.column + 1 := by
  rw [step_of_not_isBreak h]

/-- A break that is written as it is ends its line. -/
theorem column_step_break {c : Char} (hp : isPrintable c = true) (hb : isBreak c = true) (m : Mark)
    (t : Text) : (m.step c t).column = 0 := by
  rw [step, if_pos hb, joinsNext_of_isPrintable hp]
  rfl

theorem along_cons {c : Char} (h : isBreak c = false) (m : Mark) (t u : Text) :
    (m.step c u).along t = m.along (c :: t) := by
  rw [step_of_not_isBreak h, along, along, Text.byteLength, Text.byteLength, List.foldr_cons,
    List.length_cons, Nat.add_assoc, Nat.add_right_comm _ 1, Nat.add_assoc]

/-- Reading never goes back to an earlier line. -/
theorem line_le_step (m : Mark) (c : Char) (t : Text) : m.line ≤ (m.step c t).line := by
  unfold step
  split
  · split
    · exact Nat.le_refl m.line
    · exact Nat.le_succ m.line
  · exact Nat.le_refl m.line

@[simp] theorem column_along (m : Mark) (t : Text) : (m.along t).column = m.column + t.length := rfl

end Mark

theorem Cursor.atMarker_of_column_pos {k : Cursor} (h : 0 < k.mark.column) :
    k.atMarker = false := by
  rw [atMarker, beq_eq_false_iff_ne.2 (by omega), Bool.false_and]

@[simp] theorem spaces_succ (n : Nat) : spaces (n + 1) = ' ' :: spaces n := rfl

@[simp] theorem length_spaces (n : Nat) : (spaces n).length = n := List.length_replicate

/-! ## §D From line to line -/

/-- A token may start with the character: it is no gap, and no comment starts there. -/
def startsToken (c : Char) : Bool := !isGap c && c != '#' && c != byteOrderMark

theorem startsToken_iff {c : Char} :
    startsToken c = true ↔ isGap c = false ∧ c ≠ '#' ∧ c ≠ byteOrderMark := by
  simp [startsToken, and_assoc]

/-- **`StartsEntry column next`** -- the text after an entry: the key of another one, indented by
the column, or nothing. -/
def StartsEntry (column : Nat) (next : Text) : Prop :=
  (next = [] ∧ column = 0) ∨ ∃ c t, next = c :: t ∧ startsToken c = true

namespace Layout

/-- Spaces are passed. -/
theorem nextToken_spaces (n : Nat) (t : Text) (m : Mark) (keyAllowed : Bool) :
    nextToken false (spaces n ++ t) m keyAllowed false =
      nextToken false t (m.along (spaces n)) keyAllowed false := by
  induction n generalizing m with
  | zero => rfl
  | succ n ih =>
    rw [spaces_succ, List.cons_append, nextToken, ← Mark.along_cons (by decide) m _ (spaces n ++ t),
      ← ih]
    rfl

/-- A line feed is passed, and a key may start after it. -/
theorem nextToken_lineFeed (t : Text) (m : Mark) (keyAllowed : Bool) :
    nextToken false ('\n' :: t) m keyAllowed false =
      nextToken false t (m.step '\n' t) true false := by
  rw [nextToken]
  simp [isBreak]

/-- A token starts at any other character, if it starts no comment. -/
theorem nextToken_stop {c : Char} (hgap : isGap c = false) (hcomment : c ≠ '#')
    (hmark : c ≠ byteOrderMark) (t : Text) (m : Mark) (keyAllowed : Bool) :
    nextToken false (c :: t) m keyAllowed false = (⟨c :: t, m⟩, keyAllowed) := by
  obtain ⟨hblank, hbreak⟩ := isGap_eq_false_iff.1 hgap
  obtain ⟨hspace, htab⟩ := Bool.or_eq_false_iff.1 hblank
  rw [nextToken, if_neg (by simp [hbreak]), if_neg (by simp [hcomment]), hspace, htab,
    beq_eq_false_iff_ne.2 hmark]
  rfl

theorem nextToken_startsEntry {column : Nat} {next : Text} (h : StartsEntry column next) (m : Mark)
    (keyAllowed : Bool) :
    nextToken false next m keyAllowed false = (⟨next, m⟩, keyAllowed) := by
  rcases h with ⟨rfl, -⟩ | ⟨c, t, rfl, hc⟩
  · rfl
  · obtain ⟨hgap, hcomment, hmark⟩ := startsToken_iff.1 hc
    exact nextToken_stop hgap hcomment hmark t m keyAllowed

/-- **The next entry.** After a line feed reading stands at the key of the next entry. -/
theorem nextToken_nextEntry {column : Nat} {next : Text} (h : StartsEntry column next) (m : Mark)
    (keyAllowed : Bool) :
    ∃ m', m'.column = column ∧ m.line < m'.line ∧
      nextToken false ('\n' :: (spaces column ++ next)) m keyAllowed false =
        (⟨next, m'⟩, true) := by
  refine ⟨(m.step '\n' (spaces column ++ next)).along (spaces column), ?_, ?_, ?_⟩
  · rw [Mark.column_along, Mark.column_step_break (by decide) (by decide), length_spaces,
      Nat.zero_add]
  · exact Nat.lt_succ_self m.line
  · rw [nextToken_lineFeed, nextToken_spaces, nextToken_startsEntry h]

end Layout

end RtlLiterals.Yaml
