import Mathlib.Data.Prod.Lex
import Mathlib.Order.Interval.Set.Defs
import Mathlib.Order.Monotone.Basic
import RtlLiterals.Proofs.Text.LineBreaks

/-!
# RtlLiterals.Proofs.Text.LineStarts -- places and offsets say the same

A place is found by walking over the text. It can also be read off the list of offsets where the
lines of the text start: the line of an offset is the number of breaks that end there or before, and
its column is what is left from the start of that line (`isAt_ofOffset`). So a place gives its offset
back, and places are ordered as offsets are.

## §A Where it could fail

A break of two characters ends with its line feed. The offset between the two is on the line that
they end, one column behind the carriage return, and has a place of its own. An offset behind the
end of the text has none: it shares the place of the end (`ofOffset_min`).
-/

namespace RtlLiterals

namespace Text

/-! ## §B Breaks and the starts of lines -/

/-- **`t.EndsBreak i`** -- character `i` is the last one of a line break: a line feed, with or without
a carriage return before it, or a lone carriage return. -/
def EndsBreak (t : Text) (i : Nat) : Prop := t[i]? = some '\n' ∨ t.IsLoneReturn i

instance (t : Text) (i : Nat) : Decidable (EndsBreak t i) := inferInstanceAs (Decidable (_ ∨ _))

/-- The number of line breaks that end at offset `n` or before. -/
def breaks (t : Text) (n : Nat) : Nat := (List.range n).countP fun i => t.EndsBreak i

/-- The offsets where the lines start: the first line at the start of the text, and one more line
behind each break. -/
def lineStarts (t : Text) : List Nat :=
  0 :: ((List.range t.length).filter fun i => t.EndsBreak i).map (· + 1)

/-- The offset of a place: its column, counted from the start of its line. -/
def offsetAt? (t : Text) (p : Position) : Option Nat := t.lineStarts[p.line]?.map (· + p.column)

theorem breaks_succ (t : Text) (n : Nat) :
    t.breaks (n + 1) = t.breaks n + if t.EndsBreak n then 1 else 0 := by
  unfold breaks
  rw [List.range_succ, List.countP_append, List.countP_singleton]
  simp

theorem breaks_le_breaks (t : Text) {m n : Nat} (h : m ≤ n) : t.breaks m ≤ t.breaks n := by
  apply List.Sublist.countP_le
  exact List.range_sublist.2 h

/-- The line behind a break starts where the break ends. -/
theorem lineStarts_of_endsBreak {t : Text} {n : Nat} (hn : n < t.length) (h : t.EndsBreak n) :
    t.lineStarts[t.breaks n + 1]? = some (n + 1) := by
  -- The breaks before this one are the first entries of the list.
  obtain ⟨k, hk⟩ : ∃ k, t.length = n + 1 + k := ⟨t.length - (n + 1), by omega⟩
  have hfirst : ((List.range n).filter fun i => t.EndsBreak i).length = t.breaks n :=
    (List.countP_eq_length_filter ..).symm
  unfold lineStarts
  rw [List.getElem?_cons_succ, List.getElem?_map, hk, List.range_add, List.filter_append,
    List.range_succ, List.filter_append, List.filter_cons_of_pos (by simpa using h),
    List.append_assoc, List.getElem?_append_right (Nat.le_of_eq hfirst), hfirst, Nat.sub_self]
  rfl

end Text

namespace Position

/-! ## §C The order of places -/

/-- Places are ordered by line, and by column within a line. -/
instance : LinearOrder Position :=
  LinearOrder.lift' (fun p => toLex (p.line, p.column)) <| by
    rintro ⟨line, column⟩ ⟨line', column'⟩ h
    obtain ⟨rfl, rfl⟩ := Prod.mk.inj (toLex.injective h)
    rfl

theorem lt_iff {p q : Position} :
    p < q ↔ p.line < q.line ∨ p.line = q.line ∧ p.column < q.column :=
  Prod.Lex.toLex_lt_toLex

/-! ## §D The walk -/

@[simp] theorem walk_nil (p : Position) (n : Nat) : p.walk n [] = p := by
  cases n <;> rfl

theorem walk_add (p : Position) (m n : Nat) (t : Text) :
    p.walk (m + n) t = (p.walk m t).walk n (t.drop m) := by
  induction m generalizing p t with
  | zero =>
    rw [Nat.zero_add]
    rfl
  | succ m ih =>
    cases t with
    | nil => simp
    | cons c t =>
      rw [Nat.succ_add_eq_add_succ, Nat.add_succ]
      exact ih (p.step c t) t

/-- Behind the end of the text the walk stands still. -/
theorem ofOffset_min (t : Text) (offset : Nat) :
    ofOffset t (min offset t.length) = ofOffset t offset := by
  rcases Nat.le_total offset t.length with h | h
  · rw [Nat.min_eq_left h]
  · obtain ⟨k, rfl⟩ : ∃ k, offset = t.length + k := ⟨offset - t.length, by omega⟩
    rw [Nat.min_eq_right h, ofOffset, ofOffset, walk_add, List.drop_length, walk_nil]

theorem endsLine_getElem_iff {t : Text} {n : Nat} (hn : n < t.length) :
    endsLine t[n] (t.drop (n + 1)) = true ↔ t.EndsBreak n := by
  rw [endsLine_iff, List.head?_drop]
  unfold Text.EndsBreak Text.IsLoneReturn
  rw [List.getElem?_eq_getElem hn, Option.some.injEq, Option.some.injEq]

/-- **One step.** A character that ends a break leads to the start of the next line, any other one to
the next column. -/
theorem ofOffset_succ {t : Text} {n : Nat} (hn : n < t.length) :
    ofOffset t (n + 1) =
      if t.EndsBreak n then ⟨(ofOffset t n).line + 1, 0⟩
      else ⟨(ofOffset t n).line, (ofOffset t n).column + 1⟩ := by
  have hstep : ofOffset t (n + 1) = (ofOffset t n).step t[n] (t.drop (n + 1)) := by
    unfold ofOffset
    rw [walk_add, List.drop_eq_getElem_cons hn]
    rfl
  rw [hstep]
  unfold step
  simp only [endsLine_getElem_iff hn]

/-! ## §E The place of an offset -/

/-- **`p.IsAt t n`** -- the place `p` is that of offset `n`: as many breaks as it has lines before it
end at `n` or before, and its column leads from the start of its line to `n`. -/
structure IsAt (p : Position) (t : Text) (n : Nat) : Prop where
  line_eq : p.line = t.breaks n
  column_eq : ∃ start, t.lineStarts[p.line]? = some start ∧ start + p.column = n

/-- **The whole walk.** The walk over the first characters of a text ends at the place of its
offset. -/
theorem isAt_ofOffset {t : Text} {n : Nat} (hn : n ≤ t.length) : (ofOffset t n).IsAt t n := by
  induction n with
  | zero => exact ⟨rfl, 0, rfl, rfl⟩
  | succ n ih =>
    obtain ⟨hline, start, hstart, hcolumn⟩ := ih (Nat.le_of_succ_le hn)
    rw [ofOffset_succ hn]
    by_cases hbreak : t.EndsBreak n
    · -- The next line starts where the break ends, and that is here.
      rw [if_pos hbreak]
      constructor
      · rw [Text.breaks_succ, if_pos hbreak, hline]
      · refine ⟨n + 1, ?_, rfl⟩
        rw [hline]
        exact Text.lineStarts_of_endsBreak hn hbreak
    · -- On the same line the column grows as the offset does.
      rw [if_neg hbreak]
      constructor
      · rw [Text.breaks_succ, if_neg hbreak, hline]
        rfl
      · refine ⟨start, hstart, ?_⟩
        show start + ((ofOffset t n).column + 1) = n + 1
        omega

/-- A place gives its offset back. -/
theorem IsAt.offsetAt?_eq {p : Position} {t : Text} {n : Nat} (h : p.IsAt t n) :
    t.offsetAt? p = some n := by
  obtain ⟨start, hstart, hcolumn⟩ := h.column_eq
  unfold Text.offsetAt?
  rw [hstart, Option.map_some, hcolumn]

/-- Of two places the one of the smaller offset comes first. -/
theorem IsAt.lt {p q : Position} {t : Text} {m n : Nat} (hp : p.IsAt t m) (hq : q.IsAt t n)
    (h : m < n) : p < q := by
  have hlines : p.line ≤ q.line := by
    rw [hp.line_eq, hq.line_eq]
    exact t.breaks_le_breaks (Nat.le_of_lt h)
  rw [lt_iff]
  rcases Nat.lt_or_eq_of_le hlines with hlt | heq
  · exact .inl hlt
  · -- On one line both columns are counted from the same start.
    obtain ⟨start, hstart, hcolumn⟩ := hp.column_eq
    obtain ⟨start', hstart', hcolumn'⟩ := hq.column_eq
    rw [heq, hstart', Option.some.injEq] at hstart
    exact .inr ⟨heq, by omega⟩

theorem offsetAt?_ofOffset {t : Text} {n : Nat} (hn : n ≤ t.length) :
    t.offsetAt? (ofOffset t n) = some n :=
  (isAt_ofOffset hn).offsetAt?_eq

/-- **Places are ordered as offsets.** Up to the end of the text, places grow with the offset. -/
theorem strictMonoOn_ofOffset (t : Text) : StrictMonoOn (ofOffset t) (Set.Iic t.length) := by
  intro m hm n hn hlt
  exact (isAt_ofOffset hm).lt (isAt_ofOffset hn) hlt

end Position

end RtlLiterals
