import RtlLiterals.Text.Position

/-!
# RtlLiterals.Proofs.Text.LineBreaks -- two ways to count lines

The line of a place in an editor counts breaks: line feeds, carriage returns, and the two together
as one. The line of a match counts line feeds. The difference is the number of lone carriage
returns, those that no line feed follows at once: a break of two characters is counted where its
line feed is, so each line feed ends a line and each lone carriage return does (`line_ofOffset`).
-/

namespace RtlLiterals

namespace Text

/-- A carriage return stands at offset `i` of the text, and no line feed follows it at once. -/
def IsLoneReturn (t : Text) (i : Nat) : Prop := t[i]? = some '\r' ∧ t[i + 1]? ≠ some '\n'

instance (t : Text) (i : Nat) : Decidable (IsLoneReturn t i) :=
  inferInstanceAs (Decidable (_ ∧ _))

/-- The number of lone carriage returns before offset `n` of the text. -/
def loneReturns (t : Text) (n : Nat) : Nat := (List.range n).countP fun i => IsLoneReturn t i

@[simp] theorem loneReturns_zero (t : Text) : loneReturns t 0 = 0 := rfl

theorem loneReturns_nil (n : Nat) : loneReturns [] n = 0 := by
  simp [loneReturns, IsLoneReturn]

/-- The first character is a lone carriage return or not, and the rest is counted by itself. -/
theorem loneReturns_cons_succ (c : Char) (t : Text) (n : Nat) :
    loneReturns (c :: t) (n + 1) =
      loneReturns t n + if c = '\r' ∧ t.head? ≠ some '\n' then 1 else 0 := by
  have hrest : ((List.range n).map Nat.succ).countP (fun i => IsLoneReturn (c :: t) i) =
      loneReturns t n := by
    rw [List.countP_map]
    rfl
  have hfirst : IsLoneReturn (c :: t) 0 ↔ c = '\r' ∧ t.head? ≠ some '\n' := by
    cases t <;> simp [IsLoneReturn]
  rw [loneReturns, List.range_succ_eq_map, List.countP_cons, hrest]
  simp only [decide_eq_true_eq, hfirst]

theorem loneReturns_eq_zero_iff {t : Text} {n : Nat} :
    loneReturns t n = 0 ↔ ∀ i, i < n → ¬ IsLoneReturn t i := by
  simp [loneReturns]

theorem lineFeeds_cons (c : Char) (t : Text) :
    lineFeeds (c :: t) = lineFeeds t + if c = '\n' then 1 else 0 := by
  simp [lineFeeds, List.count_cons]

end Text

namespace Position

theorem endsLine_iff {c : Char} {rest : Text} :
    endsLine c rest = true ↔ c = '\n' ∨ (c = '\r' ∧ rest.head? ≠ some '\n') := by
  simp [endsLine]

/-- One step ends a line at a line feed and at a lone carriage return. -/
theorem line_step (p : Position) (c : Char) (rest : Text) :
    (p.step c rest).line =
      p.line + (if c = '\n' then 1 else 0) +
        if c = '\r' ∧ rest.head? ≠ some '\n' then 1 else 0 := by
  unfold step
  by_cases hends : endsLine c rest = true
  · -- No character is both a feed and a return, so one step counts one break.
    rw [if_pos hends]
    rcases endsLine_iff.1 hends with rfl | hreturn
    · simp
    · simp [hreturn]
  · rw [if_neg hends]
    obtain ⟨hfeed, hreturn⟩ := not_or.1 (mt endsLine_iff.2 hends)
    rw [if_neg hfeed, if_neg hreturn]
    rfl

theorem line_walk (p : Position) (n : Nat) (t : Text) :
    (p.walk n t).line = p.line + Text.lineFeeds (t.take n) + t.loneReturns n := by
  fun_induction walk p n t with
  | case1 => simp
  | case2 => simp [Text.loneReturns_nil]
  | case3 p n c t ih =>
    rw [ih, line_step, List.take_succ_cons, Text.lineFeeds_cons, Text.loneReturns_cons_succ]
    omega

/-- **Lines of an editor.** The line of an offset is the number of line feeds before it and of lone
carriage returns before it. -/
theorem line_ofOffset (t : Text) (n : Nat) :
    (ofOffset t n).line = Text.lineFeeds (t.take n) + t.loneReturns n := by
  have h := line_walk origin n t
  rw [ofOffset, h]
  simp [origin]

end Position

end RtlLiterals
