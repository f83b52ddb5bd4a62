import RtlLiterals.Match

/-!
# RtlLiterals.Proofs.Scan.Lines -- the lines of matches

Lines are counted by one cursor that moves forward only, and only for the spans that are kept. Each
move puts the cursor on the furthest offset asked for so far (`advance_onChar`), with the line feeds
before it counted. So where the starts of spans never decrease, a match gets the line of its own
start, whatever spans were dropped before it (`classify_eq_map_filter`).
-/

namespace RtlLiterals

namespace LineCursor

/-- The cursor that was sent to offset `n` of a text: on that character or at the end, with the line
feeds before it. -/
def onChar (source : Text) (n : Nat) : LineCursor :=
  ⟨source.drop n, min n source.length, Text.lineFeeds (source.take n)⟩

theorem start_eq_onChar (source : Text) : start source = onChar source 0 := by
  simp [start, onChar]

@[simp] theorem onChar_line (source : Text) (n : Nat) :
    (onChar source n).line = Text.lineFeeds (source.take n) := rfl

/-- Past the end all cursors are one. -/
theorem onChar_of_length_le {source : Text} {n : Nat} (h : source.length ≤ n) :
    onChar source n = ⟨[], source.length, Text.lineFeeds source⟩ := by
  rw [onChar, List.drop_of_length_le h, Nat.min_eq_right h, List.take_of_length_le h]

/-- **One move of the cursor.** It goes to its target, counting line feeds on the way, and it never
moves back. -/
theorem advance_onChar (source : Text) (n target : Nat) :
    (onChar source n).advance target = onChar source (max n target) := by
  by_cases hn : source.length ≤ n
  · rw [onChar_of_length_le hn, onChar_of_length_le (Nat.le_trans hn (Nat.le_max_left n target))]
    simp [advance]
  · have hmin : min n source.length = n := Nat.min_eq_left (by omega)
    rcases Nat.le_total target n with h | h
    · have hsub : target - n = 0 := by omega
      rw [Nat.max_eq_left h, advance, onChar]
      simp [hmin, hsub]
    · obtain ⟨k, rfl⟩ : ∃ k, target = n + k := ⟨target - n, by omega⟩
      have hoffset : n + ((source.drop n).take k).length = min (n + k) source.length := by
        rw [List.length_take, List.length_drop]
        omega
      rw [Nat.max_eq_right h, advance, onChar]
      simp only [hmin, Nat.add_sub_cancel_left, hoffset]
      rw [List.drop_drop, ← Text.lineFeeds_append, ← List.take_add, onChar]

end LineCursor

/-- The match of a span, on the line of its own start. -/
def Span.toMatch (source : Text) (s : Span) : Match :=
  ⟨s.content, Text.lineFeeds (source.take s.start), s.start, s.stop⟩

theorem matchesFrom_onChar {source : Text} {spans : List Span} {n : Nat}
    (hsorted : spans.Pairwise fun s t => s.start ≤ t.start) (hn : ∀ s ∈ spans, n ≤ s.start) :
    matchesFrom (.onChar source n) spans =
      (spans.filter fun s => hasArabic s.content).map (Span.toMatch source) := by
  induction spans generalizing n with
  | nil => rfl
  | cons s spans ih =>
    obtain ⟨hfirst, hrest⟩ := List.pairwise_cons.1 hsorted
    rw [matchesFrom]
    by_cases harabic : hasArabic s.content = true
    · have hmove : (LineCursor.onChar source n).advance s.start = .onChar source s.start := by
        rw [LineCursor.advance_onChar, Nat.max_eq_right (hn s (List.mem_cons_self ..))]
      rw [if_pos harabic, List.filter_cons, if_pos harabic, List.map_cons]
      simp only [hmove, LineCursor.onChar_line]
      rw [ih hrest hfirst, Span.toMatch]
    · rw [if_neg harabic, List.filter_cons, if_neg harabic]
      exact ih hrest fun t ht => hn t (List.mem_cons_of_mem _ ht)

/-- **Matches of spans in order.** The spans with Arabic content are kept as they are, and each gets
the line of its own start. -/
theorem classify_eq_map_filter {source : Text} {spans : List Span}
    (hsorted : spans.Pairwise fun s t => s.start ≤ t.start) :
    classify source spans =
      (spans.filter fun s => hasArabic s.content).map (Span.toMatch source) := by
  rw [classify, LineCursor.start_eq_onChar]
  exact matchesFrom_onChar hsorted fun _ _ => Nat.zero_le _

end RtlLiterals
