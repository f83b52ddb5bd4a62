import RtlLiterals.Proofs.Scan.Lines

/-!
# RtlLiterals.Proofs.Scan.AnyOrder -- the lines of spans in any order

Nothing obliges spans to be in order: they may lie one over another, start again and again at one
place, or start past the end of the text. Which of them are kept depends on their contents alone.
The lines are counted up to the furthest start among the kept spans so far, since the cursor goes
there and never back; a dropped span never moves it (`getElem?_matchesFrom`).
-/

namespace RtlLiterals

/-! ## §A What is kept -/

/-- **`s.IsArabic`** -- the content of the span holds a character of an Arabic block. -/
def Span.IsArabic (s : Span) : Prop :=
  ∃ c ∈ s.content, ∃ r ∈ arabicRanges, r.first ≤ c.toNat ∧ c.toNat ≤ r.last

instance : DecidablePred Span.IsArabic := fun s =>
  inferInstanceAs (Decidable (∃ c ∈ s.content, ∃ r ∈ arabicRanges,
    r.first ≤ c.toNat ∧ c.toNat ≤ r.last))

theorem Span.isArabic_iff {s : Span} : s.IsArabic ↔ hasArabic s.content = true := by
  simp only [IsArabic, hasArabic_iff, isArabicChar_iff]

/-- The spans with Arabic content. -/
def arabicSpans (spans : List Span) : List Span := spans.filter fun s => decide s.IsArabic

theorem arabicSpans_cons_of_pos {s : Span} (h : s.IsArabic) (spans : List Span) :
    arabicSpans (s :: spans) = s :: arabicSpans spans :=
  List.filter_cons_of_pos (decide_eq_true h)

theorem arabicSpans_cons_of_neg {s : Span} (h : ¬ s.IsArabic) (spans : List Span) :
    arabicSpans (s :: spans) = arabicSpans spans :=
  List.filter_cons_of_neg (by simpa using h)

theorem arabicSpans_arabicSpans (spans : List Span) :
    arabicSpans (arabicSpans spans) = arabicSpans spans := by
  simp [arabicSpans, List.filter_filter]

/-- A match without its line. -/
def Match.toSpan (m : Match) : Span := ⟨m.text, m.start, m.stop⟩

/-! ## §B The furthest start -/

/-- **`IsFurthest M ms`** -- `M` is the greatest of the starts of some matches. -/
def IsFurthest (M : Nat) (ms : List Match) : Prop :=
  (∃ m ∈ ms, m.start = M) ∧ ∀ m ∈ ms, m.start ≤ M

/-- The greatest of a number and the starts of some spans. -/
def furthest (n : Nat) (spans : List Span) : Nat := spans.foldl (fun n s => max n s.start) n

theorem furthest_cons (n : Nat) (s : Span) (spans : List Span) :
    furthest n (s :: spans) = furthest (max n s.start) spans := rfl

theorem furthest_eq_or_mem (n : Nat) (spans : List Span) :
    furthest n spans = n ∨ ∃ s ∈ spans, s.start = furthest n spans := by
  induction spans generalizing n with
  | nil => exact .inl rfl
  | cons s spans ih =>
    rw [furthest_cons]
    rcases ih (max n s.start) with hself | ⟨t, ht, hstart⟩
    · rcases Nat.le_total n s.start with hle | hle
      · refine .inr ⟨s, List.mem_cons_self, ?_⟩
        rw [hself, Nat.max_eq_right hle]
      · exact .inl (by rw [hself, Nat.max_eq_left hle])
    · exact .inr ⟨t, List.mem_cons_of_mem s ht, hstart⟩

theorem le_furthest (n : Nat) (spans : List Span) :
    n ≤ furthest n spans ∧ ∀ s ∈ spans, s.start ≤ furthest n spans := by
  induction spans generalizing n with
  | nil => exact ⟨Nat.le_refl n, nofun⟩
  | cons s spans ih =>
    obtain ⟨hself, hspans⟩ := ih (max n s.start)
    rw [furthest_cons]
    constructor
    · exact Nat.le_trans (Nat.le_max_left n s.start) hself
    · intro t ht
      rcases List.mem_cons.1 ht with rfl | ht
      · exact Nat.le_trans (Nat.le_max_right n t.start) hself
      · exact hspans t ht

/-- The starts of matches, seen as spans. -/
theorem isFurthest_furthest {ms : List Match} (hne : ms ≠ []) :
    IsFurthest (furthest 0 (ms.map Match.toSpan)) ms := by
  obtain ⟨-, hle⟩ := le_furthest 0 (ms.map Match.toSpan)
  constructor
  · rcases furthest_eq_or_mem 0 (ms.map Match.toSpan) with hzero | ⟨s, hs, hstart⟩
    · -- Every start is zero then, that of the first match too.
      obtain ⟨m, rest, rfl⟩ := List.exists_cons_of_ne_nil hne
      have hfirst : m.start ≤ 0 := by
        rw [← hzero]
        exact hle m.toSpan (by simp)
      exact ⟨m, List.mem_cons_self, by omega⟩
    · obtain ⟨m, hm, rfl⟩ := List.mem_map.1 hs
      exact ⟨m, hm, hstart⟩
  · intro m hm
    exact hle m.toSpan (List.mem_map.2 ⟨m, hm, rfl⟩)

/-! ## §C Matches -/

/-- **One match.** From a cursor on character `n`, the `k`-th match is the `k`-th span that is kept,
with the line feeds before the furthest start up to it. -/
theorem getElem?_matchesFrom (source : Text) (spans : List Span) (n k : Nat) :
    (matchesFrom (.onChar source n) spans)[k]? = (arabicSpans spans)[k]?.map fun s =>
      ⟨s.content, Text.lineFeeds (source.take (furthest n ((arabicSpans spans).take (k + 1)))),
        s.start, s.stop⟩ := by
  induction spans generalizing n k with
  | nil => rfl
  | cons s spans ih =>
    rw [matchesFrom]
    by_cases harabic : s.IsArabic
    · rw [if_pos (Span.isArabic_iff.1 harabic), arabicSpans_cons_of_pos harabic,
        LineCursor.advance_onChar]
      cases k with
      | zero => rfl
      | succ k => exact ih (max n s.start) k
    · rw [if_neg (fun h => harabic (Span.isArabic_iff.2 h)), arabicSpans_cons_of_neg harabic]
      exact ih n k

theorem getElem?_classify (source : Text) (spans : List Span) (k : Nat) :
    (classify source spans)[k]? = (arabicSpans spans)[k]?.map fun s =>
      ⟨s.content, Text.lineFeeds (source.take (furthest 0 ((arabicSpans spans).take (k + 1)))),
        s.start, s.stop⟩ := by
  rw [classify, LineCursor.start_eq_onChar]
  exact getElem?_matchesFrom source spans 0 k

theorem map_toSpan_classify (source : Text) (spans : List Span) :
    (classify source spans).map Match.toSpan = arabicSpans spans := by
  apply List.ext_getElem?
  intro k
  rw [List.getElem?_map, getElem?_classify, Option.map_map]
  cases (arabicSpans spans)[k]? <;> rfl

/-- Dropped spans have no influence, on lines or otherwise. -/
theorem classify_arabicSpans (source : Text) (spans : List Span) :
    classify source (arabicSpans spans) = classify source spans := by
  apply List.ext_getElem?
  intro k
  rw [getElem?_classify, getElem?_classify, arabicSpans_arabicSpans]

/-- The line of a match is counted up to the furthest start among the matches so far. -/
theorem line_of_getElem?_classify {source : Text} {spans : List Span} {k : Nat} {m : Match}
    (h : (classify source spans)[k]? = some m) :
    ∃ M, IsFurthest M ((classify source spans).take (k + 1)) ∧
      m.line = Text.lineFeeds (source.take M) := by
  have hne : (classify source spans).take (k + 1) ≠ [] := by
    have hmem := List.mem_of_getElem? h
    rw [Ne, List.take_eq_nil_iff, not_or]
    exact ⟨Nat.succ_ne_zero k, List.ne_nil_of_mem hmem⟩
  refine ⟨_, isFurthest_furthest hne, ?_⟩
  rw [getElem?_classify] at h
  obtain ⟨s, -, rfl⟩ := Option.map_eq_some_iff.1 h
  rw [List.map_take, map_toSpan_classify]

/-- **Spans in any order.** The spans with Arabic content are kept, in the order given and as they
are. The line of the `k`-th match is the number of line feeds among the first `M` characters, or
among all if there are fewer, where `M` is the furthest start among the matches up to it. Dropped
spans change nothing, and where the starts that are kept never decrease, each line is that of the
start of its own match. -/
theorem classify_anyOrder (source : Text) (spans : List Span) :
    (classify source spans).map Match.toSpan = spans.filter (fun s => decide s.IsArabic) ∧
      (∀ k m, (classify source spans)[k]? = some m →
        ∃ M, IsFurthest M ((classify source spans).take (k + 1)) ∧
          m.line = (source.take (min M source.length)).count '\n') ∧
      classify source (spans.filter fun s => decide s.IsArabic) = classify source spans ∧
      ((classify source spans).Pairwise (fun m m' => m.start ≤ m'.start) →
        ∀ m ∈ classify source spans, m.line = (source.take m.start).count '\n') := by
  refine ⟨map_toSpan_classify source spans, ?_, classify_arabicSpans source spans, ?_⟩
  · intro k m hm
    obtain ⟨M, hM, hline⟩ := line_of_getElem?_classify hm
    refine ⟨M, hM, ?_⟩
    rw [hline, ← List.take_eq_take_min]
    rfl
  · intro hsorted m hm
    obtain ⟨k, hk⟩ := List.mem_iff_getElem?.1 hm
    obtain ⟨M, ⟨⟨m', hm', rfl⟩, hle⟩, hline⟩ := line_of_getElem?_classify hk
    -- The `k`-th match is the last of those up to it, so none of them starts behind it.
    have htake : (classify source spans).take (k + 1) = (classify source spans).take k ++ [m] := by
      rw [List.take_add_one, hk]
      rfl
    rw [htake] at hm' hle
    have hbefore : m'.start ≤ m.start := by
      rcases List.mem_append.1 hm' with hm' | hm'
      · have hpairs := hsorted.sublist (List.take_sublist (k + 1) _)
        rw [htake] at hpairs
        exact (List.pairwise_append.1 hpairs).2.2 m' hm' m List.mem_cons_self
      · exact Nat.le_of_eq (congrArg Match.start (List.mem_singleton.1 hm'))
    have hstart : m'.start = m.start := Nat.le_antisymm hbefore (hle m (by simp))
    rw [hline, hstart]
    rfl

/-- A start past the end counts all three line feeds, also for the match behind it that starts at
zero; the span between them is dropped. -/
example : (classify (Text.ofString "\na\n\n") [⟨['ب'], 2, 3⟩, ⟨['ة'], 9, 12⟩, ⟨['x'], 40, 41⟩,
    ⟨['ت'], 0, 1⟩]).map Match.line = [1, 3, 3] := by decide

end RtlLiterals
