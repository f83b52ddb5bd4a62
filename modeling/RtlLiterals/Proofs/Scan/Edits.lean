import Mathlib.Data.List.Forall2
import RtlLiterals.Proofs.Literal.Restart
import RtlLiterals.Proofs.Scan.Order

/-!
# RtlLiterals.Proofs.Scan.Edits -- what an edit changes of a lexical scan

An editor changes a text in one place and wants to know which matches stay as they are. A scan has
no state but its place, so its matches are those of two parts wherever no literal runs over the cut
(`scan_append`). From this follow the three laws of this module.

## §A What is stated

* `scan_restart`: at an offset outside every literal the scan may be started anew.
* `scan_append_stable`: text written at the end changes nothing before the first loose quote.
* `scan_replace_gap`: plain text between two literals may be replaced by any other plain text; the
  matches behind it move with the text they stand in.
-/

namespace RtlLiterals

/-! ## §B Matches of two parts -/

/-- The match moved by `chars` characters and `lines` lines. -/
def Match.shift (chars lines : Nat) (m : Match) : Match :=
  ⟨m.text, m.line + lines, m.start + chars, m.stop + chars⟩

theorem Match.shift_shift (chars lines chars' lines' : Nat) (m : Match) :
    (m.shift chars lines).shift chars' lines' = m.shift (chars + chars') (lines + lines') := by
  simp only [shift, Nat.add_assoc]

theorem Span.toMatch_shift (a u : Text) (s : Span) :
    (s.shift a.length).toMatch (a ++ u) = (s.toMatch u).shift a.length (Text.lineFeeds a) := by
  have hlines : Text.lineFeeds ((a ++ u).take (s.start + a.length)) =
      Text.lineFeeds (u.take s.start) + Text.lineFeeds a := by
    rw [Nat.add_comm, List.take_length_add_append, Text.lineFeeds_append, Nat.add_comm]
  rw [toMatch, shift, toMatch, Match.shift, hlines]

theorem Span.toMatch_append {a : Text} {s : Span} (h : s.start ≤ a.length) (u : Text) :
    s.toMatch (a ++ u) = s.toMatch a := by
  rw [toMatch, List.take_append_of_le_length h, toMatch]

/-- Where the spans of a text are some before the end of `a` and those of what follows `a`, so are
the matches. -/
theorem scan_of_lexicalSpans_append {a u : Text} (before : List Span)
    (hbefore : ∀ s ∈ before, s.start ≤ a.length)
    (hspans : lexicalSpans (a ++ u) = before ++ (lexicalSpans u).map (Span.shift a.length)) :
    scan (a ++ u) = (before.filter fun s => hasArabic s.content).map (Span.toMatch a) ++
      (scan u).map (Match.shift a.length (Text.lineFeeds a)) := by
  rw [scan_eq_map_filter, hspans, List.filter_append, List.map_append, List.filter_map,
    List.map_map, scan_eq_map_filter, List.map_map]
  congr 1
  · apply List.map_congr_left
    intro s hs
    exact Span.toMatch_append (hbefore s (List.mem_filter.1 hs).1) u
  · apply List.map_congr_left
    intro s _
    exact Span.toMatch_shift a u s

/-- **A scan of two parts.** The matches of a text that is passed alike before `u` and before `u'`
are the same, and those of what follows it are moved by it. -/
theorem scan_append {a u u' : Text} (h : Lexical.PassedAlike u u' a) :
    ∃ before, (∀ m ∈ before, m.start < m.stop ∧ m.stop ≤ a.length) ∧
      scan (a ++ u) = before ++ (scan u).map (Match.shift a.length (Text.lineFeeds a)) ∧
      scan (a ++ u') = before ++ (scan u').map (Match.shift a.length (Text.lineFeeds a)) := by
  obtain ⟨before, hstop, hspans, hspans'⟩ := h.charSpans_append 0
  rw [← Lexical.lexicalSpans_eq_charSpans, Nat.zero_add, Lexical.charSpans_eq_map_shift] at hspans
  rw [← Lexical.lexicalSpans_eq_charSpans, Nat.zero_add, Lexical.charSpans_eq_map_shift] at hspans'
  -- A literal is not empty, so one that ends in `a` starts in `a`, where its line is counted.
  have hroom : ∀ s ∈ before, s.start < s.stop ∧ s.stop ≤ a.length := by
    intro s hs
    have hmem : s ∈ lexicalSpans (a ++ u) := by
      rw [hspans]
      exact List.mem_append_left _ hs
    have hstands := (Lexical.placed_lexicalSpans (a ++ u)).standsIn s hmem
    exact ⟨hstands.start_lt_stop, by simpa using hstop s hs⟩
  have hstart : ∀ s ∈ before, s.start ≤ a.length := fun s hs => by
    have := hroom s hs
    omega
  refine ⟨_, ?_, scan_of_lexicalSpans_append before hstart hspans,
    scan_of_lexicalSpans_append before hstart hspans'⟩
  intro m hm
  obtain ⟨s, hs, rfl⟩ := List.mem_map.1 hm
  exact hroom s (List.mem_filter.1 hs).1

/-- Plain text only moves the matches behind it. -/
theorem scan_plain {x : Text} (hx : Lexical.IsPlain x) (u : Text) :
    scan (x ++ u) = (scan u).map (Match.shift x.length (Text.lineFeeds x)) := by
  apply scan_of_lexicalSpans_append [] (by simp)
  rw [Lexical.lexicalSpans_eq_charSpans, Lexical.charSpans_plain hx, Nat.zero_add,
    Lexical.charSpans_eq_map_shift, List.nil_append]

/-! ## §C A scan that is started anew -/

/-- A filter that keeps one list and drops the other. -/
theorem filter_append_eq_left {α : Type} {p : α → Bool} {l l' : List α}
    (hl : ∀ x ∈ l, p x = true) (hl' : ∀ x ∈ l', ¬ p x = true) : (l ++ l').filter p = l := by
  rw [List.filter_append, List.filter_eq_self.2 hl, List.filter_eq_nil_iff.2 hl', List.append_nil]

/-- A match that was moved starts behind what moved it. -/
theorem le_start_of_mem_map_shift {ms : List Match} {chars lines : Nat} {m : Match}
    (h : m ∈ ms.map (Match.shift chars lines)) : chars ≤ m.start := by
  obtain ⟨m, _, rfl⟩ := List.mem_map.1 h
  exact Nat.le_add_left _ _

/-- **Restart.** At an offset that is not inside a literal the scan may be started anew: the matches
that end there or before are those of the whole text, and the others are the matches of the rest,
moved by what was left out. -/
theorem scan_restart (source : Text) (p : Nat)
    (h : ∀ s ∈ lexicalSpans source, ¬ (s.start < p ∧ p < s.stop)) :
    scan source = ((scan source).filter fun m => m.stop ≤ p) ++
      (scan (source.drop p)).map (Match.shift p (Text.lineFeeds (source.take p))) := by
  rcases Nat.le_total p source.length with hp | hp
  · have hlen : (source.take p).length = p := List.length_take_of_le hp
    have hpassed : Lexical.PassedAlike (source.drop p) (source.drop p) (source.take p) := by
      refine Lexical.passedAlike_of_cut ?_ fun _ _ _ hi => hi
      rw [List.take_append_drop, hlen]
      exact h
    obtain ⟨before, hbefore, hscan, _⟩ := scan_append hpassed
    rw [List.take_append_drop, hlen] at hscan
    have hfilter : ((scan source).filter fun m => m.stop ≤ p) = before := by
      rw [hscan]
      apply filter_append_eq_left
      · intro m hm
        have hstop := (hbefore m hm).2
        rw [hlen] at hstop
        simpa using hstop
      · intro m hm
        have hstart := le_start_of_mem_map_shift hm
        have hlt := start_lt_stop_of_mem_scan (hscan ▸ List.mem_append_right _ hm)
        simp only [decide_eq_true_eq]
        omega
    rw [hfilter]
    exact hscan
  · -- Behind the end of the text nothing is left, and all matches end before it.
    have hall : ∀ m ∈ scan source, decide (m.stop ≤ p) = true := by
      intro m hm
      have hstop := stop_le_of_mem_scan hm
      simp only [decide_eq_true_eq]
      omega
    rw [List.filter_eq_self.2 hall, List.drop_of_length_le hp]
    exact (List.append_nil _).symm

/-- A delimiter that is never closed, a literal on the next line, and one behind a backslash. -/
def restartSource : Text := Text.ofString "\"\n'\u0628' \\'\u0628'"

/-- The scan of `restartSource` is started anew right behind the backslash of its gap. -/
theorem scan_restart_behind_backslash :
    (∀ s ∈ lexicalSpans restartSource, ¬ (s.start < 7 ∧ 7 < s.stop)) ∧
      scan restartSource =
        [⟨Text.ofString "\u0628", 1, 2, 5⟩] ++
          (scan (Text.ofString "'\u0628'")).map (Match.shift 7 1) := by
  have hcut : ∀ s ∈ lexicalSpans restartSource, ¬ (s.start < 7 ∧ 7 < s.stop) := by decide
  have hfirst : ((scan restartSource).filter fun m => m.stop ≤ 7) =
      [⟨Text.ofString "\u0628", 1, 2, 5⟩] := by decide
  refine ⟨hcut, ?_⟩
  rw [scan_restart restartSource 7 hcut, hfirst]
  rfl

/-! ## §D Text written at the end -/

/-- **`IsLoose source i`** -- a quote stands at offset `i` of the source and no literal covers it. -/
def IsLoose (source : Text) (i : Nat) : Prop :=
  (∃ c, source[i]? = some c ∧ isQuote c = true) ∧ Lexical.InGap (lexicalSpans source) i

instance (source : Text) (i : Nat) : Decidable (IsLoose source i) :=
  decidable_of_iff
    (source[i]?.any isQuote = true ∧ ∀ s ∈ lexicalSpans source, i < s.start ∨ s.stop ≤ i)
    (and_congr_left' (Option.any_eq_true ..))

/-- The offset of the first loose quote of the source, or the end of the source if it has none. -/
def firstLoose (source : Text) : Nat :=
  ((List.range source.length).find? fun i => IsLoose source i).getD source.length

theorem lt_length_of_isLoose {source : Text} {i : Nat} (h : IsLoose source i) :
    i < source.length := by
  obtain ⟨⟨c, hc, _⟩, _⟩ := h
  exact (List.getElem?_eq_some_iff.1 hc).1

theorem firstLoose_spec (source : Text) :
    (∀ i, i < firstLoose source → ¬ IsLoose source i) ∧
      (IsLoose source (firstLoose source) ∨ firstLoose source = source.length) := by
  unfold firstLoose
  cases h : (List.range source.length).find? fun i => IsLoose source i with
  | none =>
    rw [List.find?_range_eq_none] at h
    refine ⟨?_, .inr rfl⟩
    intro i hi
    simpa using h i hi
  | some p =>
    obtain ⟨hp, _, hbefore⟩ := List.find?_range_eq_some.1 h
    refine ⟨?_, .inl (of_decide_eq_true hp)⟩
    intro i hi
    simpa using hbefore i hi

theorem firstLoose_le (source : Text) : firstLoose source ≤ source.length := by
  rcases (firstLoose_spec source).2 with h | h
  · exact Nat.le_of_lt (lt_length_of_isLoose h)
  · exact Nat.le_of_eq h

/-- The text before the first loose quote is passed alike whatever is written at the end. -/
theorem passedAlike_firstLoose (source added : Text) :
    Lexical.PassedAlike (source.drop (firstLoose source)) (source.drop (firstLoose source) ++ added)
      (source.take (firstLoose source)) := by
  obtain ⟨hbefore, hat⟩ := firstLoose_spec source
  have hp := firstLoose_le source
  generalize firstLoose source = p at hbefore hat hp ⊢
  have hlen : (source.take p).length = p := List.length_take_of_le hp
  refine Lexical.passedAlike_of_cut ?_ ?_
  · rw [List.take_append_drop, hlen]
    rintro s hs ⟨hstart, hstop⟩
    rcases hat with ⟨_, hgap⟩ | rfl
    · have := hgap s hs
      omega
    · have := ((Lexical.placed_lexicalSpans source).standsIn s hs).stop_le
      omega
  · -- A delimiter in a gap would be loose, and there is none before the first loose one.
    rw [List.take_append_drop, hlen]
    intro i hi hgap hcomplete
    refine absurd hcomplete (Lexical.not_completeAt_of_not_isQuote ?_)
    intro c hc
    rw [← List.append_assoc, List.take_append_drop, List.getElem?_append_left (by omega)] at hc
    cases hq : isQuote c with
    | false => rfl
    | true => exact absurd ⟨⟨c, hc, hq⟩, hgap⟩ (hbefore i hi)

/-- **Text written at the end.** The matches before the first loose quote stay as they are, and all
others of the longer text start at that quote or behind it. -/
theorem scan_append_stable (source added : Text) :
    ((scan (source ++ added)).filter fun m => m.start < firstLoose source) =
        ((scan source).filter fun m => m.start < firstLoose source) ∧
      ∃ later, scan (source ++ added) =
          ((scan source).filter fun m => m.start < firstLoose source) ++ later ∧
        ∀ m ∈ later, firstLoose source ≤ m.start := by
  have hlen : (source.take (firstLoose source)).length = firstLoose source :=
    List.length_take_of_le (firstLoose_le source)
  obtain ⟨before, hbefore, hscan, hscan'⟩ := scan_append (passedAlike_firstLoose source added)
  rw [List.take_append_drop, hlen] at hscan
  rw [← List.append_assoc, List.take_append_drop, hlen] at hscan'
  -- Both scans start with the same matches, and all that follow are moved behind the quote.
  have hfilter (ms : List Match) (lines : Nat) :
      ((before ++ ms.map (Match.shift (firstLoose source) lines)).filter fun m =>
        m.start < firstLoose source) = before := by
    apply filter_append_eq_left
    · intro m hm
      obtain ⟨hlt, hstop⟩ := hbefore m hm
      rw [hlen] at hstop
      simp only [decide_eq_true_eq]
      omega
    · intro m hm
      have hstart := le_start_of_mem_map_shift hm
      simp only [decide_eq_true_eq]
      omega
  rw [hscan, hscan', hfilter, hfilter]
  exact ⟨rfl, _, rfl, fun m hm => le_start_of_mem_map_shift hm⟩

/-- The loose quote is closed by what is written behind it, and swallows the second literal. -/
example :
    firstLoose (Text.ofString "'\u0628' \" '\u0629'") = 4 ∧
      scan (Text.ofString "'\u0628' \" '\u0629'") =
        [⟨Text.ofString "\u0628", 0, 0, 3⟩, ⟨Text.ofString "\u0629", 0, 6, 9⟩] ∧
      scan (Text.ofString "'\u0628' \" '\u0629'\"") =
        [⟨Text.ofString "\u0628", 0, 0, 3⟩, ⟨Text.ofString " '\u0629'", 0, 4, 10⟩] := by
  decide

/-! ## §E Plain text between two literals -/

/-- **`m.MovedBy chars lines m'`** -- the match `m'` is `m` moved by so many characters and lines,
backwards if they are negative. -/
structure Match.MovedBy (chars lines : Int) (m m' : Match) : Prop where
  text_eq : m'.text = m.text
  line_eq : (m'.line : Int) = m.line + lines
  start_eq : (m'.start : Int) = m.start + chars
  stop_eq : (m'.stop : Int) = m.stop + chars

theorem Match.movedBy_shift (chars lines chars' lines' n k : Nat) (m : Match) :
    (m.shift (chars + n) (lines + k)).MovedBy (chars' - chars) (lines' - lines)
      (m.shift (chars' + n) (lines' + k)) := by
  constructor
  · rfl
  all_goals
    simp only [shift]
    omega

/-- **An edit between two literals.** Where no literal of `a ++ x ++ b` has a character of the plain
text `x`, another plain text `x'` in its place neither adds nor takes away a match: those that end
before the edit stay as they are, and all others move by what the edit has added. Neither text is
empty, since `a` may end with a backslash. -/
theorem scan_replace_gap {a b x x' : Text} (hx : Lexical.IsPlain x) (hx' : Lexical.IsPlain x')
    (hne : x ≠ []) (hne' : x' ≠ [])
    (hgap : ∀ s ∈ lexicalSpans (a ++ x ++ b), ¬ s.Overlaps a.length (a.length + x.length)) :
    List.Forall₂
      (fun m m' =>
        if m.stop ≤ a.length then m' = m
        else m.MovedBy (x'.length - x.length) (Text.lineFeeds x' - Text.lineFeeds x) m')
      (scan (a ++ x ++ b)) (scan (a ++ x' ++ b)) := by
  rw [List.append_assoc] at hgap ⊢
  rw [List.append_assoc]
  have hpassed : Lexical.PassedAlike (x ++ b) (x' ++ b) a := by
    refine Lexical.passedAlike_of_cut ?_ ?_
    · rintro s hs ⟨hstart, hstop⟩
      exact hgap s hs ⟨by omega, hstop⟩
    · intro i hi _ hcomplete
      exact (Lexical.completeAt_swap hx hx' hne hne' hi).2 hcomplete
  obtain ⟨before, hbefore, hscan, hscan'⟩ := scan_append hpassed
  rw [hscan, hscan', scan_plain hx, scan_plain hx', List.map_map, List.map_map]
  -- On the left of the edit both lists hold the same matches, on the right those of `b`, moved by
  -- one text or by the other.
  refine List.rel_append (List.forall₂_same.2 ?_) ?_
  · intro m hm
    rw [if_pos (hbefore m hm).2]
  · rw [List.forall₂_map_left_iff, List.forall₂_map_right_iff, List.forall₂_same]
    intro m hm
    have hlt := start_lt_stop_of_mem_scan hm
    simp only [Function.comp_apply, Match.shift_shift]
    have hbehind : ¬ (m.shift (x.length + a.length) (Text.lineFeeds x + Text.lineFeeds a)).stop ≤
        a.length := by
      simp only [Match.shift]
      omega
    rw [if_neg hbehind]
    exact Match.movedBy_shift ..

/-- The end of a text with a delimiter that is never closed, right before a backslash. -/
def danglingHead : Text := Text.ofString "'\u0628'\"\\"

/-- One letter behind the backslash of `danglingHead` is replaced by two line feeds: the literal on
its left stays, and the one on its right moves by a character and two lines. -/
theorem scan_replace_gap_dangling :
    Lexical.IsPlain ['x'] ∧ Lexical.IsPlain ['\n', '\n'] ∧ ['x'] ≠ [] ∧ ['\n', '\n'] ≠ [] ∧
      (∀ s ∈ lexicalSpans (danglingHead ++ ['x'] ++ Text.ofString "'\u0629'"),
        ¬ s.Overlaps danglingHead.length (danglingHead.length + ['x'].length)) ∧
      scan (danglingHead ++ ['x'] ++ Text.ofString "'\u0629'") =
        [⟨Text.ofString "\u0628", 0, 0, 3⟩, ⟨Text.ofString "\u0629", 0, 6, 9⟩] ∧
      List.Forall₂
        (fun m m' =>
          if m.stop ≤ danglingHead.length then m' = m
          else m.MovedBy (['\n', '\n'].length - ['x'].length)
            (Text.lineFeeds ['\n', '\n'] - Text.lineFeeds ['x']) m')
        (scan (danglingHead ++ ['x'] ++ Text.ofString "'\u0629'"))
        (scan (danglingHead ++ ['\n', '\n'] ++ Text.ofString "'\u0629'")) := by
  have hx : Lexical.IsPlain ['x'] := by decide
  have hx' : Lexical.IsPlain ['\n', '\n'] := by decide
  have hgap : ∀ s ∈ lexicalSpans (danglingHead ++ ['x'] ++ Text.ofString "'\u0629'"),
      ¬ s.Overlaps danglingHead.length (danglingHead.length + ['x'].length) := by decide
  exact ⟨hx, hx', by decide, by decide, hgap, by decide,
    scan_replace_gap hx hx' (by decide) (by decide) hgap⟩

end RtlLiterals
