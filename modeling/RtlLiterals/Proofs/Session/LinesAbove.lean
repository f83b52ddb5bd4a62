import RtlLiterals.Proofs.Scan.Agreement
import RtlLiterals.Proofs.Scan.Edits
import RtlLiterals.Proofs.Session.History
import RtlLiterals.Proofs.Text.LineStarts

/-!
# RtlLiterals.Proofs.Session.LinesAbove -- whole lines written above a document

Whole lines written above a document should push its decorations down and change nothing else. They
do so if they leave no quote open: the scan goes on behind them as at the start of a text, and so
does the count of lines, since a line feed ends a line whatever follows it.

## §A Where it could fail

A quote above that no literal covers may be closed by the document. A text that ends in a carriage
return is no whole line, since a line feed may follow it: the document would have one break where
its two parts have two. A literal that runs over lines ends on another line than it starts on, so
both ends of a range are moved by themselves.
-/

namespace RtlLiterals

/-! ## §B Places behind whole lines -/

/-- The place so many lines further down. -/
def Position.down (lines : Nat) (p : Position) : Position := ⟨p.line + lines, p.column⟩

/-- The range so many lines further down. -/
def Range.down (lines : Nat) (r : Range) : Range := ⟨r.start.down lines, r.stop.down lines⟩

/-- Whether a character ends a break does not depend on what follows whole lines. -/
theorem Text.endsBreak_append {head : Text} (hline : head.getLast? = some '\n') (t : Text) {i : Nat}
    (hi : i < head.length) : (head ++ t).EndsBreak i ↔ head.EndsBreak i := by
  have hat : (head ++ t)[i]? = head[i]? := List.getElem?_append_left hi
  unfold EndsBreak IsLoneReturn
  rw [hat]
  rcases Nat.lt_or_eq_of_le (Nat.succ_le_of_lt hi) with hnext | hlast
  · rw [List.getElem?_append_left hnext]
  · -- The last character is a line feed, so what follows it is not looked at.
    have hfeed : head[i]? = some '\n' := by
      rw [List.getLast?_eq_getElem?, ← hlast] at hline
      exact hline
    simp [hfeed]

namespace Position

theorem step_down (p : Position) (lines : Nat) (c : Char) (rest : Text) :
    (p.down lines).step c rest = (p.step c rest).down lines := by
  unfold step down
  by_cases hends : endsLine c rest = true
  · rw [if_pos hends, if_pos hends]
    simp only [mk.injEq, and_true]
    omega
  · rw [if_neg hends, if_neg hends]

theorem walk_down (p : Position) (lines n : Nat) (t : Text) :
    (p.down lines).walk n t = (p.walk n t).down lines := by
  induction n generalizing p t with
  | zero => rfl
  | succ n ih =>
    cases t with
    | nil => rfl
    | cons c t =>
      rw [walk, step_down, ih]
      rfl

section

variable {head : Text} (hline : head.getLast? = some '\n')
include hline

/-- Places in whole lines are those of the lines by themselves. -/
theorem ofOffset_append_left (t : Text) {n : Nat} (hn : n ≤ head.length) :
    ofOffset (head ++ t) n = ofOffset head n := by
  induction n with
  | zero => rfl
  | succ n ih =>
    have hlt : n < (head ++ t).length := by
      rw [List.length_append]
      omega
    rw [ofOffset_succ hlt, ofOffset_succ hn, ih (Nat.le_of_succ_le hn)]
    simp only [Text.endsBreak_append hline t hn]

/-- Behind whole lines a new line starts. -/
theorem ofOffset_length : ofOffset head head.length = origin.down (head.breaks head.length) := by
  obtain ⟨k, hk⟩ : ∃ k, head.length = k + 1 := by
    refine Nat.exists_eq_succ_of_ne_zero ?_
    intro hzero
    rw [List.length_eq_zero_iff.1 hzero] at hline
    cases hline
  have hfeed : head[k]? = some '\n' := by
    rw [List.getLast?_eq_getElem?, hk] at hline
    exact hline
  -- The last character ends a break, so the place behind it is the first one of a line.
  have hends : head.EndsBreak k := .inl hfeed
  have hlines := (isAt_ofOffset (t := head) (n := k + 1) (by omega)).line_eq
  rw [hk, down, ← hlines, ofOffset_succ (by omega), if_pos hends]
  simp [origin]

/-- **Places behind whole lines.** They are the places of the text that follows, so many lines down
as the whole lines have breaks, in the same columns. -/
theorem ofOffset_append_right (t : Text) (n : Nat) :
    ofOffset (head ++ t) (head.length + n) = (ofOffset t n).down (head.breaks head.length) := by
  -- The walk through both texts is one through the lines, and goes on from the start of a line.
  have hhead : origin.walk head.length (head ++ t) = ofOffset head head.length :=
    ofOffset_append_left hline t (Nat.le_refl _)
  rw [ofOffset, walk_add, hhead, ofOffset_length hline, List.drop_append_length, walk_down,
    ofOffset]

end

end Position

/-! ## §C A scan behind whole lines -/

/-- Where literals cover all quotes of a text, none of its quotes is loose. -/
theorem firstLoose_of_covered {head : Text} (h : QuotesCovered head (lexicalSpans head) 0) :
    firstLoose head = head.length := by
  rcases (firstLoose_spec head).2 with hloose | hend
  · -- A loose quote is in no literal, but this one is covered.
    obtain ⟨⟨c, hc, hq⟩, hgap⟩ := hloose
    obtain ⟨s, hs, hstart, hstop⟩ := h _ c (Nat.zero_le _) hc hq
    have := hgap s hs
    omega
  · exact hend

/-- **A scan behind covered quotes.** A text whose quotes are all inside its literals is scanned by
itself, and so is what follows it. -/
theorem scan_append_of_covered {head : Text} (h : QuotesCovered head (lexicalSpans head) 0)
    (t : Text) :
    scan (head ++ t) =
      scan head ++ (scan t).map (Match.shift head.length (Text.lineFeeds head)) := by
  have hpassed := passedAlike_firstLoose head t
  rw [firstLoose_of_covered h, List.take_length, List.drop_length, List.nil_append] at hpassed
  obtain ⟨before, _, hhead, hall⟩ := scan_append hpassed
  -- Nothing is found in the empty text, so the first matches are those of the head.
  have hempty : scan [] = [] := rfl
  rw [List.append_nil, hempty, List.map_nil, List.append_nil] at hhead
  rw [hall, hhead]

namespace Session

/-! ## §D Ranges behind whole lines -/

/-- **`Paints settings language t rs`** -- every session with the settings answers a request for the
text, in the language and at any revision that is not stale, with the ranges. -/
def Paints (settings : Settings) (language : Language) (t : Text) (rs : List Range) : Prop :=
  ∀ (s : Session) (revision : Nat), s.settings = settings →
    ¬ s.isStale ⟨revision, language, t⟩ = true →
      ∃ d, (s.decorate ⟨revision, language, t⟩).2 = some d ∧ d.ranges = rs

/-- With decorations on and plain text to read, the ranges are those of the scan. -/
theorem paints_scan {settings : Settings} {language : Language} (henabled : settings.enabled = true)
    (hlexical : Strategy.resolve settings.strategy language = .lexical) (t : Text) :
    Paints settings language t ((scan t).map (rangeOf t)) := by
  rintro s revision rfl hfresh
  refine ⟨s.decorations ⟨revision, language, t⟩, by rw [decorate_of_not_isStale hfresh], ?_⟩
  have hfind : s.find ⟨revision, language, t⟩ = scan t := by
    show scanWith (.resolve s.settings.strategy language) t = _
    rw [hlexical]
    rfl
  rw [decorations, if_pos henabled, hfind]

/-- **Whole lines above.** With decorations on and plain text to read, lines that leave no quote
outside a literal are painted as they are by themselves, and what follows them is painted as many
lines further down as they have breaks, in the same columns. -/
theorem paints_append {settings : Settings} {language : Language} {head : Text}
    (henabled : settings.enabled = true)
    (hlexical : Strategy.resolve settings.strategy language = .lexical)
    (hline : head.getLast? = some '\n') (hcovered : QuotesCovered head (lexicalSpans head) 0)
    (t : Text) :
    ∃ above below, Paints settings language head above ∧ Paints settings language t below ∧
      Paints settings language (head ++ t)
        (above ++ below.map (Range.down (head.breaks head.length))) := by
  refine ⟨(scan head).map (rangeOf head), (scan t).map (rangeOf t),
    paints_scan henabled hlexical head, paints_scan henabled hlexical t, ?_⟩
  have hall := paints_scan henabled hlexical (head ++ t)
  have hranges : (scan (head ++ t)).map (rangeOf (head ++ t)) =
      (scan head).map (rangeOf head) ++
        ((scan t).map (rangeOf t)).map (Range.down (head.breaks head.length)) := by
    rw [scan_append_of_covered hcovered, List.map_append, List.map_map, List.map_map]
    congr 1
    · apply List.map_congr_left
      intro m hm
      have hlt := start_lt_stop_of_mem_scan hm
      have hstop := stop_le_of_mem_scan hm
      rw [rangeOf, rangeOf, Position.ofOffset_append_left hline t (by omega),
        Position.ofOffset_append_left hline t hstop]
    · apply List.map_congr_left
      intro m _
      simp only [Function.comp_apply, rangeOf, Match.shift, Range.down]
      rw [Nat.add_comm m.start, Nat.add_comm m.stop, Position.ofOffset_append_right hline,
        Position.ofOffset_append_right hline]
  rw [hranges] at hall
  exact hall

/-- Two whole lines with a literal that runs over both, a lone carriage return in it. -/
def linesAbove : Text := Text.ofString "'\u0628\r'\r\n"

/-- A document that starts with a line break, with a literal over two lines. -/
def documentBelow : Text := Text.ofString "\nx '\u0629\r\n'"

/-- Settings that ask for the syntax tree, which plain text does not have. -/
def syntacticSettings : Settings := ⟨true, .syntactic, .default⟩

/-- The literal of the document moves from its second line to the fourth one of both together, and
its end from the third to the fifth. -/
theorem paints_append_multiline :
    syntacticSettings.enabled = true ∧
      Strategy.resolve syntacticSettings.strategy .plainText = .lexical ∧
      linesAbove.getLast? = some '\n' ∧
      QuotesCovered linesAbove (lexicalSpans linesAbove) 0 ∧
      linesAbove.breaks linesAbove.length = 2 ∧
      (∃ above below, Paints syntacticSettings .plainText linesAbove above ∧
        Paints syntacticSettings .plainText documentBelow below ∧
        Paints syntacticSettings .plainText (linesAbove ++ documentBelow)
          (above ++ below.map (Range.down 2))) ∧
      ((Session.new syntacticSettings).decorate ⟨1, .plainText, linesAbove ++ documentBelow⟩).2.map
          Decorations.ranges =
        some [⟨⟨0, 0⟩, ⟨1, 1⟩⟩, ⟨⟨3, 2⟩, ⟨4, 1⟩⟩] := by
  have hcovered : QuotesCovered linesAbove (lexicalSpans linesAbove) 0 := by
    have hinside : ∀ j : Fin linesAbove.length, isQuote linesAbove[j] = true → j.1 < 4 := by decide
    intro i c _ hc hq
    obtain ⟨hi, rfl⟩ := List.getElem?_eq_some_iff.1 hc
    exact ⟨⟨Text.ofString "\u0628\r", 0, 4⟩, by decide, Nat.zero_le _, hinside ⟨i, hi⟩ hq⟩
  exact ⟨rfl, rfl, by decide, hcovered, by decide,
    @paints_append syntacticSettings .plainText linesAbove rfl rfl (by decide) hcovered
      documentBelow,
    by decide⟩

end Session

end RtlLiterals
