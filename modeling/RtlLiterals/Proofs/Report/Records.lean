import Mathlib.Algebra.Order.BigOperators.Group.List
import Mathlib.Algebra.Order.Ring.Nat
import RtlLiterals.Proofs.Literal.Failure
import RtlLiterals.Proofs.Scan.Order
import RtlLiterals.Proofs.Text.Decimal
import RtlLiterals.Report

/-!
# RtlLiterals.Proofs.Report.Records -- what can be read off a report written as text

A report written as text gives each match a record: line, offsets, the text as it stands in the
source, and a line feed. Nothing in the text is escaped. So a literal that runs over a line makes a
record of several lines, and its text may look like the records of other matches.

## §A What is stated

* `oneLineEach_scanBy_iff`: line by line the report is right exactly if no literal that it reports
  runs over a line.
* `render_text_decodable`: record by record it is right for every plain scan. The offsets of a match
  of such a scan say how long its text is, and a reader who goes by them is not misled by it.
-/

namespace RtlLiterals

namespace Report

/-! ## §B Records and lines -/

/-- A record, field by field from its start. -/
theorem textRecord_eq (m : Match) :
    textRecord m = Text.ofNat (m.line + 1) ++ ':' :: (Text.ofNat m.start ++ '-' ::
      (Text.ofNat m.stop ++ '\t' :: (m.text ++ ['\n']))) := by
  simp [textRecord]

/-- **The line of a record.** A record starts with the line of its match, counted from one, and with
no other number. -/
theorem textRecord_starts_iff {m : Match} {n : Nat} :
    (∃ fields, textRecord m = Text.ofNat n ++ ':' :: fields) ↔ n = m.line + 1 := by
  rw [textRecord_eq]
  constructor
  · rintro ⟨fields, h⟩
    exact (Text.ofNat_append_inj (by decide) (by decide) h).1.symm
  · rintro rfl
    exact ⟨_, rfl⟩

/-- The record of a match without the line feed behind it. -/
def textLine (m : Match) : Text :=
  Text.ofNat (m.line + 1) ++ ':' :: (Text.ofNat m.start ++ '-' ::
    (Text.ofNat m.stop ++ '\t' :: m.text))

theorem textRecord_eq_textLine (m : Match) : textRecord m = textLine m ++ ['\n'] := by
  simp [textRecord_eq, textLine]

theorem render_text_cons (m : Match) (ms : List Match) :
    render .text (m :: ms) = textLine m ++ '\n' :: render .text ms := by
  show (m :: ms).flatMap textRecord = _
  rw [List.flatMap_cons, textRecord_eq_textLine, List.append_assoc]
  rfl

/-- The digits of a number hold no line feed. -/
theorem lineFeeds_ofNat (n : Nat) : Text.lineFeeds (Text.ofNat n) = 0 := by
  apply List.count_eq_zero_of_not_mem
  intro h
  have hdigit := Text.isDigit_of_mem_ofNat h
  revert hdigit
  decide

/-- The line feeds of a record are those of the text of its match. -/
theorem lineFeeds_textLine (m : Match) :
    Text.lineFeeds (textLine m) = Text.lineFeeds m.text := by
  -- Neither the digits of the fields nor the marks behind them are line feeds.
  have hmark (c : Char) (hc : c ≠ '\n') (t : Text) : Text.lineFeeds (c :: t) = Text.lineFeeds t :=
    List.count_cons_of_ne hc
  rw [textLine, Text.lineFeeds_append, lineFeeds_ofNat, hmark _ (by decide), Text.lineFeeds_append,
    lineFeeds_ofNat, hmark _ (by decide), Text.lineFeeds_append, lineFeeds_ofNat,
    hmark _ (by decide)]
  omega

/-- **Line feeds of a report.** There is one for each match and one for each line feed in a text. -/
theorem lineFeeds_render_text (ms : List Match) :
    Text.lineFeeds (render .text ms) =
      ms.length + (ms.map fun m => Text.lineFeeds m.text).sum := by
  induction ms with
  | nil => rfl
  | cons m ms ih =>
    have hfeed : Text.lineFeeds ('\n' :: render .text ms) =
        Text.lineFeeds (render .text ms) + 1 := List.count_cons_self
    rw [render_text_cons, Text.lineFeeds_append, lineFeeds_textLine, hfeed, ih, List.length_cons,
      List.map_cons, List.sum_cons]
    omega

/-- **`OneLineEach ms`** -- the report has one line for each match: as many line feeds as there are
matches, and its lines, up to what is left behind the last line feed, are the records in order. -/
structure OneLineEach (ms : List Match) : Prop where
  lineFeeds_eq : Text.lineFeeds (render .text ms) = ms.length
  lines_eq : (render .text ms).splitOn '\n' = ms.map textLine ++ [[]]

/-- A report has one line for each match exactly if no text holds a line feed. -/
theorem oneLineEach_iff {ms : List Match} :
    OneLineEach ms ↔ ∀ m ∈ ms, Text.lineFeeds m.text = 0 := by
  constructor
  · intro h
    have hcount := lineFeeds_render_text ms
    rw [h.lineFeeds_eq] at hcount
    -- The line feeds behind the records are all there are, which leaves none for the texts.
    have hsum : (ms.map fun m => Text.lineFeeds m.text).sum = 0 := by omega
    exact List.forall_mem_map.1 (List.sum_eq_zero_iff.1 hsum)
  · intro h
    induction ms with
    | nil => exact ⟨rfl, rfl⟩
    | cons m ms ih =>
      obtain ⟨hm, hms⟩ := List.forall_mem_cons.1 h
      obtain ⟨hfeeds, hlines⟩ := ih hms
      -- A record without a line feed is the first piece when the report is cut at line feeds.
      have hone : '\n' ∉ textLine m := by
        apply List.count_eq_zero.1
        rw [← hm]
        exact lineFeeds_textLine m
      constructor
      · rw [lineFeeds_render_text, List.map_cons, List.sum_cons, hm]
        rw [lineFeeds_render_text] at hfeeds
        rw [List.length_cons]
        omega
      · rw [render_text_cons, List.splitOn_append_cons_self, List.splitOn_eq_singleton hone, hlines]
        rfl

/-- **One line for each match.** A report on a scan holds a line feed for each match and one for
each line feed inside a literal that it reports. It has one line for each match exactly if no
literal with Arabic content runs over a line. -/
theorem oneLineEach_scanBy_iff (reader : TreeReader) (strategy : Strategy) (source : Text) :
    Text.lineFeeds (render .text (scanBy reader strategy source)) =
        (scanBy reader strategy source).length +
          ((scanBy reader strategy source).map fun m => Text.lineFeeds m.text).sum ∧
      (OneLineEach (scanBy reader strategy source) ↔
        ∀ s ∈ strategy.spansBy reader source, hasArabic s.content = true →
          Text.lineFeeds s.content = 0) := by
  refine ⟨lineFeeds_render_text _, ?_⟩
  rw [oneLineEach_iff, scanBy_eq_map_filter, List.forall_mem_map]
  constructor
  · intro h s hs harabic
    exact h s (List.mem_filter.2 ⟨hs, harabic⟩)
  · intro h s hs
    obtain ⟨hmem, harabic⟩ := List.mem_filter.1 hs
    exact h s hmem harabic

/-- A literal over two lines gives a record of two lines: the report on one match has two line
feeds. -/
theorem not_oneLineEach_scan_twoLines :
    scan (Text.ofString "'\u0628\n\u0629'") = [⟨Text.ofString "\u0628\n\u0629", 0, 0, 5⟩] ∧
      render .text (scan (Text.ofString "'\u0628\n\u0629'")) =
        Text.ofString "1:0-5\t\u0628\n\u0629\n" ∧
      ¬ OneLineEach (scan (Text.ofString "'\u0628\n\u0629'")) := by
  refine ⟨by decide, by decide, ?_⟩
  intro h
  exact absurd h.lineFeeds_eq (by decide)

/-! ## §C A reader of reports -/

/-- The number at the head of a text with the mark that ends it, and what follows the mark. -/
def readNumber? (mark : Char) (t : Text) : Option (Nat × Text) :=
  match t.dropWhile Char.isDigit with
  | [] => none
  | c :: rest =>
    if c = mark then some (Nat.ofDigitChars 10 (t.takeWhile Char.isDigit) 0, rest) else none

/-- The text of a record, which takes so many characters whatever they are, with the line feed that
ends it, and what follows the line feed. -/
def readText? (length : Nat) (t : Text) : Option (Text × Text) :=
  match t.drop length with
  | '\n' :: rest => some (t.take length, rest)
  | _ => none

/-- The match of the first record, and what follows the record. The text takes what the offsets
leave to it beside two delimiters. -/
def readRecord? (t : Text) : Option (Match × Text) :=
  (readNumber? ':' t).bind fun (line, t) =>
    (readNumber? '-' t).bind fun (start, t) =>
      (readNumber? '\t' t).bind fun (stop, t) =>
        (readText? (stop - start - 2) t).map fun (text, t) => (⟨text, line - 1, start, stop⟩, t)

theorem length_lt_of_readNumber? {mark : Char} {t rest : Text} {n : Nat}
    (h : readNumber? mark t = some (n, rest)) : rest.length < t.length := by
  have hle : (t.dropWhile Char.isDigit).length ≤ t.length :=
    (List.dropWhile_suffix Char.isDigit).length_le
  unfold readNumber? at h
  split at h
  · cases h
  · next c r hr =>
    split at h
    · obtain ⟨-, rfl⟩ := Prod.mk.inj (Option.some.inj h)
      rw [hr, List.length_cons] at hle
      omega
    · cases h

theorem length_lt_of_readText? {length : Nat} {t text rest : Text}
    (h : readText? length t = some (text, rest)) : rest.length < t.length := by
  have hle : (t.drop length).length ≤ t.length := (List.drop_suffix length t).length_le
  unfold readText? at h
  split at h
  · next r hr =>
    obtain ⟨-, rfl⟩ := Prod.mk.inj (Option.some.inj h)
    rw [hr, List.length_cons] at hle
    omega
  · cases h

/-- A record takes characters. -/
theorem length_lt_of_readRecord? {t rest : Text} {m : Match}
    (h : readRecord? t = some (m, rest)) : rest.length < t.length := by
  obtain ⟨⟨line, t₁⟩, hline, h⟩ := Option.bind_eq_some_iff.1 h
  obtain ⟨⟨start, t₂⟩, hstart, h⟩ := Option.bind_eq_some_iff.1 h
  obtain ⟨⟨stop, t₃⟩, hstop, h⟩ := Option.bind_eq_some_iff.1 h
  obtain ⟨⟨text, t₄⟩, htext, h⟩ := Option.map_eq_some_iff.1 h
  obtain ⟨-, rfl⟩ := Prod.mk.inj h
  -- Each field takes at least the mark that ends it.
  have h₁ := length_lt_of_readNumber? hline
  have h₂ := length_lt_of_readNumber? hstart
  have h₃ := length_lt_of_readNumber? hstop
  have h₄ := length_lt_of_readText? htext
  omega

/-- The matches of a report, read record by record. -/
def readRecords? (t : Text) : Option (List Match) :=
  if t = [] then some []
  else
    match h : readRecord? t with
    | none => none
    | some (m, rest) =>
      have := length_lt_of_readRecord? h
      (readRecords? rest).map (m :: ·)
termination_by t.length

/-! ### What the reader reads -/

theorem readNumber?_ofNat {mark : Char} (hmark : mark.isDigit = false) (n : Nat) (r : Text) :
    readNumber? mark (Text.ofNat n ++ mark :: r) = some (n, r) := by
  have hrest : (Text.ofNat n ++ mark :: r).dropWhile Char.isDigit = mark :: r := by
    rw [List.dropWhile_append_of_pos fun _ => Text.isDigit_of_mem_ofNat,
      List.dropWhile_cons_of_neg (by simp [hmark])]
  have hvalue : Nat.ofDigitChars 10 (Text.ofNat n) 0 = n := Nat.ofDigitChars_ten_toDigits
  unfold readNumber?
  rw [hrest]
  simp only [if_true]
  rw [Text.takeWhile_ofNat_append n hmark, hvalue]

theorem readText?_append (t r : Text) : readText? t.length (t ++ '\n' :: r) = some (t, r) := by
  have hrest : (t ++ '\n' :: r).drop t.length = '\n' :: r := List.drop_append_length
  have htext : (t ++ '\n' :: r).take t.length = t := List.take_append_length
  rw [readText?, hrest, htext]
  rfl

end Report

/-- **`m.IsBare`** -- the offsets of the match leave room for its text and two delimiters, and for
nothing else. -/
def Match.IsBare (m : Match) : Prop := m.stop - m.start = m.text.length + 2

instance (m : Match) : Decidable m.IsBare := inferInstanceAs (Decidable (_ = _))

/-- A plain scan gives bare matches. -/
theorem isBare_of_mem_scan {source : Text} {m : Match} (h : m ∈ scan source) : m.IsBare := by
  rw [scan_eq_map_filter] at h
  obtain ⟨s, hs, rfl⟩ := List.mem_map.1 h
  have hmem := (List.mem_filter.1 hs).1
  -- A literal of a plain scan is its content between two quotes, escapes left as written.
  rw [Lexical.lexicalSpans_eq_charSpans] at hmem
  obtain ⟨_, _, _, _, _, _, _, hstop⟩ := Lexical.exists_literal_of_mem_charSpans hmem
  show s.stop - s.start = s.content.length + 2
  omega

namespace Report

/-- **One record.** The reader takes the record of a bare match and nothing of what follows it. -/
theorem readRecord?_textLine {m : Match} (h : m.IsBare) (r : Text) :
    readRecord? (textLine m ++ '\n' :: r) = some (m, r) := by
  have hlength : m.stop - m.start - 2 = m.text.length := by
    unfold Match.IsBare at h
    omega
  have hfields : textLine m ++ '\n' :: r =
      Text.ofNat (m.line + 1) ++ ':' :: (Text.ofNat m.start ++ '-' ::
        (Text.ofNat m.stop ++ '\t' :: (m.text ++ '\n' :: r))) := by
    simp [textLine]
  have hcolon : ':'.isDigit = false := by decide
  have hdash : '-'.isDigit = false := by decide
  have htab : '\t'.isDigit = false := by decide
  rw [hfields]
  simp only [readRecord?, readNumber?_ofNat hcolon, readNumber?_ofNat hdash,
    readNumber?_ofNat htab, Option.bind_some, hlength, readText?_append, Option.map_some,
    Nat.add_sub_cancel]

/-- **All records.** The reader gives back the matches of a report, if they are bare. -/
theorem readRecords?_render {ms : List Match} (h : ∀ m ∈ ms, m.IsBare) :
    readRecords? (render .text ms) = some ms := by
  induction ms with
  | nil =>
    rw [readRecords?]
    rfl
  | cons m ms ih =>
    obtain ⟨hm, hms⟩ := List.forall_mem_cons.1 h
    have hfirst := readRecord?_textLine hm (render .text ms)
    have hne : textLine m ++ '\n' :: render .text ms ≠ [] := by simp
    rw [render_text_cons, readRecords?, if_neg hne]
    split
    · next hnone =>
      rw [hfirst] at hnone
      cases hnone
    · next m' rest hsome =>
      rw [hfirst] at hsome
      obtain ⟨rfl, rfl⟩ := Prod.mk.inj (Option.some.inj hsome)
      rw [ih hms]
      rfl

/-- **A report on a plain scan can be read.** The matches of such a scan are bare, two lists of bare
matches with one report are one list, and the reader gives them back, whatever their texts hold. -/
theorem render_text_decodable :
    (∀ (source : Text), ∀ m ∈ scan source, m.IsBare) ∧
      (∀ ms ms' : List Match, (∀ m ∈ ms, m.IsBare) → (∀ m ∈ ms', m.IsBare) →
        render .text ms = render .text ms' → ms = ms') ∧
      ∀ ms : List Match, (∀ m ∈ ms, m.IsBare) → readRecords? (render .text ms) = some ms := by
  refine ⟨fun source m hm => isBare_of_mem_scan hm, ?_, fun ms hms => readRecords?_render hms⟩
  intro ms ms' hms hms' heq
  have hread := readRecords?_render hms
  rw [heq, readRecords?_render hms'] at hread
  exact (Option.some.inj hread).symm

/-- A match whose text ends like a second record. -/
def forgingMatch : Match := ⟨Text.ofString "\u0628\n1:2-5\t\u0628", 0, 0, 11⟩

/-- Two matches, of which the first has more room than its text takes. -/
def looseMatches : List Match :=
  [⟨Text.ofString "\u0628", 0, 0, 11⟩, ⟨Text.ofString "\u0628", 0, 2, 5⟩]

/-- The report on `forgingMatch` is also one on two matches that are not bare; read by its offsets
it gives back the one match. -/
theorem render_text_decodable_forging :
    forgingMatch ∈ scan (Text.ofString "'\u0628\n1:2-5\t\u0628'") ∧ forgingMatch.IsBare ∧
      render .text [forgingMatch] = render .text looseMatches ∧
      ¬ (∀ m ∈ looseMatches, m.IsBare) ∧
      readRecords? (render .text looseMatches) = some [forgingMatch] ∧
      ∀ ms : List Match, (∀ m ∈ ms, m.IsBare) →
        render .text ms = render .text looseMatches → ms = [forgingMatch] := by
  obtain ⟨hscan, hinjective, hread⟩ := render_text_decodable
  have hmem : forgingMatch ∈ scan (Text.ofString "'\u0628\n1:2-5\t\u0628'") := by decide
  have hbare : ∀ m ∈ [forgingMatch], m.IsBare := by
    intro m hm
    obtain rfl := List.mem_singleton.1 hm
    exact hscan _ _ hmem
  have hforged : render .text [forgingMatch] = render .text looseMatches := by decide
  refine ⟨hmem, hscan _ _ hmem, hforged, by decide, ?_, ?_⟩
  · rw [← hforged]
    exact hread _ hbare
  · intro ms hms heq
    exact hinjective ms [forgingMatch] hms hbare (heq.trans hforged.symm)

end Report

end RtlLiterals
