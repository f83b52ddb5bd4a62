import Mathlib.Data.List.Forall2
import RtlLiterals.Proofs.Command.Runs
import RtlLiterals.Proofs.Report.Records
import RtlLiterals.Proofs.Scan.Order
import RtlLiterals.Proofs.Session.History
import RtlLiterals.Proofs.Text.LineBreaks

/-!
# RtlLiterals.Proofs.Session.Lines -- an editor and a report show the same literals

A session hands ranges to an editor, `find` and a run of the program give matches. All come from one
scan, so they are the same literals in the same order. Their lines are counted by two rules: a range
counts the breaks of an editor, a match counts line feeds. They differ by the lone carriage returns
before the literal and by nothing else, whatever breaks the literals have in them or around them.

Nothing is asked of the trees that a scan by grammar walks over.
-/

namespace RtlLiterals

/-! ## §A One literal -/

/-- The line of a match is counted at its own start, for every scan. -/
theorem line_of_mem_scanBy {reader : TreeReader} {strategy : Strategy} {source : Text} {m : Match}
    (h : m ∈ scanBy reader strategy source) :
    m.line = Text.lineFeeds (source.take m.start) := by
  rw [scanBy_eq_map_filter] at h
  obtain ⟨s, _, rfl⟩ := List.mem_map.1 h
  rfl

/-- **`r.Shows t m`** -- the range `r` shows the match `m` of the text `t`: it is placed at the
offsets of the match, its line is that of the match and the lone carriage returns before it, and it
is one less than the line in the record of the match exactly if there are none of these. -/
structure Range.Shows (t : Text) (m : Match) (r : Range) : Prop where
  start_eq : r.start = .ofOffset t m.start
  stop_eq : r.stop = .ofOffset t m.stop
  line_eq : r.start.line = m.line + t.loneReturns m.start
  printed_iff : (∃ fields, Report.textRecord m = Text.ofNat (r.start.line + 1) ++ ':' :: fields) ↔
    ∀ i, i < m.start → ¬ t.IsLoneReturn i

/-- **Two counts of lines.** The range of a match shows it, for every scan. -/
theorem shows_rangeOf {reader : TreeReader} {strategy : Strategy} {source : Text} {m : Match}
    (h : m ∈ scanBy reader strategy source) :
    (Session.rangeOf source m).Shows source m := by
  have hline : (Session.rangeOf source m).start.line = m.line + source.loneReturns m.start := by
    rw [line_of_mem_scanBy h]
    exact Position.line_ofOffset source m.start
  refine ⟨rfl, rfl, hline, ?_⟩
  rw [Report.textRecord_starts_iff, hline, ← Text.loneReturns_eq_zero_iff]
  omega

/-! ## §B A session and a run -/

namespace Session

/-- **An editor and a report.** If decorations are on and the request is not stale, the ranges show
the matches that `find` gives, one by one and in the same order, and a run of the program with the
same choice of strategy, the same language and the same text reports these matches. -/
theorem decorate_shows_find (s : Session) (snap : Snapshot) (henabled : s.settings.enabled = true)
    (hfresh : ¬ s.isStale snap = true) :
    ∃ d, (s.decorate snap).2 = some d ∧
      List.Forall₂ (fun m r => r.Shows snap.text m) (s.find snap) d.ranges ∧
      ∀ (i : Invocation) (format : Report.Format),
        i.Scans s.settings.strategy snap.language snap.text format →
          i.run.1.exitCode = 0 ∧ i.run.1.output = Report.render format (s.find snap) := by
  refine ⟨s.decorations snap, ?_, ?_, ?_⟩
  · rw [decorate_of_not_isStale hfresh]
  · -- The ranges are a map of the matches, so each one stands beside its own match.
    have hranges : (s.decorations snap).ranges = (s.find snap).map (rangeOf snap.text) := by
      rw [decorations, if_pos henabled]
    rw [hranges, List.forall₂_map_right_iff, List.forall₂_same]
    intro m hm
    exact shows_rangeOf hm
  · intro i format hscans
    exact Invocation.outcome_of_scans hscans

/-- A text with a break of two characters, and a lone carriage return right before its literal. -/
def returnsText : Text := Text.ofString "a\r\n\r'\u0628'\n"

/-- The text as a document of a language with a grammar. -/
def returnsSnapshot : Snapshot := ⟨1, .rust, returnsText⟩

/-- The text on the standard input, read as plain text for the same language. -/
def returnsInvocation : Invocation :=
  ⟨⟨none, none⟩, Text.toBytes returnsText, .empty [],
    ["-s", "Regex", "--language=rust"].map Text.ofString⟩

/-- The literal is on the third line of an editor and on the second of a report. -/
theorem decorate_shows_find_returns :
    (Session.new .default).settings.enabled = true ∧
      ¬ (Session.new .default).isStale returnsSnapshot = true ∧
      returnsInvocation.Scans (Session.new .default).settings.strategy returnsSnapshot.language
        returnsSnapshot.text .text ∧
      (∃ d, ((Session.new .default).decorate returnsSnapshot).2 = some d ∧
        d.ranges.map (·.start.line) = [2] ∧
        List.Forall₂ (fun m r => r.Shows returnsText m)
          ((Session.new .default).find returnsSnapshot) d.ranges) ∧
      returnsInvocation.run.1.exitCode = 0 ∧
      returnsInvocation.run.1.output = Text.ofString "2:4-7\t\u0628\n" := by
  have henabled : (Session.new .default).settings.enabled = true := rfl
  have hfresh : ¬ (Session.new .default).isStale returnsSnapshot = true := by decide
  have hscans : returnsInvocation.Scans (Session.new .default).settings.strategy
      returnsSnapshot.language returnsSnapshot.text .text := by
    refine ⟨⟨none, some (Text.ofString "Regex"), some (Text.ofString "rust"), none, none⟩,
      ⟨.standardInput, some .lexical, .rust, .text, none⟩, rfl, rfl, rfl, rfl, ?_, rfl⟩
    exact World.textOf_toBytes returnsText
  obtain ⟨d, hd, hshows, hruns⟩ :=
    decorate_shows_find (.new .default) returnsSnapshot henabled hfresh
  obtain ⟨hexit, houtput⟩ := hruns returnsInvocation .text hscans
  refine ⟨henabled, hfresh, hscans, ⟨d, hd, ?_, hshows⟩, hexit, ?_⟩
  · obtain rfl := Option.some.inj hd
    rfl
  · rw [houtput]
    rfl

end Session

end RtlLiterals
