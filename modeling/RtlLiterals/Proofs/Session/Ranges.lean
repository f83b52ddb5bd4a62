import RtlLiterals.Proofs.Scan.Order
import RtlLiterals.Proofs.Text.LineStarts
import RtlLiterals.Session

/-!
# RtlLiterals.Proofs.Session.Ranges -- the ranges for an editor are the offsets of the matches

A session hands an editor places, not offsets. Places keep what offsets say (`strictMonoOn_ofOffset`
and `offsetAt?_ofOffset`), so the ranges are as the matches are: each has room, each is behind the one
before it, and read back with the starts of the lines they are the offsets of the matches.

⚠ BOUNDARY: a session that walks trees takes them from a reader. The literals of a tree have to be
apart (`TreeReader.ApartOn`); for plain text nothing is relied on.
-/

namespace RtlLiterals

/-! ## §A Ranges of matches -/

/-- **`RangesOf t ms rs`** -- the ranges are those of the matches of the text: none is empty, their
starts grow, each ends where the next one starts or before, and the starts of the lines lead from
them to the offsets of the matches. -/
structure RangesOf (t : Text) (ms : List Match) (rs : List Range) : Prop where
  start_lt_stop : ∀ r ∈ rs, r.start < r.stop
  increasing : rs.Pairwise fun r r' => r.start < r'.start
  apart : rs.Pairwise fun r r' => r.stop ≤ r'.start
  offsets_eq : rs.map (fun r => (t.offsetAt? r.start, t.offsetAt? r.stop)) =
    ms.map fun m => (some m.start, some m.stop)

/-- Matches with room in the text, one behind the other, have such ranges. -/
theorem rangesOf_map {t : Text} {ms : List Match}
    (hroom : ∀ m ∈ ms, m.start < m.stop ∧ m.stop ≤ t.length)
    (hapart : ms.Pairwise fun m m' => m.stop ≤ m'.start) :
    RangesOf t ms (ms.map (Session.rangeOf t)) := by
  have hmono := Position.strictMonoOn_ofOffset t
  have hstop : ∀ m ∈ ms, m.stop ≤ t.length := fun m hm => (hroom m hm).2
  have hstart : ∀ m ∈ ms, m.start ≤ t.length := by
    intro m hm
    obtain ⟨hlt, hle⟩ := hroom m hm
    omega
  constructor
  · intro r hr
    obtain ⟨m, hm, rfl⟩ := List.mem_map.1 hr
    exact hmono (hstart m hm) (hstop m hm) (hroom m hm).1
  · rw [List.pairwise_map]
    refine hapart.imp_of_mem ?_
    intro m m' hm hm' hle
    apply hmono (hstart m hm) (hstart m' hm')
    exact Nat.lt_of_lt_of_le (hroom m hm).1 hle
  · rw [List.pairwise_map]
    refine hapart.imp_of_mem ?_
    intro m m' hm hm' hle
    exact hmono.monotoneOn (hstop m hm) (hstart m' hm') hle
  · rw [List.map_map]
    apply List.map_congr_left
    intro m hm
    show (t.offsetAt? (.ofOffset t m.start), t.offsetAt? (.ofOffset t m.stop)) = _
    rw [Position.offsetAt?_ofOffset (hstart m hm), Position.offsetAt?_ofOffset (hstop m hm)]

namespace Session

/-! ## §B A session with the trees of a reader -/

/-- The Arabic literals of a snapshot, with the trees of a reader. -/
def findBy (reader : TreeReader) (s : Session) (snap : Snapshot) : List Match :=
  scanBy reader (.resolve s.settings.strategy snap.language) snap.text

/-- The decorations of a snapshot, with the trees of a reader. -/
def decorationsBy (reader : TreeReader) (s : Session) (snap : Snapshot) : Decorations where
  revision := snap.revision
  style := s.style
  ranges :=
    if s.settings.enabled then (s.findBy reader snap).map (rangeOf snap.text) else []

/-- Decorates a snapshot with the trees of a reader, unless the request is stale. -/
def decorateBy (reader : TreeReader) (s : Session) (snap : Snapshot) :
    Session × Option Decorations :=
  if s.isStale snap then (s, none)
  else ({ s with latest := some snap.revision }, some (s.decorationsBy reader snap))

theorem findBy_builtin (s : Session) (snap : Snapshot) : s.findBy .builtin snap = s.find snap := rfl

theorem decorateBy_builtin (s : Session) (snap : Snapshot) :
    s.decorateBy .builtin snap = s.decorate snap := rfl

theorem rangesOf_decorationsBy {reader : TreeReader} {s : Session} {snap : Snapshot}
    (henabled : s.settings.enabled = true)
    (htrees : ∀ language, Strategy.resolve s.settings.strategy snap.language = .grammar language →
      reader.ApartOn language snap.text) :
    RangesOf snap.text (s.findBy reader snap) (s.decorationsBy reader snap).ranges := by
  have hplaced := placed_spansBy_of_apartOn htrees
  have hranges : (s.decorationsBy reader snap).ranges =
      (s.findBy reader snap).map (rangeOf snap.text) := if_pos henabled
  rw [hranges]
  apply rangesOf_map
  · intro m hm
    exact room_of_mem_scanBy hplaced hm
  · exact apart_scanBy hplaced

/-- **Places are offsets.** The place of an offset counts the breaks up to it and the characters from
the start of its line, where an offset behind the text is taken for its end; up to there no two
offsets share a place, and places grow with the offset. So when decorations are on and the request
is not stale, the ranges are those of the matches that `find` gives. -/
theorem decorate_rangesOf :
    (∀ (t : Text) (offset : Nat),
      (Position.ofOffset t offset).IsAt t (min offset t.length)) ∧
    (∀ t : Text, Set.InjOn (Position.ofOffset t) (Set.Iic t.length) ∧
      StrictMonoOn (Position.ofOffset t) (Set.Iic t.length)) ∧
    (∀ (reader : TreeReader) (s : Session) (snap : Snapshot), s.settings.enabled = true →
      ¬ s.isStale snap = true →
      (∀ language, Strategy.resolve s.settings.strategy snap.language = .grammar language →
        reader.ApartOn language snap.text) →
      ∃ d, (s.decorateBy reader snap).2 = some d ∧
        RangesOf snap.text (s.findBy reader snap) d.ranges) ∧
    ∀ (s : Session) (snap : Snapshot),
      s.decorateBy .builtin snap = s.decorate snap ∧ s.findBy .builtin snap = s.find snap := by
  refine ⟨?_, ?_, ?_, fun s snap => ⟨decorateBy_builtin s snap, findBy_builtin s snap⟩⟩
  · intro t offset
    rw [← Position.ofOffset_min]
    exact Position.isAt_ofOffset (Nat.min_le_right offset t.length)
  · intro t
    have hmono := Position.strictMonoOn_ofOffset t
    exact ⟨hmono.injOn, hmono⟩
  · intro reader s snap henabled hfresh htrees
    refine ⟨s.decorationsBy reader snap, ?_, rangesOf_decorationsBy henabled htrees⟩
    unfold decorateBy
    rw [if_neg hfresh]

/-- A program with a break of two characters, a template with a string inside, and a lone carriage
return. -/
def breaksSource : Text := Text.ofString "x;\r\n`$\x7b'\u0628'\x7d`\r"

/-- The tree of `breaksSource` as a JavaScript program. -/
def breaksTree : Tree.Node :=
  .mk "program" 0 14 false false
    [.mk "expression_statement" 0 2 false false
      [.mk "identifier" 0 1 false false [], .mk ";" 1 2 false false []],
    .mk "expression_statement" 4 13 false false
      [.mk "template_string" 4 13 false false
        [.mk "`" 4 5 false false [],
          .mk "template_substitution" 5 12 false false
            [.mk "$\x7b" 5 7 false false [],
              .mk "string" 7 11 false false
                [.mk "'" 7 8 false false [], .mk "string_fragment" 8 10 false false [],
                  .mk "'" 10 11 false false []],
              .mk "\x7d" 11 12 false false []],
          .mk "`" 12 13 false false []]]]

/-- The offset inside the break is on the first line, those behind the text are at its end, and the
string of the template is on the second line. -/
theorem decorate_rangesOf_breaks :
    (Position.ofOffset breaksSource 3 = ⟨0, 3⟩ ∧ (⟨0, 3⟩ : Position).IsAt breaksSource 3) ∧
      (Position.ofOffset breaksSource 20 = ⟨2, 0⟩ ∧ (⟨2, 0⟩ : Position).IsAt breaksSource 13) ∧
      ∃ d, ((Session.new ⟨true, .syntactic, .default⟩).decorateBy
          (.only .javaScript breaksSource breaksTree) ⟨1, .javaScript, breaksSource⟩).2 = some d ∧
        d.ranges = [⟨⟨1, 3⟩, ⟨1, 6⟩⟩] ∧
        RangesOf breaksSource [⟨Text.ofString "\u0628", 1, 7, 10⟩] d.ranges := by
  obtain ⟨hplaces, _, hranges, _⟩ := decorate_rangesOf
  refine ⟨⟨by decide, hplaces breaksSource 3⟩, ⟨by decide, hplaces breaksSource 20⟩, ?_⟩
  have hsound : breaksTree.Sound .javaScript breaksSource := by decide
  obtain ⟨d, hd, hencodes⟩ := hranges (.only .javaScript breaksSource breaksTree)
    (.new ⟨true, .syntactic, .default⟩) ⟨1, .javaScript, breaksSource⟩ rfl (by decide) (by
      intro language hlanguage
      cases hlanguage
      exact (TreeReader.soundOn_only hsound).apartOn)
  have hfound : (Session.new ⟨true, .syntactic, .default⟩).findBy
      (.only .javaScript breaksSource breaksTree) ⟨1, .javaScript, breaksSource⟩ =
        [⟨Text.ofString "\u0628", 1, 7, 10⟩] := by
    show scanBy (.only .javaScript breaksSource breaksTree) (.grammar .javaScript) breaksSource = _
    rw [scanBy, Strategy.spansBy, syntacticSpansBy_only, Tree.literals,
      Tree.Cursor.walk_eq_foldl_preorder]
    decide
  rw [hfound] at hencodes
  refine ⟨d, hd, ?_, hencodes⟩
  obtain rfl := Option.some.inj hd
  show (Session.findBy _ _ _).map (rangeOf breaksSource) = _
  rw [hfound]
  decide

end Session

end RtlLiterals
