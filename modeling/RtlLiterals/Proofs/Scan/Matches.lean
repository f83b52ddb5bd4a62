import RtlLiterals.Proofs.Scan.Lines
import RtlLiterals.Proofs.Tree.Yield
import RtlLiterals.Scan

/-!
# RtlLiterals.Proofs.Scan.Matches -- what a match says of the source is so

A scan joins three passes that only move forward: the extraction of spans, the cursor that turns
bytes into characters, and the count of lines for the spans that are kept. Each match it gives can
be checked against the source alone: `Match.StandsIn` is that check, and every match of every scan
passes it, the matches standing one behind the other.

⚠ BOUNDARY: a scan by grammar takes its trees from a reader. The collection of literals relies on the
literals of the tree of a source being apart (`TreeReader.ApartOn`), as they are if the tree is sound
(`TreeReader.SoundOn`); for plain text nothing is relied on.
-/

namespace RtlLiterals

/-! ## §A Spans of a strategy -/

/-- The tree that a reader has of a source is sound. -/
def TreeReader.SoundOn (reader : TreeReader) (language : Language) (source : Text) : Prop :=
  ∀ treeOf root, reader language = some treeOf → treeOf source = some root →
    root.Sound language source

/-- The literals of the tree that a reader has of a source are apart. -/
def TreeReader.ApartOn (reader : TreeReader) (language : Language) (source : Text) : Prop :=
  ∀ treeOf root, reader language = some treeOf → treeOf source = some root →
    root.LiteralsApart language source

theorem TreeReader.SoundOn.apartOn {reader : TreeReader} {language : Language} {source : Text}
    (h : reader.SoundOn language source) : reader.ApartOn language source := by
  intro treeOf root hreader htree
  exact (h treeOf root hreader htree).literalsApart

theorem placed_syntacticSpansBy_of_apartOn {reader : TreeReader} {language : Language}
    {source : Text} (h : reader.ApartOn language source) :
    Placed source (syntacticSpansBy reader language source) := by
  unfold syntacticSpansBy
  cases hreader : reader language with
  | none => exact Lexical.placed_lexicalSpans source
  | some treeOf =>
    cases htree : treeOf source with
    | none =>
      simp only [htree]
      exact .nil source
    | some root =>
      simp only [htree]
      have hapart := h treeOf root hreader htree
      exact Tree.placed_literals_of_apart (Tree.Node.literalsApart_iff.1 hapart)

theorem placed_syntacticSpansBy {reader : TreeReader} {language : Language} {source : Text}
    (h : reader.SoundOn language source) :
    Placed source (syntacticSpansBy reader language source) :=
  placed_syntacticSpansBy_of_apartOn h.apartOn

theorem placed_spansBy_of_apartOn {reader : TreeReader} {strategy : Strategy} {source : Text}
    (h : ∀ language, strategy = .grammar language → reader.ApartOn language source) :
    Placed source (strategy.spansBy reader source) := by
  cases strategy with
  | lexical => exact Lexical.placed_lexicalSpans source
  | grammar language => exact placed_syntacticSpansBy_of_apartOn (h language rfl)

theorem placed_spansBy {reader : TreeReader} {strategy : Strategy} {source : Text}
    (h : ∀ language, strategy = .grammar language → reader.SoundOn language source) :
    Placed source (strategy.spansBy reader source) :=
  placed_spansBy_of_apartOn fun language hlanguage => (h language hlanguage).apartOn

/-- Placed spans start in order. -/
theorem Placed.starts_le {source : Text} {spans : List Span} (h : Placed source spans) :
    spans.Pairwise fun s t => s.start ≤ t.start := by
  refine h.apart.imp_of_mem ?_
  intro s t hs _ hst
  exact Nat.le_trans (Nat.le_of_lt (h.standsIn s hs).start_lt_stop) hst

/-! ## §B Matches of a scan -/

/-- **`m.StandsIn source`** -- the match is a literal of the source: it has room in it, covers its
text between two quotes of one kind, with no quote before the first and none of that kind after the
last, holds a character of an Arabic block, and has the line feeds before it for its line. -/
structure Match.StandsIn (source : Text) (m : Match) : Prop where
  start_lt_stop : m.start < m.stop
  stop_le : m.stop ≤ source.length
  slice_eq : ∃ p q s, source.slice m.start m.stop = p ++ q :: m.text ++ q :: s ∧
    isQuote q = true ∧ (∀ c ∈ p, isQuote c = false) ∧ q ∉ s
  arabic : ∃ c ∈ m.text, ∃ r ∈ arabicRanges, r.first ≤ c.toNat ∧ c.toNat ≤ r.last
  line_eq : m.line = Text.lineFeeds (source.take m.start)

theorem Span.StandsIn.toMatch {source : Text} {s : Span} (h : s.StandsIn source)
    (harabic : hasArabic s.content = true) : (s.toMatch source).StandsIn source where
  start_lt_stop := h.start_lt_stop
  stop_le := h.stop_le
  slice_eq := unquote_eq_some_iff.1 h.unquote_slice
  arabic := by
    obtain ⟨c, hc, hblock⟩ := hasArabic_iff.1 harabic
    exact ⟨c, hc, isArabicChar_iff.1 hblock⟩
  line_eq := rfl

/-- **The matches of a scan.** By either strategy, in every language, each match is a literal of the
source with its own line, and each starts where the one before it has ended or later. -/
theorem scanBy_standsIn (reader : TreeReader) (strategy : Strategy) (source : Text)
    (h : ∀ language, strategy = .grammar language → reader.SoundOn language source) :
    (∀ m ∈ scanBy reader strategy source, m.StandsIn source) ∧
      (scanBy reader strategy source).Pairwise fun m m' => m.stop ≤ m'.start := by
  have hplaced := placed_spansBy h
  rw [scanBy, classify_eq_map_filter hplaced.starts_le]
  constructor
  · intro m hm
    obtain ⟨s, hs, rfl⟩ := List.mem_map.1 hm
    obtain ⟨hmem, harabic⟩ := List.mem_filter.1 hs
    exact (hplaced.standsIn s hmem).toMatch harabic
  · exact List.pairwise_map.2 (hplaced.apart.filter _)

/-! ## §C One source -/

/-- The reader that knows the tree of one source in one language. -/
def TreeReader.only (language : Language) (source : Text) (root : Tree.Node) : TreeReader :=
  fun l => if l = language then some fun t => if t = source then some root else none else none

theorem TreeReader.soundOn_only {language : Language} {source : Text} {root : Tree.Node}
    (h : root.Sound language source) : (only language source root).SoundOn language source := by
  intro treeOf tree hreader htree
  rw [only, if_pos rfl, Option.some.injEq] at hreader
  subst hreader
  replace htree : (if source = source then some root else none) = some tree := htree
  rw [if_pos rfl] at htree
  cases htree
  exact h

theorem syntacticSpansBy_only (language : Language) (source : Text) (root : Tree.Node) :
    syntacticSpansBy (.only language source root) language source =
      Tree.literals language source root := by
  simp [syntacticSpansBy, TreeReader.only]

/-- A template whose only literal is inside a substitution. -/
def templateSource : Text := Text.ofString "`$\x7b'\u0628'\x7d`"

/-- The tree of `templateSource` as a JavaScript program. -/
def templateTree : Tree.Node :=
  .mk "program" 0 9 false false
    [.mk "expression_statement" 0 9 false false
      [.mk "template_string" 0 9 false false
        [.mk "`" 0 1 false false [],
          .mk "template_substitution" 1 8 false false
            [.mk "$\x7b" 1 3 false false [],
              .mk "string" 3 7 false false
                [.mk "'" 3 4 false false [], .mk "string_fragment" 4 6 false false [],
                  .mk "'" 6 7 false false []],
              .mk "\x7d" 7 8 false false []],
          .mk "`" 8 9 false false []]]]

theorem templateTree_sound : templateTree.Sound .javaScript templateSource := by decide

/-- The one match of `templateSource`, between the quotes inside the template. -/
theorem scanBy_standsIn_template :
    scanBy (.only .javaScript templateSource templateTree) (.grammar .javaScript) templateSource =
        [⟨Text.ofString "\u0628", 0, 3, 6⟩] ∧
      (∀ m ∈ scanBy (.only .javaScript templateSource templateTree) (.grammar .javaScript)
        templateSource, m.StandsIn templateSource) ∧
      (scanBy (.only .javaScript templateSource templateTree) (.grammar .javaScript)
        templateSource).Pairwise fun m m' => m.stop ≤ m'.start := by
  refine ⟨?_, scanBy_standsIn _ _ _ ?_⟩
  · rw [scanBy, Strategy.spansBy, syntacticSpansBy_only, Tree.literals,
      Tree.Cursor.walk_eq_foldl_preorder]
    decide
  · intro language hlanguage
    cases hlanguage
    exact TreeReader.soundOn_only templateTree_sound

end RtlLiterals
