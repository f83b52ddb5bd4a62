import RtlLiterals.Proofs.Scan.Matches

/-!
# RtlLiterals.Proofs.Scan.Order -- spans start in order, whatever tree they come from

The cursor that turns bytes into characters never moves back. So the spans of a walk start in order
even over a tree whose nodes are out of order or one in another: nothing is asked of the tree. With
spans in order each match gets the line of its own start, and a scan is a list function of its spans
(`scanBy_eq_map_filter`).
-/

namespace RtlLiterals

/-! ## §A The cursor only moves forward -/

namespace OffsetCursor

theorem chars_le_seek (target : Nat) (rest : Text) (bytes chars : Nat) :
    chars ≤ (seek target rest bytes chars).chars := by
  fun_induction seek target rest bytes chars with
  | case1 => exact Nat.le_refl _
  | case2 bytes chars c rest _ ih => exact Nat.le_of_succ_le ih
  | case3 => exact Nat.le_refl _

theorem chars_le_advance (c : OffsetCursor) (target : Nat) : c.chars ≤ (c.advance target).chars :=
  chars_le_seek target c.rest c.bytes c.chars

end OffsetCursor

/-! ## §B Any tree -/

namespace Tree

/-- **`c.Ordered`** -- the spans collected so far start in order, and none behind the cursor. -/
structure Collector.Ordered (c : Collector) : Prop where
  starts_le : c.found.Pairwise fun s t => t.start ≤ s.start
  behind : ∀ s ∈ c.found, s.start ≤ c.offsets.chars

/-- **One visit.** A span is taken where the cursor stands then, and the cursor goes on. -/
theorem Collector.Ordered.visit {c : Collector} (h : c.Ordered) (language : Language)
    (source : Text) (n : Node) : (c.visit language source n).Ordered := by
  rw [visit_eq]
  cases n.content? language source with
  | none => exact h
  | some content =>
    have hopening := c.offsets.chars_le_advance n.start
    have hclosing := (c.offsets.advance n.start).chars_le_advance n.stop
    constructor
    · refine List.pairwise_cons.2 ⟨?_, h.starts_le⟩
      intro s hs
      exact Nat.le_trans (h.behind s hs) hopening
    · intro s hs
      rcases List.mem_cons.1 hs with rfl | hs
      · exact hclosing
      · exact Nat.le_trans (h.behind s hs) (Nat.le_trans hopening hclosing)

theorem Collector.Ordered.foldl_visit {c : Collector} (h : c.Ordered) (language : Language)
    (source : Text) (ns : List Node) : (ns.foldl (Collector.visit language source) c).Ordered := by
  induction ns generalizing c with
  | nil => exact h
  | cons n ns ih => exact ih (h.visit language source n)

/-- **The literals of any tree start in order.** -/
theorem starts_le_literals (language : Language) (source : Text) (root : Node) :
    (literals language source root).Pairwise fun s t => s.start ≤ t.start := by
  have hstart : Collector.Ordered ⟨.start source, []⟩ := ⟨.nil, by simp⟩
  rw [literals, Cursor.walk_eq_foldl_preorder, List.pairwise_reverse]
  exact (hstart.foldl_visit language source root.preorder).starts_le

end Tree

/-! ## §C Scans -/

theorem starts_le_syntacticSpansBy (reader : TreeReader) (language : Language) (source : Text) :
    (syntacticSpansBy reader language source).Pairwise fun s t => s.start ≤ t.start := by
  unfold syntacticSpansBy
  cases reader language with
  | none => exact (Lexical.placed_lexicalSpans source).starts_le
  | some treeOf =>
    cases htree : treeOf source with
    | none =>
      simp only [htree]
      exact .nil
    | some root =>
      simp only [htree]
      exact Tree.starts_le_literals language source root

theorem starts_le_spansBy (reader : TreeReader) (strategy : Strategy) (source : Text) :
    (strategy.spansBy reader source).Pairwise fun s t => s.start ≤ t.start := by
  cases strategy with
  | lexical => exact (Lexical.placed_lexicalSpans source).starts_le
  | grammar language => exact starts_le_syntacticSpansBy reader language source

/-- **A scan as a list.** It keeps the spans with Arabic content, each with the line of its own
start. Nothing is relied on, neither for the strategy nor for the trees. -/
theorem scanBy_eq_map_filter (reader : TreeReader) (strategy : Strategy) (source : Text) :
    scanBy reader strategy source =
      ((strategy.spansBy reader source).filter fun s => hasArabic s.content).map
        (Span.toMatch source) :=
  classify_eq_map_filter (starts_le_spansBy reader strategy source)

theorem scan_eq_map_filter (source : Text) :
    scan source =
      ((lexicalSpans source).filter fun s => hasArabic s.content).map (Span.toMatch source) :=
  scanBy_eq_map_filter .builtin .lexical source

section

variable {reader : TreeReader} {strategy : Strategy} {source : Text}

/-- Where the spans are placed, each match has room in the source. -/
theorem room_of_mem_scanBy (h : Placed source (strategy.spansBy reader source)) {m : Match}
    (hm : m ∈ scanBy reader strategy source) : m.start < m.stop ∧ m.stop ≤ source.length := by
  rw [scanBy_eq_map_filter] at hm
  obtain ⟨s, hs, rfl⟩ := List.mem_map.1 hm
  have hstands := h.standsIn s (List.mem_filter.1 hs).1
  exact ⟨hstands.start_lt_stop, hstands.stop_le⟩

theorem apart_scanBy (h : Placed source (strategy.spansBy reader source)) :
    (scanBy reader strategy source).Pairwise fun m m' => m.stop ≤ m'.start := by
  rw [scanBy_eq_map_filter]
  exact List.pairwise_map.2 (h.apart.filter _)

end

theorem start_lt_stop_of_mem_scan {source : Text} {m : Match} (h : m ∈ scan source) :
    m.start < m.stop :=
  (room_of_mem_scanBy (Lexical.placed_lexicalSpans source) h).1

theorem stop_le_of_mem_scan {source : Text} {m : Match} (h : m ∈ scan source) :
    m.stop ≤ source.length :=
  (room_of_mem_scanBy (Lexical.placed_lexicalSpans source) h).2

end RtlLiterals
