import RtlLiterals.Proofs.Literal.Placement
import RtlLiterals.Proofs.Tree.Preorder
import RtlLiterals.Tree.Literals

/-!
# RtlLiterals.Proofs.Tree.Spans -- the literals of a syntax tree

A syntax tree comes from a parser. What the collection of literals needs of it follows from `Sound`:
the nodes are placed as in a tree over the source, and no literal stands inside another one. On such
a tree the collection is a list function of the nodes: every literal gives its span, in the order of
the walk, and the spans are placed in the source.

## §A How it goes

`Node.content?` is the test that a visit makes of a node, and `spanOf?` the span of a node that
passes it. Literals of a sound tree come one behind the other in preorder
(`literals_apart`, by induction over the tree). Where they do, whether the tree is sound or not, the
cursor of the collector is never sent back and gives each offset exactly (`foldl_visit`).

⚠ BOUNDARY: neither is proved of any parser here. The collection relies on it, and every statement
about trees names what it relies on.
-/

namespace RtlLiterals.Tree

/-! ## §B What is relied on -/

/-- The content of a node that is a literal with a quoted text. -/
def Node.content? (language : Language) (source : Text) (n : Node) : Option Text :=
  if n.isLiteral language then (Text.sliceBytes? source n.start n.stop).bind unquote else none

/-- **`n.Placed source`** -- the node is a range of the source between two characters, and its
children lie in it, in order and without overlap. -/
structure Node.Placed (source : Text) (n : Node) : Prop where
  start_le_stop : n.start ≤ n.stop
  start_boundary : (source.dropBytes? n.start).isSome = true
  stop_boundary : (source.dropBytes? n.stop).isSome = true
  children_inside : ∀ c ∈ n.children, n.start ≤ c.start ∧ c.stop ≤ n.stop
  children_apart : n.children.Pairwise fun c d => c.stop ≤ d.start

/-- **`root.Sound language source`** -- the nodes are placed as in a tree over the source, and a
node that holds a literal has no other one below it. -/
structure Node.Sound (language : Language) (source : Text) (root : Node) : Prop where
  placed : ∀ n ∈ root.preorder, n.Placed source
  unnested : ∀ n ∈ root.preorder, (n.content? language source).isSome = true →
    ∀ m ∈ n.descendants, m.content? language source = none

instance (source : Text) (n : Node) : Decidable (n.Placed source) :=
  decidable_of_iff
    (n.start ≤ n.stop ∧ (source.dropBytes? n.start).isSome = true ∧
      (source.dropBytes? n.stop).isSome = true ∧
      (∀ c ∈ n.children, n.start ≤ c.start ∧ c.stop ≤ n.stop) ∧
      n.children.Pairwise fun c d => c.stop ≤ d.start)
    ⟨fun ⟨h₁, h₂, h₃, h₄, h₅⟩ => ⟨h₁, h₂, h₃, h₄, h₅⟩,
      fun ⟨h₁, h₂, h₃, h₄, h₅⟩ => ⟨h₁, h₂, h₃, h₄, h₅⟩⟩

instance (language : Language) (source : Text) (root : Node) :
    Decidable (root.Sound language source) :=
  decidable_of_iff
    ((∀ n ∈ root.preorder, n.Placed source) ∧
      ∀ n ∈ root.preorder, (n.content? language source).isSome = true →
        ∀ m ∈ n.descendants, m.content? language source = none)
    ⟨fun ⟨h₁, h₂⟩ => ⟨h₁, h₂⟩, fun ⟨h₁, h₂⟩ => ⟨h₁, h₂⟩⟩

/-! ## §C Nodes and characters -/

/-- The character that starts at a byte, or the next one. -/
def charOffset (source : Text) (byte : Nat) : Nat := ((OffsetCursor.start source).advance byte).chars

theorem charOffset_byteOffset {source : Text} {n : Nat} (hn : n ≤ source.length) :
    charOffset source (source.byteOffset n) = n := by
  rw [charOffset, OffsetCursor.start_eq_onChar, OffsetCursor.advance_of_le (Nat.zero_le n) hn,
    OffsetCursor.onChar_chars]

/-- The span of a node that holds a literal. -/
def spanOf? (language : Language) (source : Text) (n : Node) : Option Span :=
  (n.content? language source).map fun content =>
    ⟨content, charOffset source n.start, charOffset source n.stop⟩

/-- **The span of a node.** It stands in the source and covers the bytes of the node. A node that is
not placed between two characters has no text, and so no span. -/
theorem spanOf?_eq_some_iff {language : Language} {source : Text} {n : Node} {s : Span} :
    spanOf? language source n = some s ↔
      n.isLiteral language = true ∧ s.StandsIn source ∧ source.byteOffset s.start = n.start ∧
        source.byteOffset s.stop = n.stop := by
  unfold spanOf? Node.content?
  constructor
  · intro h
    split at h
    next hliteral =>
      obtain ⟨content, hcontent, rfl⟩ := Option.map_eq_some_iff.1 h
      obtain ⟨text, htext, hunquote⟩ := Option.bind_eq_some_iff.1 hcontent
      obtain ⟨a, b, hab, hb, hstart, hstop⟩ := Text.exists_byteOffset_of_sliceBytes? htext
      rw [← hstart, ← hstop, Text.sliceBytes?_byteOffset source hab, Option.some.injEq] at htext
      rw [← hstart, ← hstop, charOffset_byteOffset (Nat.le_trans hab hb), charOffset_byteOffset hb]
      exact ⟨hliteral, ⟨hb, by rw [htext, hunquote]⟩, rfl, rfl⟩
    next => cases h
  · rintro ⟨hliteral, hstands, hstart, hstop⟩
    have hle := Nat.le_of_lt hstands.start_lt_stop
    rw [if_pos hliteral, ← hstart, ← hstop, Text.sliceBytes?_byteOffset source hle, Option.bind_some,
      hstands.unquote_slice, Option.map_some, charOffset_byteOffset hstands.stop_le,
      charOffset_byteOffset (Nat.le_trans hle hstands.stop_le)]

/-! ## §D Nodes apart -/

/-- Everything below a node lies in it. -/
theorem inside_of_mem_preorder {source : Text} {n : Node}
    (h : ∀ m ∈ n.preorder, m.Placed source) :
    ∀ m ∈ n.preorder, n.start ≤ m.start ∧ m.stop ≤ n.stop := by
  induction n using Node.inductionOn with
  | _ n ih =>
    intro m hm
    rw [Node.preorder_eq] at hm
    rcases List.mem_cons.1 hm with rfl | hm
    · exact ⟨Nat.le_refl _, Nat.le_refl _⟩
    · obtain ⟨c, hc, hm⟩ := Node.mem_descendants_iff.1 hm
      have hin := (h n n.self_mem_preorder).children_inside c hc
      have hsub := ih c hc (fun k hk => h k (Node.mem_preorder_of_child hc hk)) m hm
      omega

/-- **Literals of a sound tree are apart.** In the order of the walk each ends before the next one
starts. -/
theorem literals_apart {language : Language} {source : Text} {root : Node}
    (h : root.Sound language source) :
    root.preorder.Pairwise fun n m => (n.content? language source).isSome = true →
      (m.content? language source).isSome = true → n.stop ≤ m.start := by
  obtain ⟨hplaced, hunnested⟩ := h
  induction root using Node.inductionOn with
  | _ root ih =>
    have hself := root.self_mem_preorder
    rw [Node.preorder_eq]
    refine List.pairwise_cons.2 ⟨?_, ?_⟩
    · intro m hm hroot hsome
      rw [hunnested root hself hroot m hm] at hsome
      cases hsome
    · rw [Node.descendants, Node.preorders_eq_flatMap, List.pairwise_flatMap]
      have hsub (c : Node) (hc : c ∈ root.children) : ∀ k ∈ c.preorder, k ∈ root.preorder :=
        fun k hk => Node.mem_preorder_of_child hc hk
      constructor
      · intro c hc
        exact ih c hc (fun k hk => hplaced k (hsub c hc k hk))
          (fun k hk => hunnested k (hsub c hc k hk))
      · refine (hplaced root hself).children_apart.imp_of_mem ?_
        intro c d hc hd hcd n hn m hm _ _
        have hnc := inside_of_mem_preorder (fun k hk => hplaced k (hsub c hc k hk)) n hn
        have hmd := inside_of_mem_preorder (fun k hk => hplaced k (hsub d hd k hk)) m hm
        omega

/-- The spans of a sound tree are apart. -/
theorem apart_spanOf? {language : Language} {source : Text} {root : Node}
    (h : root.Sound language source) :
    (root.preorder.filterMap (spanOf? language source)).Pairwise fun s t => s.stop ≤ t.start := by
  rw [List.pairwise_filterMap]
  refine (literals_apart h).imp fun {n m} hnm s hs t ht => ?_
  have hn : (n.content? language source).isSome = true := by
    rw [← Option.isSome_map, ← spanOf?, hs, Option.isSome_some]
  have hm : (m.content? language source).isSome = true := by
    rw [← Option.isSome_map, ← spanOf?, ht, Option.isSome_some]
  have hle := hnm hn hm
  obtain ⟨_, hs, _, hstop⟩ := spanOf?_eq_some_iff.1 hs
  obtain ⟨_, _, hstart, _⟩ := spanOf?_eq_some_iff.1 ht
  rw [← hstop, ← hstart] at hle
  exact (Text.byteOffset_le_iff hs.stop_le).1 hle

/-! ## §E The collection -/

/-- A visit adds the span of the node, measured by the collector's cursor. -/
theorem visit_eq (language : Language) (source : Text) (c : Collector) (n : Node) :
    c.visit language source n =
      match n.content? language source with
      | some content =>
        let opening := c.offsets.advance n.start
        let closing := opening.advance n.stop
        ⟨closing, ⟨content, opening.chars, closing.chars⟩ :: c.found⟩
      | none => c := by
  unfold Collector.visit Node.content?
  by_cases h : n.isLiteral language = true
  · cases (Text.sliceBytes? source n.start n.stop).bind unquote with
    | none => simp only [if_pos h]
    | some content => simp only [if_pos h]
  · rw [if_neg h, if_neg h]

/-- A node without a span is passed. -/
theorem visit_of_spanOf?_eq_none {language : Language} {source : Text} {n : Node}
    (h : spanOf? language source n = none) (c : Collector) : c.visit language source n = c := by
  rw [visit_eq, Option.map_eq_none_iff.1 h]

/-- The span of a node behind the cursor is taken, and the cursor goes to its end. -/
theorem visit_of_spanOf?_eq_some {language : Language} {source : Text} {n : Node} {s : Span} {k : Nat}
    (h : spanOf? language source n = some s) (hk : k ≤ s.start) (found : List Span) :
    Collector.visit language source ⟨.onChar source k, found⟩ n =
      ⟨.onChar source s.stop, s :: found⟩ := by
  obtain ⟨_, hstands, hstart, hstop⟩ := spanOf?_eq_some_iff.1 h
  obtain ⟨content, hcontent, hspan⟩ := Option.map_eq_some_iff.1 h
  have hle := Nat.le_of_lt hstands.start_lt_stop
  rw [visit_eq, hcontent]
  simp only []
  rw [← hstart, ← hstop, OffsetCursor.advance_of_le hk (Nat.le_trans hle hstands.stop_le),
    OffsetCursor.advance_of_le hle hstands.stop_le, OffsetCursor.onChar_chars,
    OffsetCursor.onChar_chars, ← hspan]

/-- **The collection as a list.** Over nodes whose spans are apart and behind the cursor, it adds
these spans in order. -/
theorem foldl_visit {language : Language} {source : Text} {ns : List Node} {k : Nat}
    (found : List Span)
    (hapart : (ns.filterMap (spanOf? language source)).Pairwise fun s t => s.stop ≤ t.start)
    (hbehind : ∀ s ∈ ns.filterMap (spanOf? language source), k ≤ s.start) :
    (ns.foldl (Collector.visit language source) ⟨.onChar source k, found⟩).found.reverse =
      found.reverse ++ ns.filterMap (spanOf? language source) := by
  induction ns generalizing k found with
  | nil => simp
  | cons n ns ih =>
    rw [List.foldl_cons]
    cases hspan : spanOf? language source n with
    | none =>
      rw [List.filterMap_cons_none hspan] at hapart hbehind ⊢
      rw [visit_of_spanOf?_eq_none hspan]
      exact ih found hapart hbehind
    | some s =>
      rw [List.filterMap_cons_some hspan] at hapart hbehind ⊢
      obtain ⟨hfirst, hrest⟩ := List.pairwise_cons.1 hapart
      rw [visit_of_spanOf?_eq_some hspan (hbehind s (List.mem_cons_self ..)), ih _ hrest hfirst]
      simp

/-- **The literals of a tree.** Where the spans of the nodes are apart in the order of the walk, the
collection gives these spans. -/
theorem literals_eq_filterMap {language : Language} {source : Text} {root : Node}
    (hapart : (root.preorder.filterMap (spanOf? language source)).Pairwise
      fun s t => s.stop ≤ t.start) :
    literals language source root = root.preorder.filterMap (spanOf? language source) := by
  rw [literals, Cursor.walk_eq_foldl_preorder, OffsetCursor.start_eq_onChar,
    foldl_visit [] hapart fun _ _ => Nat.zero_le _]
  rfl

theorem placed_literals_of_apart {language : Language} {source : Text} {root : Node}
    (hapart : (root.preorder.filterMap (spanOf? language source)).Pairwise
      fun s t => s.stop ≤ t.start) :
    RtlLiterals.Placed source (literals language source root) := by
  rw [literals_eq_filterMap hapart]
  refine ⟨fun s hs => ?_, hapart⟩
  obtain ⟨_, _, hspan⟩ := List.mem_filterMap.1 hs
  exact (spanOf?_eq_some_iff.1 hspan).2.1

end RtlLiterals.Tree
