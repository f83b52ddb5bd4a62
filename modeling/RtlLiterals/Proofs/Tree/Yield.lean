import RtlLiterals.Proofs.Tree.Paths
import RtlLiterals.Proofs.Tree.Spans

/-!
# RtlLiterals.Proofs.Tree.Yield -- which nodes of a syntax tree give a literal

The collection of literals visits the nodes of a tree one by one and takes a span for some of them.
`Node.Holds` says, without the functions that do it, which nodes these are and what their spans are.
`Yields` says of a list of nodes that they give a list of spans: one for each node that holds a
literal, in the order of the nodes, and none for the others.

## §A What is relied on

`Node.LiteralsApart`: of two nodes with a literal, the one visited first ends where the other one
starts or before. It is less than `Node.Sound`: nodes without a literal may be anywhere. The cursor
that turns bytes into characters never moves back, so without it offsets would be wrong.
-/

namespace RtlLiterals.Tree

/-! ## §B Nodes with a literal -/

/-- **`n.Holds language source s`** -- the node is a literal of the language with the span `s`. It is
of a kind for strings, could be read, is there, and has no substitution for a child; its range are
the characters from `s.start` to `s.stop`; and in this text, the content stands between the first
quote and the last quote of the same kind. -/
structure Node.Holds (language : Language) (source : Text) (n : Node) (s : Span) : Prop where
  kind_mem : n.kind ∈ language.literalKinds
  not_broken : n.broken = false
  not_missing : n.missing = false
  no_substitution : ∀ k, language.substitutionKind? = some k → ∀ c ∈ n.children, c.kind ≠ k
  stop_le : s.stop ≤ source.length
  start_eq : source.byteOffset s.start = n.start
  stop_eq : source.byteOffset s.stop = n.stop
  quoted : ∃ p q r, source.slice s.start s.stop = p ++ q :: s.content ++ q :: r ∧
    isQuote q = true ∧ (∀ c ∈ p, isQuote c = false) ∧ q ∉ r

theorem Node.isLiteral_iff {language : Language} {n : Node} :
    n.isLiteral language = true ↔
      n.kind ∈ language.literalKinds ∧ n.broken = false ∧ n.missing = false ∧
        ∀ k, language.substitutionKind? = some k → ∀ c ∈ n.children, c.kind ≠ k := by
  unfold isLiteral
  cases language.substitutionKind? <;> simp [and_assoc]

/-- The span that the collection takes for a node is the one of its literal. -/
theorem holds_iff {language : Language} {source : Text} {n : Node} {s : Span} :
    n.Holds language source s ↔ spanOf? language source n = some s := by
  rw [spanOf?_eq_some_iff, Node.isLiteral_iff]
  constructor
  · intro h
    exact ⟨⟨h.kind_mem, h.not_broken, h.not_missing, h.no_substitution⟩,
      ⟨h.stop_le, unquote_eq_some_iff.2 h.quoted⟩, h.start_eq, h.stop_eq⟩
  · rintro ⟨⟨hkind, hbroken, hmissing, hsubstitution⟩, hstands, hstart, hstop⟩
    exact ⟨hkind, hbroken, hmissing, hsubstitution, hstands.stop_le, hstart, hstop,
      unquote_eq_some_iff.1 hstands.unquote_slice⟩

/-- **`Yields language source ns spans`** -- the nodes give the spans: one span for each node that
holds a literal, in the order of the nodes, and none for any other node. -/
inductive Yields (language : Language) (source : Text) : List Node → List Span → Prop
  | nil : Yields language source [] []
  | take {n : Node} {s : Span} {ns : List Node} {spans : List Span} :
    n.Holds language source s → Yields language source ns spans →
      Yields language source (n :: ns) (s :: spans)
  | pass {n : Node} {ns : List Node} {spans : List Span} :
    (∀ s, ¬ n.Holds language source s) → Yields language source ns spans →
      Yields language source (n :: ns) spans

theorem yields_filterMap (language : Language) (source : Text) (ns : List Node) :
    Yields language source ns (ns.filterMap (spanOf? language source)) := by
  induction ns with
  | nil => exact .nil
  | cons n ns ih =>
    cases hspan : spanOf? language source n with
    | none =>
      rw [List.filterMap_cons_none hspan]
      refine .pass ?_ ih
      intro s hs
      rw [holds_iff.1 hs] at hspan
      cases hspan
    | some s =>
      rw [List.filterMap_cons_some hspan]
      exact .take (holds_iff.2 hspan) ih

/-- **`root.LiteralsApart language source`** -- of two nodes with a literal, the first one in the
order of the walk ends where the other one starts or before. -/
def Node.LiteralsApart (language : Language) (source : Text) (root : Node) : Prop :=
  root.preorder.Pairwise fun n m => ∀ s t, n.Holds language source s → m.Holds language source t →
    s.stop ≤ t.start

theorem Node.literalsApart_iff {language : Language} {source : Text} {root : Node} :
    root.LiteralsApart language source ↔
      (root.preorder.filterMap (spanOf? language source)).Pairwise fun s t => s.stop ≤ t.start := by
  rw [LiteralsApart, List.pairwise_filterMap]
  simp only [holds_iff]
  constructor
  · intro h
    exact h.imp fun hnm s hs t ht => hnm s t hs ht
  · intro h
    exact h.imp fun hnm s t hs ht => hnm s hs t ht

theorem Node.Sound.literalsApart {language : Language} {source : Text} {root : Node}
    (h : root.Sound language source) : root.LiteralsApart language source :=
  literalsApart_iff.2 (apart_spanOf? h)

/-! ## §C Templates and words -/

/-- **`n.IsDynamic language`** -- a child of the node is a substitution. -/
def Node.IsDynamic (language : Language) (n : Node) : Prop :=
  ∃ k, language.substitutionKind? = some k ∧ ∃ c ∈ n.children, c.kind = k

/-- **`n.IsUnquoted source`** -- no character that the node covers is a quote. -/
def Node.IsUnquoted (source : Text) (n : Node) : Prop :=
  ∀ a b, source.byteOffset a = n.start → source.byteOffset b = n.stop →
    ∀ c ∈ source.slice a b, isQuote c = false

theorem Node.Holds.not_isDynamic {language : Language} {source : Text} {n : Node} {s : Span}
    (h : n.Holds language source s) : ¬ n.IsDynamic language := by
  rintro ⟨k, hk, c, hc, hkind⟩
  exact h.no_substitution k hk c hc hkind

theorem Node.Holds.not_isUnquoted {language : Language} {source : Text} {n : Node} {s : Span}
    (h : n.Holds language source s) : ¬ n.IsUnquoted source := by
  intro hunquoted
  obtain ⟨p, q, r, hslice, hq, _⟩ := h.quoted
  have hmem : q ∈ source.slice s.start s.stop := by
    rw [hslice]
    simp
  rw [hunquoted s.start s.stop h.start_eq h.stop_eq q hmem] at hq
  cases hq

/-! ## §D The collection -/

/-- **The literals of a tree.** The walk stands on the nodes of the tree in pre-order, on each place
once, and ends, whatever is done at a visit; the collection gives one span for each node that holds
a literal, in this order, and none for any other. So a node with a substitution gives none, while
the literals below it do; and a node without quotes gives none, whatever its kind. -/
theorem literals_of_literalsApart {language : Language} {source : Text} {root : Node}
    (hapart : root.LiteralsApart language source) :
    root.IsPreorder root.preorder ∧
      (∀ i, ((Cursor.root root).after i).map Cursor.node = root.preorder[i]?) ∧
      (∀ (σ : Type) (visit : σ → Node → σ) (state : σ),
        (Cursor.root root).walk visit state = root.preorder.foldl visit state) ∧
      Yields language source root.preorder (literals language source root) ∧
      (∀ path n, root.at? path = some n → n.IsDynamic language →
        (∀ s, ¬ n.Holds language source s) ∧
          ∀ below m s, n.at? below = some m → m.Holds language source s →
            s ∈ literals language source root) ∧
      ∀ n : Node, n.IsUnquoted source → ∀ s, ¬ n.Holds language source s := by
  have hliterals := literals_eq_filterMap (Node.literalsApart_iff.1 hapart)
  refine ⟨root.isPreorder_preorder, fun i => Cursor.node_after i root,
    fun _ visit state => Cursor.walk_eq_foldl_preorder visit state root, ?_, ?_, ?_⟩
  · rw [hliterals]
    exact yields_filterMap language source root.preorder
  · intro path n hn hdynamic
    refine ⟨fun s hs => hs.not_isDynamic hdynamic, ?_⟩
    intro below m s hm hs
    -- A node below the template is a node of the tree, and is visited by itself.
    have hroot : root.at? (path ++ below) = some m := by
      rw [Node.at?_append, hn, Option.bind_some, hm]
    rw [hliterals]
    exact List.mem_filterMap.2 ⟨m, Node.mem_preorder_iff.2 ⟨_, hroot⟩, holds_iff.1 hs⟩
  · intro n hunquoted s hs
    exact hs.not_isUnquoted hunquoted

/-- A declaration with the type `string`, whose value is a template with a string inside. -/
def typedSource : Text := Text.ofString "let s: string = `$\x7b'\u0628'\x7d`;"

/-- The template of `typedSource`. -/
def typedTemplate : Node :=
  .mk "template_string" 16 25 false false
    [.mk "`" 16 17 false false [],
      .mk "template_substitution" 17 24 false false
        [.mk "$\x7b" 17 19 false false [],
          .mk "string" 19 23 false false
            [.mk "'" 19 20 false false [], .mk "string_fragment" 20 22 false false [],
              .mk "'" 22 23 false false []],
          .mk "\x7d" 23 24 false false []],
      .mk "`" 24 25 false false []]

/-- The tree of `typedSource` as a TypeScript program. -/
def typedTree : Node :=
  .mk "program" 0 26 false false
    [.mk "lexical_declaration" 0 26 false false
      [.mk "let" 0 3 false false [],
        .mk "variable_declarator" 4 25 false false
          [.mk "identifier" 4 5 false false [],
            .mk "type_annotation" 5 13 false false
              [.mk ":" 5 6 false false [],
                .mk "predefined_type" 7 13 false false [.mk "string" 7 13 false false []]],
            .mk "=" 14 15 false false [], typedTemplate],
        .mk ";" 25 26 false false []]]

/-- Three nodes of `typedTree` are of a kind for strings. The type gives no span since it has no
quotes, and the template none since it has a substitution; the string inside the template does. -/
theorem literals_of_literalsApart_typed :
    typedTree.LiteralsApart .typeScript typedSource ∧
      literals .typeScript typedSource typedTree = [⟨Text.ofString "\u0628", 19, 22⟩] ∧
      ((Cursor.root typedTree).after 10).map Cursor.node = some typedTemplate ∧
      (∀ s, ¬ typedTemplate.Holds .typeScript typedSource s) ∧
      (∀ s, ¬ Node.Holds .typeScript typedSource (.mk "string" 7 13 false false []) s) ∧
      Yields .typeScript typedSource typedTree.preorder [⟨Text.ofString "\u0628", 19, 22⟩] := by
  have hsound : typedTree.Sound .typeScript typedSource := by decide
  have hspans : literals .typeScript typedSource typedTree =
      [⟨Text.ofString "\u0628", 19, 22⟩] := by
    rw [literals, Cursor.walk_eq_foldl_preorder]
    decide
  have htemplate : typedTree.at? [0, 1, 3] = some typedTemplate := rfl
  have hdynamic : typedTemplate.IsDynamic .typeScript := ⟨_, rfl, _, .tail _ (.head _), rfl⟩
  obtain ⟨_, hmoves, _, hyields, htemplates, hunquoted⟩ :=
    literals_of_literalsApart hsound.literalsApart
  rw [hspans] at hyields
  refine ⟨hsound.literalsApart, hspans, hmoves 10, (htemplates _ _ htemplate hdynamic).1, ?_,
    hyields⟩
  apply hunquoted
  intro a b ha hb
  obtain rfl : a = 7 := Text.byteOffset_inj (by decide) ha
  obtain rfl : b = 13 := Text.byteOffset_inj (by decide) hb
  have hword : (typedSource.slice 7 13).all (isQuote · == false) = true := rfl
  intro c hc
  exact eq_of_beq (List.all_eq_true.1 hword c hc)

end RtlLiterals.Tree
