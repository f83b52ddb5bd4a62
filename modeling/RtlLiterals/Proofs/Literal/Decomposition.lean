import RtlLiterals.Proofs.Literal.CharScan

/-!
# RtlLiterals.Proofs.Literal.Decomposition -- the lexical scan finds exactly the literals

A source is cut into gaps and literals: a gap, a literal, a gap, and so on to a last gap. The
literals are quoted items, and no character of a gap starts a complete literal of the source.
Every source has one such cut, and `lexicalSpans` lists its literals.

## §A How it goes

`textOf` puts the pieces of a cut together and `spansOf` lists their spans. `GapsClear` says piece
by piece what the cut asks of its gaps; `gapsClear_iff` ties it to the offsets that no span covers.
Then both halves are short: `charSpans` cuts any text (`exists_pieces`), and on the text of pieces
with clear gaps it gives back their spans (`charSpans_textOf`).
-/

namespace RtlLiterals

namespace Lexical

/-! ## §B Pieces -/

/-- A literal of a cut source with the gap after it. -/
structure Piece where
  /-- The delimiter on both sides. -/
  quote : Char
  content : Text
  /-- The text up to the next literal, or up to the end. -/
  gap : Text
  isQuote_quote : isQuote quote = true
  items_content : Items quote content

/-- The text of the literal, delimiters included. -/
def Piece.text (p : Piece) : Text := p.quote :: (p.content ++ [p.quote])

theorem Piece.length_text (p : Piece) : p.text.length = p.content.length + 2 := by
  simp [Piece.text]

/-- The text of a gap and the pieces after it. -/
def textOf (gap : Text) : List Piece → Text
  | [] => gap
  | p :: ps => gap ++ p.text ++ textOf p.gap ps

/-- The spans of the pieces after a gap that starts at character `offset`. -/
def spansOf (offset : Nat) (gap : Text) : List Piece → List Span
  | [] => []
  | p :: ps =>
    let start := offset + gap.length
    let stop := start + p.content.length + 2
    ⟨p.content, start, stop⟩ :: spansOf stop p.gap ps

theorem textOf_cons_gap (c : Char) (gap : Text) (ps : List Piece) :
    textOf (c :: gap) ps = c :: textOf gap ps := by
  cases ps <;> rfl

theorem spansOf_cons_gap (offset : Nat) (c : Char) (gap : Text) (ps : List Piece) :
    spansOf offset (c :: gap) ps = spansOf (offset + 1) gap ps := by
  cases ps with
  | nil => rfl
  | cons p ps =>
    have hlen : offset + (c :: gap).length = offset + 1 + gap.length := by
      rw [List.length_cons]
      omega
    rw [spansOf, spansOf, hlen]

/-- The literals of pieces come after the gap before them. -/
theorem le_start_of_mem_spansOf {ps : List Piece} {offset : Nat} {gap : Text} {s : Span}
    (h : s ∈ spansOf offset gap ps) : offset + gap.length ≤ s.start := by
  induction ps generalizing offset gap with
  | nil => cases h
  | cons p ps ih =>
    rcases List.mem_cons.1 h with rfl | h
    · exact Nat.le_refl _
    · have := ih h
      omega

/-! ## §C Gaps -/

/-- The offset belongs to none of the spans. -/
def InGap (spans : List Span) (i : Nat) : Prop := ∀ s ∈ spans, i < s.start ∨ s.stop ≤ i

/-- No character of a gap starts a complete literal, for the gap given and the gap of each piece
after it. -/
def GapsClear (gap : Text) : List Piece → Prop
  | [] => ∀ i, i < gap.length → ¬ CompleteAt gap i
  | p :: ps =>
    (∀ i, i < gap.length → ¬ CompleteAt (textOf gap (p :: ps)) i) ∧ GapsClear p.gap ps

/-- A character of the first gap starts no literal. -/
theorem GapsClear.first {gap : Text} {ps : List Piece} (h : GapsClear gap ps) :
    ∀ i, i < gap.length → ¬ CompleteAt (textOf gap ps) i := by
  cases ps with
  | nil => exact h
  | cons p ps => exact h.1

theorem GapsClear.cons_gap {c : Char} {gap : Text} {ps : List Piece} (h : GapsClear gap ps)
    (hc : ¬ CompleteAt (c :: textOf gap ps) 0) : GapsClear (c :: gap) ps := by
  have hfirst : ∀ i, i < (c :: gap).length → ¬ CompleteAt (textOf (c :: gap) ps) i := by
    intro i hi
    rw [textOf_cons_gap]
    cases i with
    | zero => exact hc
    | succ i =>
      rw [completeAt_succ]
      exact h.first i (by simpa using hi)
  cases ps with
  | nil => exact hfirst
  | cons p ps => exact ⟨hfirst, h.2⟩

/-- **Gaps by offset.** The gaps of a cut are clear exactly when no offset outside the spans starts
a complete literal. -/
theorem gapsClear_iff {gap : Text} {ps : List Piece} (offset : Nat) :
    GapsClear gap ps ↔
      ∀ i, InGap (spansOf offset gap ps) (offset + i) → ¬ CompleteAt (textOf gap ps) i := by
  induction ps generalizing offset gap with
  | nil =>
    constructor
    · intro h i _ hi
      exact h i (lt_length_of_completeAt hi) hi
    · intro h i _
      exact h i (by simp [InGap, spansOf])
  | cons p ps ih =>
    -- The piece ends `k` characters after the start of the gap.
    have hk : (gap ++ p.text).length = gap.length + p.content.length + 2 := by
      rw [List.length_append, Piece.length_text]
      omega
    have hshift (j : Nat) : offset + gap.length + p.content.length + 2 + j =
        offset + ((gap ++ p.text).length + j) := by omega
    rw [GapsClear, ih (offset + gap.length + p.content.length + 2)]
    constructor
    · rintro ⟨hfirst, hrest⟩ i hi
      rcases hi _ (List.mem_cons_self ..) with hlt | hge
      · exact hfirst i (by simpa using hlt)
      · obtain ⟨j, rfl⟩ : ∃ j, i = (gap ++ p.text).length + j :=
          ⟨i - (gap ++ p.text).length, by simp only at hge; omega⟩
        rw [textOf, completeAt_append]
        apply hrest
        intro s hs
        rw [hshift]
        exact hi s (List.mem_cons_of_mem _ hs)
    · intro h
      constructor
      · intro i hi
        apply h
        intro s hs
        have := le_start_of_mem_spansOf hs
        omega
      · intro j hj hcomplete
        refine h ((gap ++ p.text).length + j) ?_ ((completeAt_append _ _ _).2 hcomplete)
        intro s hs
        rcases List.mem_cons.1 hs with rfl | hs
        · right
          simp only
          omega
        · rw [← hshift]
          exact hj s hs

/-! ## §D The scan on a cut -/

/-- The scan cuts every text into pieces with clear gaps. -/
theorem exists_pieces (offset : Nat) (t : Text) :
    ∃ gap ps, t = textOf gap ps ∧ charSpans offset t = spansOf offset gap ps ∧
      GapsClear gap ps := by
  fun_induction charSpans offset t with
  | case1 => exact ⟨[], [], rfl, rfl, by simp [GapsClear]⟩
  | case2 offset c t b hlit ih =>
    obtain ⟨hc, hb, r, rfl⟩ := literalAt?_eq_some_iff.1 hlit
    rw [List.drop_length_add_append, List.drop_succ_cons, List.drop_zero] at ih
    obtain ⟨gap, ps, hr, hspans, hclear⟩ := ih
    refine ⟨[], ⟨c, b, gap, hc, hb⟩ :: ps, ?_, ?_, ?_⟩
    · simp [textOf, Piece.text, hr]
    · rw [List.drop_length_add_append, List.drop_succ_cons, List.drop_zero, hspans]
      rfl
    · exact ⟨by simp, hclear⟩
  | case3 offset c t hlit ih =>
    obtain ⟨gap, ps, ht, hspans, hclear⟩ := ih
    refine ⟨c :: gap, ps, ?_, ?_, hclear.cons_gap ?_⟩
    · rw [textOf_cons_gap, ← ht]
    · rw [hspans, spansOf_cons_gap]
    · rw [← ht, completeAt_zero, hlit]
      simp

/-- **The scan gives back the pieces.** On the text of pieces with clear gaps it finds their
literals and nothing else. -/
theorem charSpans_textOf {gap : Text} {ps : List Piece} (h : GapsClear gap ps) (offset : Nat) :
    charSpans offset (textOf gap ps) = spansOf offset gap ps := by
  induction ps generalizing offset gap with
  | nil =>
    have hclear : ∀ i, i < gap.length → ¬ CompleteAt (gap ++ []) i := by
      rw [List.append_nil]
      exact h
    have hgap := charSpans_gap hclear offset
    rw [List.append_nil] at hgap
    rw [textOf, hgap, charSpans, spansOf]
  | cons p ps ih =>
    have hfirst := h.first
    rw [textOf, List.append_assoc] at hfirst ⊢
    rw [charSpans_gap hfirst]
    have hliteral := charSpans_literal p.isQuote_quote p.items_content (textOf p.gap ps)
      (offset + gap.length)
    rw [Piece.text, List.cons_append, List.append_assoc, List.singleton_append, hliteral, ih h.2]
    rfl

/-- **`IsCut source spans`** -- the spans are the literals of a cut of the source. The source is the
text of pieces, the spans stand where the pieces do, and no offset outside the spans starts a
complete literal, not even one that would run over later spans. -/
def IsCut (source : Text) (spans : List Span) : Prop :=
  (∃ gap ps, source = textOf gap ps ∧ spans = spansOf 0 gap ps) ∧
    ∀ i, InGap spans i → ¬ CompleteAt source i

/-- **The lexical scan is the cut.** Its spans are a cut of the source, and no other list of spans
is one. -/
theorem lexicalSpans_eq_iff_isCut (source : Text) (spans : List Span) :
    lexicalSpans source = spans ↔ IsCut source spans := by
  rw [lexicalSpans_eq_charSpans]
  constructor
  · rintro rfl
    obtain ⟨gap, ps, hsource, hspans, hclear⟩ := exists_pieces 0 source
    refine ⟨⟨gap, ps, hsource, hspans⟩, ?_⟩
    intro i hi
    rw [hsource]
    rw [hspans] at hi
    exact (gapsClear_iff 0).1 hclear i (by simpa using hi)
  · rintro ⟨⟨gap, ps, rfl, rfl⟩, hgaps⟩
    apply charSpans_textOf
    rw [gapsClear_iff 0]
    simpa using hgaps

/-- A delimiter that opens nothing is passed, and the scan goes on one character later. -/
example : lexicalSpans (Text.ofString "\" 'ok'") = [⟨Text.ofString "ok", 2, 6⟩] := by decide

end Lexical

end RtlLiterals
