import RtlLiterals.Proofs.Scan.Matches

/-!
# RtlLiterals.Proofs.Scan.Agreement -- when both strategies find the same literals

The lexical scan takes every quote for the start of a literal; a walk over a syntax tree knows
better. They can only differ by quotes that the walk leaves out, such as those of comments, and by
literals that are more than quoted items, such as raw strings. Where every quote of a source is
inside a span of the walk, and every such span is quoted items, both find the same.

## §A How it goes

`charSpans_eq_of_quotes_covered` is about any placed spans. Between two of them there is no quote,
so the scan passes the gap; at a span it takes the items whole and ends where the span does; and
behind the last one there is no quote either. The spans of a walk over a sound tree are placed.
-/

namespace RtlLiterals

/-! ## §B Covered quotes -/

/-- **`s.IsQuoted source`** -- the span covers items between two quotes of one kind, and nothing
else. -/
def Span.IsQuoted (source : Text) (s : Span) : Prop :=
  ∃ q b, isQuote q = true ∧ Lexical.Items q b ∧ source.slice s.start s.stop = q :: (b ++ [q])

/-- **`QuotesCovered source spans n`** -- every quote of the source from offset `n` on is inside one
of the spans. -/
def QuotesCovered (source : Text) (spans : List Span) (n : Nat) : Prop :=
  ∀ i c, n ≤ i → source[i]? = some c → isQuote c = true → ∃ s ∈ spans, s.start ≤ i ∧ i < s.stop

namespace Lexical

/-- A gap without quotes gives nothing. -/
theorem charSpans_of_no_quote {source : Text} {m n : Nat} (hmn : m ≤ n) (hn : n ≤ source.length)
    (h : ∀ i c, m ≤ i → i < n → source[i]? = some c → isQuote c = false) :
    charSpans m (source.drop m) = charSpans n (source.drop n) := by
  obtain ⟨k, rfl⟩ : ∃ k, n = m + k := ⟨n - m, by omega⟩
  have hlen : ((source.drop m).take k).length = k := by
    rw [List.length_take, List.length_drop]
    omega
  have hsplit : source.drop m = (source.drop m).take k ++ source.drop (m + k) := by
    rw [← List.drop_drop, List.take_append_drop]
  have hclear : ∀ i, i < ((source.drop m).take k).length →
      ¬ CompleteAt ((source.drop m).take k ++ source.drop (m + k)) i := by
    intro i hi
    apply not_completeAt_of_not_isQuote
    intro c hc
    rw [← hsplit, List.getElem?_drop] at hc
    exact h (m + i) c (by omega) (by omega) hc
  have hgap := charSpans_gap hclear m
  rw [← hsplit, hlen] at hgap
  exact hgap

/-- A quoted span is taken whole, and the scan goes on where it ends. -/
theorem charSpans_of_isQuoted {source : Text} {s : Span} (hs : s.StandsIn source)
    (hquoted : s.IsQuoted source) :
    charSpans s.start (source.drop s.start) = s :: charSpans s.stop (source.drop s.stop) := by
  obtain ⟨q, b, hq, hb, hslice⟩ := hquoted
  have hcontent : s.content = b := by
    have hunquote := hs.unquote_slice
    rw [hslice, unquote_quoted hq] at hunquote
    exact (Option.some.inj hunquote).symm
  have hlt := hs.start_lt_stop
  have hstop : s.stop = s.start + b.length + 2 := by
    have hlen := congrArg List.length hslice
    have hle := hs.stop_le
    simp only [Text.slice, List.length_take, List.length_drop, List.length_cons,
      List.length_append, List.length_nil] at hlen
    omega
  have hdrop : source.drop s.start = q :: (b ++ q :: source.drop s.stop) := by
    have hsplit := List.take_append_drop (s.stop - s.start) (source.drop s.start)
    rw [← Text.slice, hslice, List.drop_drop, Nat.add_sub_cancel' (Nat.le_of_lt hlt)] at hsplit
    rw [← hsplit]
    simp
  have hspan : s = ⟨b, s.start, s.start + b.length + 2⟩ := by
    rw [← hcontent] at hstop ⊢
    rw [← hstop]
  rw [hdrop, charSpans_literal hq hb, ← hspan, ← hstop]

/-- **Spans that cover all quotes.** From an offset in front of placed, quoted spans that cover all
quotes from there on, the scan finds these spans and no others. -/
theorem charSpans_eq_of_quotes_covered {source : Text} {spans : List Span} {n : Nat}
    (hn : n ≤ source.length) (hplaced : Placed source spans)
    (hquoted : ∀ s ∈ spans, s.IsQuoted source) (hbehind : ∀ s ∈ spans, n ≤ s.start)
    (hcovered : QuotesCovered source spans n) : charSpans n (source.drop n) = spans := by
  induction spans generalizing n with
  | nil =>
    have hno : ∀ i c, n ≤ i → i < source.length → source[i]? = some c → isQuote c = false := by
      intro i c hi _ hc
      cases hq : isQuote c with
      | false => rfl
      | true =>
        obtain ⟨s, hs, _⟩ := hcovered i c hi hc hq
        cases hs
    rw [charSpans_of_no_quote hn (Nat.le_refl _) hno, List.drop_length, charSpans]
  | cons s spans ih =>
    obtain ⟨hfirst, _⟩ := List.pairwise_cons.1 hplaced.apart
    have hs := hplaced.standsIn s (List.mem_cons_self ..)
    have hlt := hs.start_lt_stop
    have hle := hs.stop_le
    -- A span that covers an offset before `s.stop` is `s` itself.
    have hno : ∀ i c, n ≤ i → i < s.start → source[i]? = some c → isQuote c = false := by
      intro i c hi his hc
      cases hq : isQuote c with
      | false => rfl
      | true =>
        obtain ⟨t, ht, hti, _⟩ := hcovered i c hi hc hq
        rcases List.mem_cons.1 ht with rfl | ht
        · omega
        · have := hfirst t ht
          omega
    have hrest : QuotesCovered source spans s.stop := by
      intro i c hi hc hq
      have hns := hbehind s (List.mem_cons_self ..)
      obtain ⟨t, ht, hti, hit⟩ := hcovered i c (by omega) hc hq
      rcases List.mem_cons.1 ht with rfl | ht
      · omega
      · exact ⟨t, ht, hti, hit⟩
    rw [charSpans_of_no_quote (hbehind s (List.mem_cons_self ..)) (by omega) hno,
      charSpans_of_isQuoted hs (hquoted s (List.mem_cons_self ..)),
      ih hle hplaced.tail (fun t ht => hquoted t (List.mem_cons_of_mem _ ht)) hfirst hrest]

end Lexical

/-! ## §C The two strategies -/

/-- **The two strategies agree.** Where a walk over a sound tree gives quoted spans that cover every
quote of the source, the lexical scan gives the same spans. -/
theorem lexicalSpans_eq_syntacticSpansBy (reader : TreeReader) (language : Language) (source : Text)
    (hsound : reader.SoundOn language source)
    (hquoted : ∀ s ∈ syntacticSpansBy reader language source, s.IsQuoted source)
    (hcovered : QuotesCovered source (syntacticSpansBy reader language source) 0) :
    lexicalSpans source = syntacticSpansBy reader language source := by
  rw [Lexical.lexicalSpans_eq_charSpans]
  exact Lexical.charSpans_eq_of_quotes_covered (Nat.zero_le _) (placed_syntacticSpansBy hsound)
    hquoted (fun _ _ => Nat.zero_le _) hcovered

/-! ## §D One source -/

/-- An assignment of a string that ends in an escaped quote. -/
def escapeSource : Text := Text.ofString "x = '\u0628\\'';"

/-- The tree of `escapeSource` as a JavaScript program. -/
def escapeTree : Tree.Node :=
  .mk "program" 0 11 false false
    [.mk "expression_statement" 0 11 false false
      [.mk "assignment_expression" 0 10 false false
        [.mk "identifier" 0 1 false false [], .mk "=" 2 3 false false [],
          .mk "string" 4 10 false false
            [.mk "'" 4 5 false false [], .mk "string_fragment" 5 7 false false [],
              .mk "escape_sequence" 7 9 false false [], .mk "'" 9 10 false false []]],
        .mk ";" 10 11 false false []]]

theorem escapeTree_sound : escapeTree.Sound .javaScript escapeSource := by decide

theorem syntacticSpansBy_escape :
    syntacticSpansBy (.only .javaScript escapeSource escapeTree) .javaScript escapeSource =
      [⟨Text.ofString "\u0628\\'", 4, 9⟩] := by
  rw [syntacticSpansBy_only, Tree.literals, Tree.Cursor.walk_eq_foldl_preorder]
  decide

/-- Both strategies take the escaped quote of `escapeSource` into the literal. -/
theorem lexicalSpans_eq_syntacticSpansBy_escape :
    lexicalSpans escapeSource =
      syntacticSpansBy (.only .javaScript escapeSource escapeTree) .javaScript escapeSource := by
  apply lexicalSpans_eq_syntacticSpansBy
  · exact TreeReader.soundOn_only escapeTree_sound
  · rw [syntacticSpansBy_escape]
    intro s hs
    obtain rfl := List.mem_singleton.1 hs
    have hitems : Lexical.Items '\'' (Text.ofString "\u0628\\'") :=
      .plain (by decide) (by decide) (.escape _ .nil)
    exact ⟨'\'', _, by decide, hitems, by decide⟩
  · rw [syntacticSpansBy_escape]
    have hinside : ∀ j : Fin escapeSource.length,
        isQuote escapeSource[j] = true → 4 ≤ j.1 ∧ j.1 < 9 := by decide
    intro i c _ hc hq
    obtain ⟨hi, rfl⟩ := List.getElem?_eq_some_iff.1 hc
    exact ⟨_, List.mem_singleton.2 rfl, hinside ⟨i, hi⟩ hq⟩

end RtlLiterals
