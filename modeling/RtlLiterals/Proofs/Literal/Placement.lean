import RtlLiterals.Proofs.Literal.Decomposition

/-!
# RtlLiterals.Proofs.Literal.Placement -- spans stand in the source, in order and apart

Whatever finds literals, its spans are worth something only if they fit the source: each ends
inside it, covers a text with its content between two quotes, and starts where the one before it
has ended or later. `Placed` says so of a list of spans, and the lexical scan's spans are placed.
-/

namespace RtlLiterals

/-! ## §A Slices -/

theorem Text.slice_append (a b c : Text) :
    Text.slice (a ++ (b ++ c)) a.length (a.length + b.length) = b := by
  rw [Text.slice, List.drop_append_length, Nat.add_sub_cancel_left, List.take_append_length]

theorem Text.length_slice_le (t : Text) (m n : Nat) : (t.slice m n).length ≤ n - m := by
  rw [Text.slice, List.length_take]
  exact Nat.min_le_left _ _

/-- A quoted text without marks around it is unquoted to its content. -/
theorem unquote_quoted {q : Char} (hq : isQuote q = true) (b : Text) :
    unquote (q :: (b ++ [q])) = some b :=
  unquote_eq_some_iff.2 ⟨[], q, [], by simp, hq, by simp, by simp⟩

/-- An unquoted text has its two quotes, so it has two characters at least. -/
theorem two_le_length_of_unquote {t b : Text} (h : unquote t = some b) : 2 ≤ t.length := by
  obtain ⟨p, q, s, rfl, _⟩ := unquote_eq_some_iff.1 h
  simp only [List.length_append, List.length_cons]
  omega

/-! ## §B Placed spans -/

/-- **`s.StandsIn source`** -- the span ends inside the source and covers a text that holds its
content between two quotes. -/
structure Span.StandsIn (source : Text) (s : Span) : Prop where
  stop_le : s.stop ≤ source.length
  unquote_slice : unquote (source.slice s.start s.stop) = some s.content

/-- **`Placed source spans`** -- the spans stand in the source, each behind the one before. -/
structure Placed (source : Text) (spans : List Span) : Prop where
  standsIn : ∀ s ∈ spans, s.StandsIn source
  apart : spans.Pairwise fun s t => s.stop ≤ t.start

/-- Both delimiters fit between the offsets. -/
theorem Span.StandsIn.start_lt_stop {source : Text} {s : Span} (h : s.StandsIn source) :
    s.start < s.stop := by
  have htwo := two_le_length_of_unquote h.unquote_slice
  have hle := source.length_slice_le s.start s.stop
  omega

theorem Placed.nil (source : Text) : Placed source [] := ⟨by simp, .nil⟩

/-- A list of placed spans without its first one. -/
theorem Placed.tail {source : Text} {s : Span} {spans : List Span}
    (h : Placed source (s :: spans)) : Placed source spans :=
  ⟨fun t ht => h.standsIn t (List.mem_cons_of_mem _ ht), (List.pairwise_cons.1 h.apart).2⟩

/-! ## §C The lexical scan's spans -/

namespace Lexical

/-- The spans of pieces are placed where the pieces are: behind a text `a` and a gap. -/
theorem placed_spansOf (a gap : Text) (ps : List Piece) :
    Placed (a ++ textOf gap ps) (spansOf a.length gap ps) := by
  induction ps generalizing a gap with
  | nil => exact .nil _
  | cons p ps ih =>
    -- The text up to the end of the piece takes the place of `a` for the pieces after it.
    have hstop : (a ++ gap ++ p.text).length = a.length + gap.length + p.content.length + 2 := by
      rw [List.length_append, List.length_append, Piece.length_text]
      omega
    have hsource : a ++ textOf gap (p :: ps) = (a ++ gap) ++ (p.text ++ textOf p.gap ps) := by
      simp [textOf]
    have hrest := ih (a ++ gap ++ p.text) p.gap
    rw [hstop, List.append_assoc, ← hsource] at hrest
    refine ⟨?_, List.pairwise_cons.2 ⟨?_, hrest.apart⟩⟩
    · intro s hs
      rcases List.mem_cons.1 hs with rfl | hs
      · constructor
        · rw [hsource]
          simp only [List.length_append, Piece.length_text]
          omega
        · have hslice := Text.slice_append (a ++ gap) p.text (textOf p.gap ps)
          rw [← hsource, Piece.length_text, List.length_append] at hslice
          rw [← Nat.add_assoc] at hslice
          rw [hslice]
          exact unquote_quoted p.isQuote_quote p.content
      · exact hrest.standsIn s hs
    · intro s hs
      show a.length + gap.length + p.content.length + 2 ≤ s.start
      exact Nat.le_of_add_right_le (le_start_of_mem_spansOf hs)

/-- **The lexical scan's spans are placed.** -/
theorem placed_lexicalSpans (source : Text) : Placed source (lexicalSpans source) := by
  obtain ⟨gap, ps, hsource, hspans, _⟩ := exists_pieces 0 source
  rw [lexicalSpans_eq_charSpans, hspans, hsource]
  exact placed_spansOf [] gap ps

end Lexical

end RtlLiterals
