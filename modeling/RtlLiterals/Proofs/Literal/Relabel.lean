import RtlLiterals.Proofs.Literal.CharScan

/-!
# RtlLiterals.Proofs.Literal.Relabel -- only delimiters and backslashes place a literal

The lexical scan asks of a character whether it is a delimiter, which one, and whether it is a
backslash. A relabelling keeps these answers: it may exchange delimiters for each other and turn
every other character into any other one, a letter into one of another width in bytes, or a line
feed into a letter. This module shows that a relabelled source has its literals where the source
has them, with their contents relabelled.

## §A How it goes

The content of a literal is found in characters, so `body` and `literalAt?` commute with a
relabelling by recursion on the text, and `charSpans` does because a content keeps its length. The
widths in bytes are gone by then: `lexicalSpans_eq_charSpans` has taken them out.
-/

namespace RtlLiterals

/-! ## §B Relabellings -/

/-- **A relabelling of characters.** It keeps the backslash, permutes the delimiters, and takes
every other character to one that is neither. -/
structure Relabelling where
  toFun : Char → Char
  map_backslash : toFun backslash = backslash
  isQuote_map {q : Char} : isQuote q = true → isQuote (toFun q) = true
  quote_inj {p q : Char} : isQuote p = true → isQuote q = true → toFun p = toFun q → p = q
  map_other {c : Char} : isQuote c = false → c ≠ backslash →
    isQuote (toFun c) = false ∧ toFun c ≠ backslash

namespace Relabelling

instance : CoeFun Relabelling fun _ => Char → Char := ⟨Relabelling.toFun⟩

variable (f : Relabelling)

/-- A relabelling neither makes nor unmakes a delimiter. -/
theorem isQuote_apply (c : Char) : isQuote (f c) = isQuote c := by
  by_cases hquote : isQuote c = true
  · rw [hquote, f.isQuote_map hquote]
  · rw [Bool.not_eq_true] at hquote
    rw [hquote]
    by_cases hc : c = backslash
    · rw [hc, f.map_backslash, isQuote_backslash]
    · exact (f.map_other hquote hc).1

/-- A relabelling neither makes nor unmakes a backslash. -/
theorem apply_eq_backslash_iff {c : Char} : f c = backslash ↔ c = backslash := by
  constructor
  · intro h
    have hquote : isQuote c = false := by rw [← f.isQuote_apply, h, isQuote_backslash]
    exact Decidable.byContradiction fun hc => (f.map_other hquote hc).2 h
  · rintro rfl
    exact f.map_backslash

/-- Nothing else is taken to where a delimiter is taken. -/
theorem apply_eq_quote_iff {c q : Char} (hq : isQuote q = true) : f c = f q ↔ c = q := by
  constructor
  · intro h
    have hc : isQuote c = true := by rw [← f.isQuote_apply c, h, f.isQuote_apply q, hq]
    exact f.quote_inj hc hq h
  · exact congrArg f

end Relabelling

/-- The span with its content relabelled, at the same place. -/
def Span.relabel (f : Relabelling) (s : Span) : Span := ⟨s.content.map f, s.start, s.stop⟩

/-! ## §C The scan of a relabelled text -/

namespace Lexical

variable (f : Relabelling)

/-- The end of a literal stays where it is. -/
theorem body_map {q : Char} (hq : isQuote q = true) (t : Text) :
    body (f q) (t.map f) = (body q t).map (List.map f) := by
  fun_induction body q t with
  | case1 => rfl
  | case2 => simp [body]
  | case3 c hc => simp [body, f.apply_eq_quote_iff hq, hc]
  | case4 => simp [body]
  | case5 d t _ ih =>
    rw [List.map_cons, List.map_cons, f.map_backslash, body,
      if_neg (ne_backslash_of_isQuote (f.isQuote_map hq)).symm, if_pos rfl, ih, Option.map_map,
      Option.map_map]
    simp only [Function.comp_def, List.map_cons, f.map_backslash]
  | case6 c d t hcq hc ih =>
    rw [List.map_cons] at ih
    rw [List.map_cons, List.map_cons, body, if_neg (mt (f.apply_eq_quote_iff hq).1 hcq),
      if_neg (mt f.apply_eq_backslash_iff.1 hc), ih, Option.map_map, Option.map_map]
    rfl

/-- A literal starts at a relabelled character exactly when one starts at the character. -/
theorem literalAt?_map (c : Char) (t : Text) :
    literalAt? (f c) (t.map f) = (literalAt? c t).map (List.map f) := by
  unfold literalAt?
  rw [f.isQuote_apply]
  by_cases hc : isQuote c = true
  · rw [if_pos hc, if_pos hc, body_map f hc]
  · rw [if_neg hc, if_neg hc, Option.map_none]

theorem charSpans_map (offset : Nat) (t : Text) :
    charSpans offset (t.map f) = (charSpans offset t).map (Span.relabel f) := by
  fun_induction charSpans offset t with
  | case1 => rw [List.map_nil, charSpans, List.map_nil]
  | case2 offset c t b hlit ih =>
    have hmap : literalAt? (f c) (t.map f) = some (b.map f) := by
      rw [literalAt?_map, hlit, Option.map_some]
    rw [List.map_cons, charSpans, hmap]
    simp only [List.length_map, ← List.map_drop, ih]
    rfl
  | case3 offset c t hlit ih =>
    have hmap : literalAt? (f c) (t.map f) = none := by
      rw [literalAt?_map, hlit, Option.map_none]
    rw [List.map_cons, charSpans_cons_none hmap, ih]

end Lexical

/-- **A relabelled source.** Its literals stand where those of the source stand, in the same order,
and their contents are those of the source, relabelled. -/
theorem lexicalSpans_map (f : Relabelling) (source : Text) :
    lexicalSpans (source.map f) = (lexicalSpans source).map (Span.relabel f) := by
  rw [Lexical.lexicalSpans_eq_charSpans, Lexical.lexicalSpans_eq_charSpans,
    Lexical.charSpans_map]

/-! ## §D A relabelling -/

/-- Exchanges the double quote and the backtick, and writes an emoji for everything else but the
single quote and the backslash. -/
def blurChar (c : Char) : Char :=
  if c = '\x22' then '\x60'
  else if c = '\x60' then '\x22'
  else if c = '\x27' ∨ c = backslash then c
  else Char.ofNat 0x1F600

/-- `blurChar` as a relabelling. -/
def Relabelling.blur : Relabelling where
  toFun := blurChar
  map_backslash := by decide
  isQuote_map {q} hq := by
    have hquotes : quoteChars.all (fun q => isQuote (blurChar q)) = true := by decide
    exact List.all_eq_true.1 hquotes q (isQuote_iff.1 hq)
  quote_inj {p q} hp hq := by
    have hquotes : quoteChars.all (fun p => quoteChars.all fun q =>
        decide (blurChar p = blurChar q → p = q)) = true := by decide
    have hp := List.all_eq_true.1 hquotes p (isQuote_iff.1 hp)
    exact of_decide_eq_true (List.all_eq_true.1 hp q (isQuote_iff.1 hq))
  map_other {c} hquote hc := by
    simp only [isQuote, Bool.or_eq_false_iff, beq_eq_false_iff_ne] at hquote
    obtain ⟨⟨hdouble, hsingle⟩, hback⟩ := hquote
    rw [blurChar, if_neg hdouble, if_neg hback, if_neg (by simp [hsingle, hc])]
    decide

/-- An escaped delimiter, a line feed inside a literal and a delimiter that opens nothing. -/
theorem lexicalSpans_map_blur :
    lexicalSpans ((Text.ofString "x=\"a\\\"\n'\";`'`").map Relabelling.blur) =
      [⟨(Text.ofString "a\\\"\n'").map Relabelling.blur, 2, 9⟩,
        ⟨(Text.ofString "'").map Relabelling.blur, 10, 13⟩] := by
  have hsource : lexicalSpans (Text.ofString "x=\"a\\\"\n'\";`'`") =
      [⟨Text.ofString "a\\\"\n'", 2, 9⟩, ⟨Text.ofString "'", 10, 13⟩] := by decide
  rw [lexicalSpans_map, hsource]
  rfl

end RtlLiterals
