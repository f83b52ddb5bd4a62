import RtlLiterals.Proofs.Literal.Restart

/-!
# RtlLiterals.Proofs.Literal.Failure -- a delimiter that opened nothing once opens nothing again

Where the scan fails at a delimiter it goes on one character later, over text that the failed reading
has seen to its end. It may then come to a delimiter that was escaped for that reading, or that
stands inside a literal of another kind. A delimiter of the kind that failed still opens nothing.

## §A How it goes

Two readings for one delimiter that ever stand at the same character go on together. A reading that
fails meets its delimiter only behind a backslash, that is, as the second character of an item; so
it stands right behind that delimiter, where the reading from there begins (`body_eq_none_of_append`).

`scanOnce` is the scan with a memory for the delimiters that failed. It gives the same spans, and
since each of the three delimiters fails at most once, all its readings together are no longer than
four times the source.
-/

namespace RtlLiterals

namespace Lexical

/-! ## §B Spent delimiters -/

/-- A reading that fails has failed for each of its delimiters further on. -/
theorem body_eq_none_of_append {q : Char} (hq : isQuote q = true) (x r : Text) :
    body q (x ++ q :: r) = none → body q r = none := by
  have hslash := ne_backslash_of_isQuote hq
  fun_induction body q x with
  | case1 =>
    rw [List.nil_append, body_cons_self]
    intro h
    cases h
  | case2 =>
    rw [List.singleton_append, body_cons_self]
    intro h
    cases h
  | case3 c hcq =>
    rw [List.singleton_append]
    by_cases hc : c = backslash
    · -- The delimiter is escaped, and both readings stand behind it.
      rw [hc, body_escape hslash, Option.map_eq_none_iff]
      exact id
    · rw [body_cons_plain hcq hc, body_cons_self]
      intro h
      cases h
  | case4 d t =>
    simp only [List.cons_append, body_cons_self]
    intro h
    cases h
  | case5 d t _ ih =>
    simp only [List.cons_append]
    rw [body_escape hslash, Option.map_eq_none_iff]
    exact ih
  | case6 c d t hcq hc ih =>
    simp only [List.cons_append]
    rw [body_cons_plain hcq hc, Option.map_eq_none_iff]
    exact ih

/-- **`Spent q t`** -- no delimiter `q` in `t` starts a literal. -/
def Spent (q : Char) (t : Text) : Prop := ∀ x r, t = x ++ q :: r → body q r = none

theorem spent_of_body_eq_none {q : Char} (hq : isQuote q = true) {t : Text}
    (h : body q t = none) : Spent q t := by
  rintro x r rfl
  exact body_eq_none_of_append hq x r h

/-- A delimiter that is spent in a text is spent in every end of it. -/
theorem Spent.of_append {q : Char} {a t : Text} (h : Spent q (a ++ t)) : Spent q t := by
  rintro x r rfl
  exact h (a ++ x) r (List.append_assoc ..).symm

/-- A spent delimiter at the head of a text starts no literal. -/
theorem Spent.literalAt?_eq_none {q : Char} {t : Text} (h : Spent q (q :: t)) :
    literalAt? q t = none := by
  unfold literalAt?
  split
  · exact h [] t rfl
  · rfl

/-- A span of the scan is a literal of the text. -/
theorem exists_literal_of_mem_charSpans {offset : Nat} {t : Text} {s : Span}
    (h : s ∈ charSpans offset t) :
    ∃ x d r, t = x ++ d :: (s.content ++ d :: r) ∧ isQuote d = true ∧ Items d s.content ∧
      s.start = offset + x.length ∧ s.stop = s.start + s.content.length + 2 := by
  fun_induction charSpans offset t with
  | case1 => cases h
  | case2 offset c t b hlit ih =>
    obtain ⟨hc, hb, r, rfl⟩ := literalAt?_eq_some_iff.1 hlit
    rcases List.mem_cons.1 h with rfl | h
    · exact ⟨[], c, r, rfl, hc, hb, rfl, rfl⟩
    · rw [List.drop_length_add_append, List.drop_succ_cons, List.drop_zero] at h ih
      obtain ⟨x, d, r', rfl, hd, hitems, hstart, hstop⟩ := ih h
      refine ⟨c :: (b ++ c :: x), d, r', by simp, hd, hitems, ?_, hstop⟩
      rw [hstart, add_length_literal]
  | case3 offset c t hlit ih =>
    obtain ⟨x, d, r, rfl, hd, hitems, hstart, hstop⟩ := ih h
    refine ⟨c :: x, d, r, rfl, hd, hitems, ?_, hstop⟩
    rw [hstart, List.length_cons]
    omega

/-! ## §C A scan with a memory -/

/-- What a scan with a memory gives, and what it costs. -/
structure Reading where
  spans : List Span
  /-- The number of characters read; one that is read again counts again. -/
  read : Nat

/-- The literals of `t`, which starts at character `offset`, where the delimiters in `failed` have
opened nothing before. A literal is read once, and so is a character that is passed; a delimiter
that fails is read up to the end of the text, and is remembered. -/
def scanOnce (failed : List Char) (offset : Nat) : Text → Reading
  | [] => ⟨[], 0⟩
  | c :: t =>
    if isQuote c = true ∧ c ∉ failed then
      match body c t with
      | some b =>
        let rest := scanOnce failed (offset + b.length + 2) (t.drop (b.length + 1))
        ⟨⟨b, offset, offset + b.length + 2⟩ :: rest.spans, b.length + 2 + rest.read⟩
      | none =>
        let rest := scanOnce (c :: failed) (offset + 1) t
        ⟨rest.spans, (c :: t).length + rest.read⟩
    else
      let rest := scanOnce failed (offset + 1) t
      ⟨rest.spans, 1 + rest.read⟩
termination_by t => t.length
decreasing_by
  · simp only [List.length_drop, List.length_cons]
    omega
  · simp
  · simp

/-- **The memory is right.** Where the remembered delimiters are spent, the scan with a memory gives
the spans of the scan without one. -/
theorem spans_scanOnce {failed : List Char} {t : Text} (offset : Nat)
    (h : ∀ q ∈ failed, Spent q t) : (scanOnce failed offset t).spans = charSpans offset t := by
  fun_induction scanOnce failed offset t with
  | case1 => rw [charSpans]
  | case2 failed offset c t hc b hb rest ih =>
    have hlit : literalAt? c t = some b := by rw [literalAt?, if_pos hc.1, hb]
    obtain ⟨_, r, rfl⟩ := items_of_body hb
    rw [charSpans, hlit]
    simp only [List.cons.injEq, true_and]
    refine ih fun q hq => ?_
    have hspent : Spent q ((c :: (b ++ [c])) ++ r) := by simpa using h q hq
    rw [List.drop_length_add_append, List.drop_succ_cons, List.drop_zero]
    exact hspent.of_append
  | case3 failed offset c t hc hb rest ih =>
    have hlit : literalAt? c t = none := by rw [literalAt?, if_pos hc.1, hb]
    rw [charSpans_cons_none hlit]
    refine ih fun q hq => ?_
    rcases List.mem_cons.1 hq with rfl | hq
    · exact spent_of_body_eq_none hc.1 hb
    · exact (h q hq).of_append (a := [c])
  | case4 failed offset c t hc rest ih =>
    have hlit : literalAt? c t = none := by
      by_cases hquote : isQuote c = true
      · have hfailed : c ∈ failed := Classical.not_not.1 fun hno => hc ⟨hquote, hno⟩
        exact (h c hfailed).literalAt?_eq_none
      · rw [literalAt?, if_neg hquote]
    rw [charSpans_cons_none hlit]
    exact ih fun q hq => (h q hq).of_append (a := [c])

/-- The number of delimiters that have not failed yet. -/
def untried (failed : List Char) : Nat := (quoteChars.filter fun q => q ∉ failed).length

/-- A delimiter fails only once. -/
theorem untried_cons_lt {failed : List Char} {c : Char} (hc : isQuote c = true)
    (hnew : c ∉ failed) : untried (c :: failed) < untried failed := by
  have hfilter : (quoteChars.filter fun q => q ∉ c :: failed) =
      (quoteChars.filter fun q => q ∉ failed).filter fun q => q ≠ c := by
    rw [List.filter_filter]
    refine List.filter_congr fun q _ => ?_
    simp [not_or]
  rw [untried, untried, hfilter, List.length_filter_lt_length_iff_exists]
  exact ⟨c, List.mem_filter.2 ⟨isQuote_iff.1 hc, by simpa using hnew⟩, by simp⟩

/-- **The memory pays.** Each character is read once for the spans, and once more for each delimiter
that may still fail. -/
theorem read_scanOnce_le (failed : List Char) (offset : Nat) (t : Text) :
    (scanOnce failed offset t).read ≤ (untried failed + 1) * t.length := by
  fun_induction scanOnce failed offset t with
  | case1 => exact Nat.zero_le _
  | case2 failed offset c t hc b hb rest ih =>
    obtain ⟨_, r, rfl⟩ := items_of_body hb
    have hdrop : ((b ++ c :: r).drop (b.length + 1)).length = r.length := by
      rw [List.drop_length_add_append, List.drop_succ_cons, List.drop_zero]
    rw [hdrop] at ih
    have hlen : (c :: (b ++ c :: r)).length = b.length + 2 + r.length := by
      simpa using add_length_literal c b r 0
    have hfirst : b.length + 2 ≤ (untried failed + 1) * (b.length + 2) :=
      Nat.le_mul_of_pos_left _ (Nat.succ_pos _)
    rw [hlen, Nat.mul_add]
    exact Nat.add_le_add hfirst ih
  | case3 failed offset c t hc hb rest ih =>
    have hfewer := untried_cons_lt hc.1 hc.2
    calc (c :: t).length + rest.read
        ≤ (c :: t).length + untried failed * (c :: t).length := by
          refine Nat.add_le_add_left (Nat.le_trans ih ?_) _
          exact Nat.mul_le_mul hfewer (Nat.le_succ _)
      _ = (untried failed + 1) * (c :: t).length := by rw [Nat.add_comm, Nat.succ_mul]
  | case4 failed offset c t hc rest ih =>
    rw [List.length_cons, Nat.mul_succ, Nat.add_comm 1]
    exact Nat.add_le_add ih (Nat.succ_pos _)

/-! ## §D Behind a failure -/

/-- A delimiter that stands in a gap is spent behind it. -/
theorem spent_of_inGap {source : Text} {p : Nat} {q : Char} (hp : source[p]? = some q)
    (hq : isQuote q = true) (hgap : InGap (lexicalSpans source) p) :
    Spent q (source.drop (p + 1)) := by
  have hfail : ¬ CompleteAt source p := ((lexicalSpans_eq_iff_isCut source _).1 rfl).2 p hgap
  apply spent_of_body_eq_none hq
  cases hbody : body q (source.drop (p + 1)) with
  | none => rfl
  | some b =>
    obtain ⟨hitems, r, hr⟩ := items_of_body hbody
    obtain ⟨hlt, rfl⟩ := List.getElem?_eq_some_iff.1 hp
    refine absurd ⟨source[p], b, r, hq, hitems, ?_⟩ hfail
    rw [List.drop_eq_getElem_cons hlt, hr]

/-- **Behind a delimiter that is left alone.** If a delimiter stands in a gap of a source, no literal
further on has this delimiter. So a scan may remember the delimiters that have failed: it finds the
same literals in one pass, and reads at most four characters for each one of the source. -/
theorem lexicalSpans_behind_failure (source : Text) :
    (∀ p q, source[p]? = some q → isQuote q = true → InGap (lexicalSpans source) p →
      ∀ s ∈ lexicalSpans source, p < s.start →
        ∃ d, isQuote d = true ∧ d ≠ q ∧
          source.slice s.start s.stop = d :: (s.content ++ [d])) ∧
      (scanOnce [] 0 source).spans = lexicalSpans source ∧
      (scanOnce [] 0 source).read ≤ 4 * source.length := by
  refine ⟨?_, ?_, read_scanOnce_le [] 0 source⟩
  · intro p q hp hq hgap s hs hbehind
    have hspent := spent_of_inGap hp hq hgap
    rw [lexicalSpans_eq_charSpans] at hs
    obtain ⟨x, d, r, hsource, hd, hitems, hstart, hstop⟩ := exists_literal_of_mem_charSpans hs
    rw [Nat.zero_add] at hstart
    refine ⟨d, hd, ?_, ?_⟩
    · -- The literal would be read from its delimiter, which is spent.
      rintro rfl
      rw [hsource, List.drop_append_of_le_length (by omega)] at hspent
      have hnone := hspent _ _ rfl
      rw [body_of_items (ne_backslash_of_isQuote hd) hitems] at hnone
      cases hnone
    · have hslice := Text.slice_append x (d :: (s.content ++ [d])) r
      have hlen : x.length + (d :: (s.content ++ [d])).length = s.stop := by
        simp only [List.length_cons, List.length_append, List.length_nil]
        omega
      rw [hlen, ← hstart] at hslice
      rw [← hslice, hsource]
      simp
  · rw [lexicalSpans_eq_charSpans]
    exact spans_scanOnce 0 (by simp)

/-- A literal between a delimiter that opens nothing and the same delimiter behind a backslash. -/
def failureSource : Text := Text.ofString "\" '\u0628' \\\""

/-- The literal of `failureSource` has the other delimiter, and the scan with a memory finds it. -/
theorem lexicalSpans_behind_failure_escaped :
    failureSource[0]? = some '\x22' ∧ isQuote '\x22' = true ∧
      InGap (lexicalSpans failureSource) 0 ∧
      ⟨Text.ofString "\u0628", 2, 5⟩ ∈ lexicalSpans failureSource ∧
      (∃ d, isQuote d = true ∧ d ≠ '\x22' ∧
        failureSource.slice 2 5 = d :: (Text.ofString "\u0628" ++ [d])) ∧
      (scanOnce [] 0 failureSource).spans = [⟨Text.ofString "\u0628", 2, 5⟩] ∧
      (scanOnce [] 0 failureSource).read ≤ 32 := by
  have hspans : lexicalSpans failureSource = [⟨Text.ofString "\u0628", 2, 5⟩] := by decide
  have hmem : ⟨Text.ofString "\u0628", 2, 5⟩ ∈ lexicalSpans failureSource := by
    rw [hspans]
    exact List.mem_singleton_self _
  have hgap : InGap (lexicalSpans failureSource) 0 := by
    rw [hspans]
    intro s hs
    obtain rfl := List.mem_singleton.1 hs
    exact .inl (by decide)
  obtain ⟨hbehind, hsame, hread⟩ := lexicalSpans_behind_failure failureSource
  exact ⟨rfl, by decide, hgap, hmem, hbehind 0 '\x22' rfl (by decide) hgap _ hmem (by decide),
    hsame.trans hspans, hread⟩

end Lexical

end RtlLiterals
