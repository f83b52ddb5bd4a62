import RtlLiterals.Proofs.Literal.Placement

/-!
# RtlLiterals.Proofs.Literal.Restart -- the lexical scan knows nothing but its place

The scan carries no state from one literal to the next. Where it is between two literals it goes on
as at the start of a text, so a text may be cut there and its parts scanned one by one.

## §A What is stated

* `charSpans_shift`: the offset at which a scan starts is added to all offsets it gives.
* `passedAlike_of_cut`, `PassedAlike.charSpans_append`: at a cut that no span runs over, the spans
  before it belong to the first part and the spans behind it to the second. Another second part
  leaves those before the cut as they are, unless it closes a delimiter that stands in a gap of the
  first part.
* `completeAt_swap`: text without delimiters and backslashes closes nothing and, if there is some of
  it, takes the character after a backslash. So one such text may stand for another.
-/

namespace RtlLiterals

/-- The span has characters before offset `n` and characters from offset `m` on. For `m < n` it
shares a character with the slice from `m` to `n`; for `m = n` it runs over this offset. -/
def Span.Overlaps (s : Span) (m n : Nat) : Prop := s.start < n ∧ m < s.stop

instance (s : Span) (m n : Nat) : Decidable (s.Overlaps m n) :=
  inferInstanceAs (Decidable (_ ∧ _))

namespace Lexical

/-! ## §B Where a scan starts -/

theorem le_start_of_mem_charSpans {offset : Nat} {t : Text} {s : Span}
    (h : s ∈ charSpans offset t) : offset ≤ s.start := by
  obtain ⟨gap, ps, _, hspans, _⟩ := exists_pieces offset t
  rw [hspans] at h
  exact Nat.le_of_add_right_le (le_start_of_mem_spansOf h)

/-- The same text is scanned alike wherever it starts. -/
theorem charSpans_shift (n offset : Nat) (t : Text) :
    charSpans (offset + n) t = (charSpans offset t).map (Span.shift n) := by
  fun_induction charSpans offset t with
  | case1 => rw [charSpans, List.map_nil]
  | case2 offset c t b hlit ih =>
    have hstop : offset + n + b.length + 2 = offset + b.length + 2 + n := by omega
    rw [charSpans, hlit]
    simp only [hstop, ih, List.map_cons, Span.shift]
  | case3 offset c t hlit ih =>
    have hnext : offset + n + 1 = offset + 1 + n := by omega
    rw [charSpans_cons_none hlit, hnext, ih]

theorem charSpans_eq_map_shift (n : Nat) (t : Text) :
    charSpans n t = (lexicalSpans t).map (Span.shift n) := by
  rw [lexicalSpans_eq_charSpans, ← charSpans_shift, Nat.zero_add]

/-! ## §C Two parts -/

/-- **`PassedAlike u u' a`** -- the scan passes the text `a` in the same steps whether `u` or `u'`
follows it: a step is a character that starts no literal, or a whole literal. -/
inductive PassedAlike (u u' : Text) : Text → Prop
  | done : PassedAlike u u' []
  | character {c : Char} {a : Text} : literalAt? c (a ++ u) = none → literalAt? c (a ++ u') = none →
      PassedAlike u u' a → PassedAlike u u' (c :: a)
  | literal {q : Char} {b a : Text} : isQuote q = true → Items q b →
      PassedAlike u u' a → PassedAlike u u' (q :: (b ++ q :: a))

/-- The place behind a literal and some text. -/
theorem add_length_literal (q : Char) (b a : Text) (offset : Nat) :
    offset + (q :: (b ++ q :: a)).length = offset + b.length + 2 + a.length := by
  simp only [List.length_cons, List.length_append]
  omega

/-- A literal at the head of the first of two parts. -/
theorem charSpans_literal_append {q : Char} {b : Text} (hq : isQuote q = true) (hb : Items q b)
    (a u : Text) (offset : Nat) :
    charSpans offset (q :: (b ++ q :: a) ++ u) =
      ⟨b, offset, offset + b.length + 2⟩ :: charSpans (offset + b.length + 2) (a ++ u) := by
  simpa using charSpans_literal hq hb (a ++ u) offset

/-- Behind a text that is passed alike the scan goes on as at the start of a text. -/
theorem PassedAlike.charSpans_append {u u' a : Text} (h : PassedAlike u u' a) (offset : Nat) :
    ∃ before, (∀ s ∈ before, s.stop ≤ offset + a.length) ∧
      charSpans offset (a ++ u) = before ++ charSpans (offset + a.length) u ∧
      charSpans offset (a ++ u') = before ++ charSpans (offset + a.length) u' := by
  induction h generalizing offset with
  | done => exact ⟨[], by simp, rfl, rfl⟩
  | @character c a hu hu' _ ih =>
    have hlen : offset + (c :: a).length = offset + 1 + a.length := by
      rw [List.length_cons]
      omega
    rw [List.cons_append, List.cons_append, charSpans_cons_none hu, charSpans_cons_none hu', hlen]
    exact ih (offset + 1)
  | @literal q b a hq hb _ ih =>
    obtain ⟨before, hstop, hspans, hspans'⟩ := ih (offset + b.length + 2)
    rw [charSpans_literal_append hq hb, charSpans_literal_append hq hb, add_length_literal, hspans,
      hspans']
    refine ⟨⟨b, offset, offset + b.length + 2⟩ :: before, ?_, rfl, rfl⟩
    intro s hs
    rcases List.mem_cons.1 hs with rfl | hs
    · exact Nat.le_add_right _ _
    · exact hstop s hs

/-- **`Seam offset u u' a`** -- at the end of `a` the text `u` may be taken off and `u'` put on,
when the scan starts at `offset`: no span runs over the end of `a`, and `u'` completes no literal
from a gap of `a` that `u` does not. -/
structure Seam (offset : Nat) (u u' a : Text) : Prop where
  apart : ∀ s ∈ charSpans offset (a ++ u), ¬ s.Overlaps (offset + a.length) (offset + a.length)
  closes : ∀ i, i < a.length → InGap (charSpans offset (a ++ u)) (offset + i) →
    CompleteAt (a ++ u') i → CompleteAt (a ++ u) i

namespace Seam

variable {offset : Nat} {u u' a : Text}

/-- A first character that starts no literal before `u` starts none before `u'`. -/
theorem literalAt?_eq_none {c : Char} (h : Seam offset u u' (c :: a))
    (hlit : literalAt? c (a ++ u) = none) : literalAt? c (a ++ u') = none := by
  cases hlit' : literalAt? c (a ++ u') with
  | none => rfl
  | some b =>
    have hgap : InGap (charSpans offset (c :: a ++ u)) (offset + 0) := by
      rw [List.cons_append, charSpans_cons_none hlit]
      exact fun s hs => .inl (le_start_of_mem_charSpans hs)
    have hcomplete : CompleteAt (c :: (a ++ u)) 0 :=
      h.closes 0 (Nat.succ_pos _) hgap (completeAt_zero.2 ⟨b, hlit'⟩)
    obtain ⟨b', hb'⟩ := completeAt_zero.1 hcomplete
    rw [hlit] at hb'
    cases hb'

/-- The seam is still there behind a character that starts no literal. -/
theorem character {c : Char} (h : Seam offset u u' (c :: a))
    (hlit : literalAt? c (a ++ u) = none) : Seam (offset + 1) u u' a := by
  obtain ⟨hapart, hcloses⟩ := h
  rw [List.cons_append, charSpans_cons_none hlit] at hapart hcloses
  constructor
  · intro s hs
    rw [Nat.add_assoc, Nat.add_comm 1]
    exact hapart s hs
  · intro i hi hgap
    rw [Nat.add_assoc, Nat.add_comm 1] at hgap
    exact hcloses (i + 1) (Nat.succ_lt_succ hi) hgap

/-- The seam is still there behind a literal. -/
theorem literal {q : Char} {b : Text} (h : Seam offset u u' (q :: (b ++ q :: a)))
    (hq : isQuote q = true) (hb : Items q b) : Seam (offset + b.length + 2) u u' a := by
  have hlen := add_length_literal q b a offset
  have hspans := charSpans_literal_append hq hb a u offset
  have hcomplete (v : Text) (i : Nat) :
      CompleteAt (q :: (b ++ q :: a) ++ v) (b.length + 2 + i) ↔ CompleteAt (a ++ v) i := by
    simpa using completeAt_append (q :: (b ++ [q])) (a ++ v) i
  constructor
  · intro s hs
    rw [← hlen]
    refine h.apart s ?_
    rw [hspans]
    exact List.mem_cons_of_mem _ hs
  · intro i hi hgap hi'
    refine (hcomplete u i).1 (h.closes _ (by omega) ?_ ((hcomplete u' i).2 hi'))
    rw [hspans]
    intro s hs
    rcases List.mem_cons.1 hs with rfl | hs
    · -- The literal itself is passed at the offsets of the rest.
      right
      simp only
      omega
    · rw [← Nat.add_assoc, ← Nat.add_assoc]
      exact hgap s hs

/-- A literal that starts before a seam ends before it. -/
theorem exists_literal {c : Char} {b : Text} (h : Seam offset u u' (c :: a))
    (hlit : literalAt? c (a ++ u) = some b) :
    isQuote c = true ∧ Items c b ∧ ∃ a', a = b ++ c :: a' := by
  obtain ⟨hc, hb, r, hr⟩ := literalAt?_eq_some_iff.1 hlit
  have hspan : ⟨b, offset, offset + b.length + 2⟩ ∈ charSpans offset (c :: a ++ u) := by
    rw [List.cons_append, hr, charSpans_literal hc hb]
    exact List.mem_cons_self ..
  -- The literal does not run over the seam, so its closing delimiter is in `a`.
  have hfit : (b ++ [c]).length ≤ a.length := by
    have hfirst := h.apart _ hspan
    simp only [Span.Overlaps, List.length_cons] at hfirst
    rw [List.length_append, List.length_singleton]
    omega
  have hprefix : b ++ [c] <+: a :=
    List.prefix_of_prefix_length_le ⟨r, by simpa using hr.symm⟩ ⟨u, rfl⟩ hfit
  obtain ⟨a', rfl⟩ := hprefix
  exact ⟨hc, hb, a', by simp⟩

end Seam

/-- The text before a seam is passed alike, by induction on its length: a step is a character or a
whole literal. -/
theorem Seam.passedAlike {offset : Nat} {u u' a : Text} (h : Seam offset u u' a) :
    PassedAlike u u' a := by
  match a with
  | [] => exact .done
  | c :: a =>
    cases hlit : literalAt? c (a ++ u) with
    | none => exact .character hlit (h.literalAt?_eq_none hlit) (h.character hlit).passedAlike
    | some b =>
      obtain ⟨hc, hb, a', rfl⟩ := h.exists_literal hlit
      exact .literal hc hb (h.literal hc hb).passedAlike
termination_by a.length

/-- **A cut.** If no span of `a ++ u` runs over the end of `a`, then `a` is passed alike before any
other text `u'` that completes no literal from a gap of `a`. -/
theorem passedAlike_of_cut {a u u' : Text}
    (hcut : ∀ s ∈ lexicalSpans (a ++ u), ¬ s.Overlaps a.length a.length)
    (hgaps : ∀ i, i < a.length → InGap (lexicalSpans (a ++ u)) i →
      CompleteAt (a ++ u') i → CompleteAt (a ++ u) i) : PassedAlike u u' a := by
  have hseam : Seam 0 u u' a := by
    constructor
    · rw [← lexicalSpans_eq_charSpans, Nat.zero_add]
      exact hcut
    · intro i
      rw [← lexicalSpans_eq_charSpans, Nat.zero_add]
      exact hgaps i
  exact hseam.passedAlike

/-! ## §D Text that says nothing -/

/-- The text holds neither delimiters nor backslashes. -/
def IsPlain (x : Text) : Prop := ∀ c ∈ x, isQuote c = false ∧ c ≠ backslash

instance (x : Text) : Decidable (IsPlain x) :=
  List.decidableBAll (fun c => isQuote c = false ∧ c ≠ backslash) x

theorem body_cons_self (q : Char) (t : Text) : body q (q :: t) = some [] := by
  cases t <;> simp [body]

theorem body_escape {q : Char} (hq : q ≠ backslash) (c : Char) (t : Text) :
    body q (backslash :: c :: t) = (body q t).map fun b => backslash :: c :: b := by
  rw [body, if_neg hq.symm, if_pos rfl]

theorem body_cons_plain {q c : Char} (hcq : c ≠ q) (hc : c ≠ backslash) (t : Text) :
    body q (c :: t) = (body q t).map (c :: ·) := by
  cases t with
  | nil => simp [body, hcq]
  | cons d t => rw [body, if_neg hcq, if_neg hc]

/-- A literal that was opened before plain text is closed, if at all, behind it. -/
theorem isSome_body_plain {q : Char} (hq : isQuote q = true) {x : Text} (hx : IsPlain x)
    (b : Text) : (body q (x ++ b)).isSome = (body q b).isSome := by
  induction x with
  | nil => rfl
  | cons c x ih =>
    obtain ⟨hquote, hc⟩ := hx c (List.mem_cons_self ..)
    have hcq : c ≠ q := by
      rintro rfl
      rw [hq] at hquote
      cases hquote
    rw [List.cons_append, body_cons_plain hcq hc, Option.isSome_map]
    exact ih fun d hd => hx d (List.mem_cons_of_mem _ hd)

/-- **Plain text for plain text.** A literal that was opened before `a` is closed or not, whichever
plain text stands between `a` and `b`. There has to be some, since `a` may end with a backslash. -/
theorem isSome_body_swap {q : Char} (hq : isQuote q = true) {x x' : Text} (hx : IsPlain x)
    (hx' : IsPlain x') (hne : x ≠ []) (hne' : x' ≠ []) (a b : Text) :
    (body q (a ++ (x ++ b))).isSome = (body q (a ++ (x' ++ b))).isSome := by
  have hslash := ne_backslash_of_isQuote hq
  fun_induction body q a with
  | case1 =>
    rw [List.nil_append, List.nil_append, isSome_body_plain hq hx, isSome_body_plain hq hx']
  | case2 => simp only [List.cons_append, body_cons_self]
  | case3 c hcq =>
    simp only [List.singleton_append]
    by_cases hc : c = backslash
    · -- The escape takes the first character of the plain text, and the rest of it is plain too.
      subst hc
      obtain ⟨y, x, rfl⟩ := List.exists_cons_of_ne_nil hne
      obtain ⟨y', x', rfl⟩ := List.exists_cons_of_ne_nil hne'
      rw [List.cons_append, List.cons_append, body_escape hslash, body_escape hslash,
        Option.isSome_map, Option.isSome_map, isSome_body_plain hq, isSome_body_plain hq]
      · exact fun d hd => hx' d (List.mem_cons_of_mem _ hd)
      · exact fun d hd => hx d (List.mem_cons_of_mem _ hd)
    · rw [body_cons_plain hcq hc, body_cons_plain hcq hc, Option.isSome_map, Option.isSome_map,
        isSome_body_plain hq hx, isSome_body_plain hq hx']
  | case4 d t => simp only [List.cons_append, body_cons_self]
  | case5 d t _ ih =>
    simp only [List.cons_append]
    rw [body_escape hslash, body_escape hslash, Option.isSome_map, Option.isSome_map]
    exact ih
  | case6 c d t hcq hc ih =>
    simp only [List.cons_append]
    rw [body_cons_plain hcq hc, body_cons_plain hcq hc, Option.isSome_map, Option.isSome_map]
    exact ih

/-- Plain text may stand for plain text behind a delimiter. -/
theorem completeAt_swap {a b x x' : Text} (hx : IsPlain x) (hx' : IsPlain x') (hne : x ≠ [])
    (hne' : x' ≠ []) {i : Nat} (hi : i < a.length) :
    CompleteAt (a ++ (x ++ b)) i ↔ CompleteAt (a ++ (x' ++ b)) i := by
  obtain ⟨p, c, r, rfl, rfl⟩ : ∃ p c r, a = p ++ c :: r ∧ p.length = i :=
    ⟨a.take i, a[i], a.drop (i + 1), by simp, by rw [List.length_take]; omega⟩
  have hfrom (v : Text) :
      CompleteAt (p ++ c :: r ++ v) p.length ↔ (literalAt? c (r ++ v)).isSome = true := by
    have h := completeAt_append p (c :: (r ++ v)) 0
    rw [Nat.add_zero, completeAt_zero, ← Option.isSome_iff_exists] at h
    simpa using h
  rw [hfrom, hfrom]
  unfold literalAt?
  by_cases hc : isQuote c = true
  · rw [if_pos hc, if_pos hc, isSome_body_swap hc hx hx' hne hne']
  · rw [if_neg hc, if_neg hc]

/-- Plain text holds no literal. -/
theorem charSpans_plain {x : Text} (hx : IsPlain x) (u : Text) (offset : Nat) :
    charSpans offset (x ++ u) = charSpans (offset + x.length) u := by
  apply charSpans_gap
  intro i hi
  apply not_completeAt_of_not_isQuote
  intro c hc
  rw [List.getElem?_append_left hi] at hc
  exact (hx c (List.mem_of_getElem? hc)).1

end Lexical

end RtlLiterals
