import RtlLiterals.Text.Basic

/-!
# RtlLiterals.Literal.Quote -- delimiters, and the text between two of them

Three characters delimit literals: the double quote, the single quote and the backtick. A quoted
text such as `r#"…"#` may have characters around its delimiters; `unquote` takes what stands
between the first delimiter and the last occurrence of that same delimiter.

## §A Statements

* `unquote_eq_some_iff`: `unquote t = some c` exactly when `t = p ++ q :: c ++ q :: s` for a
  delimiter `q`, a `p` without delimiters and an `s` without `q`.
-/

namespace RtlLiterals

/-- The character that starts an escape. -/
def backslash : Char := '\\'

/-- The three delimiters. -/
def quoteChars : List Char := ['\x22', '\x27', '\x60']

/-- The character delimits literals. -/
def isQuote (c : Char) : Bool := c == '\x22' || c == '\x27' || c == '\x60'

theorem isQuote_iff {c : Char} : isQuote c = true ↔ c ∈ quoteChars := by
  simp [isQuote, quoteChars, or_assoc]

@[simp] theorem isQuote_backslash : isQuote backslash = false := by decide

theorem ne_backslash_of_isQuote {q : Char} (h : isQuote q = true) : q ≠ backslash := by
  rintro rfl
  simp at h

/-- The part of `t` before the last occurrence of `q`, if `q` occurs. -/
def beforeLast (q : Char) : Text → Option Text
  | [] => none
  | c :: t =>
    match beforeLast q t with
    | some b => some (c :: b)
    | none => if c = q then some [] else none

/-- What stands between the first delimiter of `t` and the last occurrence of that delimiter. -/
def unquote : Text → Option Text
  | [] => none
  | c :: t => if isQuote c then beforeLast c t else unquote t

/-! ### What `beforeLast` finds -/

theorem beforeLast_eq_none_iff {q : Char} {t : Text} : beforeLast q t = none ↔ q ∉ t := by
  induction t with
  | nil => simp [beforeLast]
  | cons c t ih =>
    unfold beforeLast
    cases h : beforeLast q t with
    | none =>
      have hq : q ∉ t := ih.1 h
      by_cases hc : c = q
      · simp [hc]
      · simp [hc, hq, Ne.symm hc]
    | some b =>
      have hq : q ∈ t := by
        by_cases hm : q ∈ t
        · exact hm
        · rw [ih.2 hm] at h
          cases h
      simp [hq]

theorem beforeLast_eq_some_iff {q : Char} {t b : Text} :
    beforeLast q t = some b ↔ ∃ s, t = b ++ q :: s ∧ q ∉ s := by
  induction t generalizing b with
  | nil => simp [beforeLast]
  | cons c t ih =>
    unfold beforeLast
    cases h : beforeLast q t with
    | some b' =>
      obtain ⟨s', hs', hq'⟩ := ih.1 h
      constructor
      · intro hb
        obtain rfl : c :: b' = b := Option.some.inj hb
        exact ⟨s', by simp [hs'], hq'⟩
      · rintro ⟨s, hs, hq⟩
        cases b with
        | nil =>
          simp only [List.nil_append, List.cons.injEq] at hs
          exact absurd (by rw [← hs.2, hs']; simp) hq
        | cons d b =>
          simp only [List.cons_append, List.cons.injEq] at hs
          have hb := ih.2 ⟨s, hs.2, hq⟩
          rw [h] at hb
          obtain rfl : b' = b := Option.some.inj hb
          simp [hs.1]
    | none =>
      have hn : q ∉ t := beforeLast_eq_none_iff.1 h
      by_cases hc : c = q
      · subst hc
        constructor
        · intro hb
          obtain rfl : [] = b := by simpa using hb
          exact ⟨t, rfl, hn⟩
        · rintro ⟨s, hs, hq⟩
          cases b with
          | nil => simp
          | cons d b =>
            simp only [List.cons_append, List.cons.injEq] at hs
            exact absurd (by rw [hs.2]; simp) hn
      · constructor
        · intro hb
          simp [hc] at hb
        · rintro ⟨s, hs, hq⟩
          cases b with
          | nil =>
            simp only [List.nil_append, List.cons.injEq] at hs
            exact absurd hs.1 hc
          | cons d b =>
            simp only [List.cons_append, List.cons.injEq] at hs
            exact absurd (by rw [hs.2]; simp) hn

/-! ### What `unquote` finds -/

theorem unquote_eq_some_iff {t c : Text} :
    unquote t = some c ↔
      ∃ p q s, t = p ++ q :: c ++ q :: s ∧ isQuote q = true ∧
        (∀ x ∈ p, isQuote x = false) ∧ q ∉ s := by
  induction t with
  | nil => simp [unquote]
  | cons x t ih =>
    unfold unquote
    by_cases hx : isQuote x = true
    · rw [if_pos hx, beforeLast_eq_some_iff]
      constructor
      · rintro ⟨s, rfl, hs⟩
        exact ⟨[], x, s, rfl, hx, by simp, hs⟩
      · rintro ⟨p, q, s, ht, hq, hp, hs⟩
        cases p with
        | nil =>
          simp only [List.nil_append, List.cons_append, List.cons.injEq] at ht
          obtain ⟨rfl, rfl⟩ := ht
          exact ⟨s, rfl, hs⟩
        | cons y p =>
          simp only [List.cons_append, List.cons.injEq] at ht
          have := hp y (by simp)
          rw [← ht.1, hx] at this
          cases this
    · rw [if_neg hx, ih]
      constructor
      · rintro ⟨p, q, s, rfl, hq, hp, hs⟩
        exact ⟨x :: p, q, s, rfl, hq, by
          intro y hy
          rcases List.mem_cons.1 hy with rfl | hy
          · simpa using hx
          · exact hp y hy, hs⟩
      · rintro ⟨p, q, s, ht, hq, hp, hs⟩
        cases p with
        | nil =>
          simp only [List.nil_append, List.cons_append, List.cons.injEq] at ht
          rw [ht.1] at hx
          exact absurd hq hx
        | cons y p =>
          simp only [List.cons_append, List.cons.injEq] at ht
          exact ⟨p, q, s, by simpa using ht.2, hq, fun z hz => hp z (by simp [hz]), hs⟩

end RtlLiterals
