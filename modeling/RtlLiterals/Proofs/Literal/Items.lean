import RtlLiterals.Literal.Lexical

/-!
# RtlLiterals.Proofs.Literal.Items -- what a literal is, said without the scan

`Lexical.body` reads the end of a literal. Here the same thing is said of the text alone: between
two delimiters stands a sequence of items, each of them a backslash with the character after it or
one other character. The scan never has a choice, so reading items is a function of the text.

## §A What is stated

* `body_eq_some_iff`: the scan reads a content exactly where items are followed by the delimiter.
* `literalAt?_eq_some_iff`, `CompleteAt`: a literal starts at a character exactly when the
  character is a delimiter, and items after it reach the same delimiter.
-/

namespace RtlLiterals

namespace Lexical

/-! ## §B Items -/

/-- **`Items q t`** -- the text `t` may stand between two delimiters `q`: it is a sequence of
items, each a backslash with any one character after it, or a character other than `q` and the
backslash. -/
inductive Items (q : Char) : Text → Prop
  | nil : Items q []
  | escape (c : Char) {t : Text} : Items q t → Items q (backslash :: c :: t)
  | plain {c : Char} {t : Text} : c ≠ q → c ≠ backslash → Items q t → Items q (c :: t)

/-- Items up to a delimiter are read whole, and nothing beyond it is read. -/
theorem body_of_items {q : Char} (hq : q ≠ backslash) {b : Text} (h : Items q b) (r : Text) :
    body q (b ++ q :: r) = some b := by
  induction h with
  | nil => cases r <;> simp [body]
  | @escape c t _ ih =>
    rw [List.cons_append, List.cons_append, body, if_neg hq.symm, if_pos rfl, ih, Option.map_some]
  | @plain c t hcq hc _ ih =>
    cases ht : t ++ q :: r with
    | nil => exact absurd ht (by simp)
    | cons d u =>
      rw [List.cons_append, ht, body, if_neg hcq, if_neg hc, ← ht, ih, Option.map_some]

/-- What is read is a sequence of items, and the delimiter follows it. -/
theorem items_of_body {q : Char} {t b : Text} (h : body q t = some b) :
    Items q b ∧ ∃ r, t = b ++ q :: r := by
  fun_induction body q t generalizing b with
  | case1 => cases h
  | case2 =>
    obtain rfl : [] = b := Option.some.inj h
    exact ⟨.nil, [], rfl⟩
  | case3 => cases h
  | case4 d t =>
    obtain rfl : [] = b := Option.some.inj h
    exact ⟨.nil, d :: t, rfl⟩
  | case5 d t _ ih =>
    obtain ⟨b', hb', rfl⟩ := Option.map_eq_some_iff.1 h
    obtain ⟨hitems, r, rfl⟩ := ih hb'
    exact ⟨.escape d hitems, r, rfl⟩
  | case6 c d t hcq hc ih =>
    obtain ⟨b', hb', rfl⟩ := Option.map_eq_some_iff.1 h
    obtain ⟨hitems, r, hr⟩ := ih hb'
    exact ⟨.plain hcq hc hitems, r, by rw [hr, List.cons_append]⟩

/-- **The end of a literal.** A content is read exactly where it is a sequence of items that the
delimiter follows. -/
theorem body_eq_some_iff {q : Char} (hq : q ≠ backslash) {t b : Text} :
    body q t = some b ↔ Items q b ∧ ∃ r, t = b ++ q :: r := by
  constructor
  · exact items_of_body
  · rintro ⟨hitems, r, rfl⟩
    exact body_of_items hq hitems r

/-! ## §C Where a literal starts -/

theorem literalAt?_eq_some_iff {c : Char} {t b : Text} :
    literalAt? c t = some b ↔ isQuote c = true ∧ Items c b ∧ ∃ r, t = b ++ c :: r := by
  unfold literalAt?
  by_cases hc : isQuote c = true
  · rw [if_pos hc, body_eq_some_iff (ne_backslash_of_isQuote hc)]
    exact ⟨fun h => ⟨hc, h⟩, fun h => h.2⟩
  · rw [if_neg hc]
    constructor
    · intro h
      cases h
    · rintro ⟨h, _⟩
      exact absurd h hc

/-- **`CompleteAt t i`** -- a complete literal of `t` starts at offset `i`: a delimiter stands
there, and items after it reach the same delimiter before the text ends. -/
def CompleteAt (t : Text) (i : Nat) : Prop :=
  ∃ q b r, isQuote q = true ∧ Items q b ∧ t.drop i = q :: (b ++ q :: r)

/-- Whether a literal starts at a character depends on the text from there on. -/
theorem completeAt_append (a t : Text) (i : Nat) :
    CompleteAt (a ++ t) (a.length + i) ↔ CompleteAt t i := by
  rw [CompleteAt, CompleteAt, List.drop_length_add_append]

theorem completeAt_succ (c : Char) (t : Text) (i : Nat) :
    CompleteAt (c :: t) (i + 1) ↔ CompleteAt t i := Iff.rfl

theorem completeAt_zero {c : Char} {t : Text} :
    CompleteAt (c :: t) 0 ↔ ∃ b, literalAt? c t = some b := by
  simp only [literalAt?_eq_some_iff]
  constructor
  · rintro ⟨q, b, r, hq, hb, ht⟩
    obtain ⟨rfl, rfl⟩ := List.cons.inj ht
    exact ⟨b, hq, hb, r, rfl⟩
  · rintro ⟨b, hq, hb, r, rfl⟩
    exact ⟨c, b, r, hq, hb, rfl⟩

theorem lt_length_of_completeAt {t : Text} {i : Nat} (h : CompleteAt t i) : i < t.length := by
  obtain ⟨q, b, r, _, _, ht⟩ := h
  have hlen := congrArg List.length ht
  rw [List.length_drop, List.length_cons] at hlen
  omega

/-- Only a delimiter starts a literal. -/
theorem not_completeAt_of_not_isQuote {t : Text} {i : Nat}
    (h : ∀ c, t[i]? = some c → isQuote c = false) : ¬ CompleteAt t i := by
  rintro ⟨q, b, r, hq, _, ht⟩
  have hget : t[i]? = some q := by
    rw [← List.head?_drop, ht]
    rfl
  rw [h q hget] at hq
  cases hq

end Lexical

end RtlLiterals
