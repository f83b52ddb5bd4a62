import RtlLiterals.Proofs.Literal.Items
import RtlLiterals.Proofs.Text.Offsets

/-!
# RtlLiterals.Proofs.Literal.CharScan -- the lexical scan, counted in characters

The scan finds literals by the bytes they take, walks over a literal it has found character by
character, and leaves the offsets in characters to a cursor. `charSpans` is the same scan with
offsets in characters throughout; it jumps over a literal once it is found.

## §A What is stated

* `lexicalSpans_eq_charSpans`: the two scans give the same spans. The invariant is the place of the
  cursor, which is never past the character that the scan has reached.
* `charSpans_literal`, `charSpans_gap`: a literal is taken whole, and a gap gives nothing. What the
  scan does on any text follows from these two.
-/

namespace RtlLiterals

namespace Lexical

/-! ## §B The scan in characters -/

/-- The literals of `t`, which starts at character `offset`. -/
def charSpans (offset : Nat) : Text → List Span
  | [] => []
  | c :: t =>
    match literalAt? c t with
    | some b =>
      ⟨b, offset, offset + b.length + 2⟩ ::
        charSpans (offset + b.length + 2) (t.drop (b.length + 1))
    | none => charSpans (offset + 1) t
termination_by t => t.length
decreasing_by
  · simp only [List.length_drop, List.length_cons]
    omega
  · simp

theorem charSpans_cons_none {c : Char} {t : Text} (h : literalAt? c t = none) (offset : Nat) :
    charSpans offset (c :: t) = charSpans (offset + 1) t := by
  rw [charSpans, h]

/-- **A literal.** The scan takes it whole and goes on behind it. -/
theorem charSpans_literal {q : Char} {b : Text} (hq : isQuote q = true) (hb : Items q b) (u : Text)
    (offset : Nat) :
    charSpans offset (q :: (b ++ q :: u)) =
      ⟨b, offset, offset + b.length + 2⟩ :: charSpans (offset + b.length + 2) u := by
  have hlit : literalAt? q (b ++ q :: u) = some b := literalAt?_eq_some_iff.2 ⟨hq, hb, u, rfl⟩
  have hdrop : (b ++ q :: u).drop (b.length + 1) = u := by
    rw [List.drop_length_add_append, List.drop_succ_cons, List.drop_zero]
  rw [charSpans, hlit]
  simp only [hdrop]

/-! ## §C The scan in bytes -/

/-- Covered characters are passed one by one. -/
theorem find_covered (a t : Text) (bytes : Nat) :
    find bytes a.length (a ++ t) = find (bytes + Text.byteLength a) 0 t := by
  induction a generalizing bytes with
  | nil => rfl
  | cons c a ih =>
    rw [List.length_cons, List.cons_append, find, ih, Text.byteLength_cons, Nat.add_assoc]

theorem find_cons_none {c : Char} {t : Text} (h : literalAt? c t = none) (bytes : Nat) :
    find bytes 0 (c :: t) = find (bytes + c.utf8Size) 0 t := by
  rw [find, h]

theorem find_literal {q : Char} {b : Text} (hq : isQuote q = true) (hb : Items q b) (u : Text)
    (bytes : Nat) :
    find bytes 0 (q :: (b ++ q :: u)) =
      ⟨q :: (b ++ [q]), bytes, bytes + Text.byteLength (q :: (b ++ [q]))⟩ ::
        find (bytes + Text.byteLength (q :: (b ++ [q]))) 0 u := by
  have hlit : literalAt? q (b ++ q :: u) = some b := literalAt?_eq_some_iff.2 ⟨hq, hb, u, rfl⟩
  have hcovered := find_covered (b ++ [q]) u (bytes + q.utf8Size)
  rw [List.length_append, List.length_singleton, List.append_assoc, List.singleton_append,
    Nat.add_assoc, ← Text.byteLength_cons] at hcovered
  rw [find, hlit]
  simp only [List.cons_append, hcovered]

@[simp] theorem Found.content_quoted (q : Char) (b : Text) (start stop : Nat) :
    Found.content ⟨q :: (b ++ [q]), start, stop⟩ = b := by
  simp [Found.content]

/-- **One scan in bytes and in characters.** From character `n` on, with the cursor on a character
`m` that is not past it, both scans give the same spans. -/
theorem spansFrom_find {source : Text} {m n : Nat} (hmn : m ≤ n) (hn : n ≤ source.length) :
    spansFrom (.onChar source m) (find (source.byteOffset n) 0 (source.drop n)) =
      charSpans n (source.drop n) := by
  cases ht : source.drop n with
  | nil => rw [find, spansFrom, charSpans]
  | cons c t =>
    cases hlit : literalAt? c t with
    | none =>
      obtain ⟨hlen, hdrop, hbyte⟩ := Text.after_slice (a := [c]) hn ht
      rw [List.length_singleton] at hlen hdrop hbyte
      rw [Text.byteLength_singleton] at hbyte
      rw [find_cons_none hlit, charSpans_cons_none hlit, ← hdrop, ← hbyte]
      exact spansFrom_find (Nat.le_add_right_of_le hmn) hlen
    | some b =>
      obtain ⟨hc, hb, r, rfl⟩ := literalAt?_eq_some_iff.1 hlit
      have hquoted : source.drop n = c :: (b ++ [c]) ++ r := by simpa using ht
      obtain ⟨hlen, hdrop, hbyte⟩ := Text.after_slice hn hquoted
      have hstop : n + (c :: (b ++ [c])).length = n + b.length + 2 := by
        rw [List.length_cons, List.length_append, List.length_singleton]
        omega
      rw [hstop] at hlen hdrop hbyte
      rw [find_literal hc hb, charSpans_literal hc hb, spansFrom, ← hbyte]
      simp only [Found.content_quoted]
      rw [OffsetCursor.advance_of_le hmn hn, OffsetCursor.advance_of_le (by omega) hlen,
        OffsetCursor.onChar_chars, OffsetCursor.onChar_chars, ← hdrop,
        spansFrom_find (Nat.le_refl _) hlen]
termination_by source.length - n
decreasing_by
  all_goals
    simp only [List.length_cons] at hlen
    omega

/-- The scan in bytes is the scan in characters. -/
theorem lexicalSpans_eq_charSpans (source : Text) : lexicalSpans source = charSpans 0 source :=
  spansFrom_find (Nat.le_refl 0) (Nat.zero_le _)

/-! ## §D Gaps -/

/-- **A gap.** Where no character starts a literal the scan finds nothing. -/
theorem charSpans_gap {g u : Text} (h : ∀ i, i < g.length → ¬ CompleteAt (g ++ u) i)
    (offset : Nat) : charSpans offset (g ++ u) = charSpans (offset + g.length) u := by
  induction g generalizing offset with
  | nil => rfl
  | cons c g ih =>
    have hnone : literalAt? c (g ++ u) = none := by
      cases hlit : literalAt? c (g ++ u) with
      | none => rfl
      | some b => exact absurd (completeAt_zero.2 ⟨b, hlit⟩) (h 0 (by simp))
    have hrest : ∀ i, i < g.length → ¬ CompleteAt (g ++ u) i := fun i hi =>
      h (i + 1) (by simpa using hi)
    rw [List.cons_append, charSpans_cons_none hnone, ih hrest, List.length_cons]
    congr 1
    omega

end Lexical

end RtlLiterals
