import RtlLiterals.Proofs.Number.ReadBack
import RtlLiterals.Proofs.Yaml.Gaps

/-!
# RtlLiterals.Proofs.Yaml.Numbers -- every number is read back as it was written

A number other than `nan` is written as the shortest decimal in its interval, and what is read back
from a decimal in the interval of a number is the number (`float?_scientific`). What is written
holds nothing that would keep it from being a plain scalar (`plainAllowed_scientific`).
-/

namespace RtlLiterals.Yaml

open Binary64

/-! ## §A Plain scalars -/

theorem isPrintable_of_isNumberChar {c : Char} (h : isNumberChar c = true) :
    isPrintable c = true := by
  simp only [isNumberChar, Bool.or_eq_true, beq_iff_eq] at h
  rcases h with ((((h | rfl) | rfl) | rfl) | rfl) | rfl
  · simp only [Char.isDigit, Bool.and_eq_true, decide_eq_true_eq, UInt32.le_iff_toNat_le] at h
    have hlow : 48 ≤ c.toNat := h.1
    have hhigh : c.toNat ≤ 57 := h.2
    simp only [isPrintable, Bool.or_eq_true, Bool.and_eq_true, beq_iff_eq, bne_iff_ne,
      decide_eq_true_eq]
    omega
  all_goals rfl

theorem isGap_of_isNumberChar {c : Char} (h : isNumberChar c = true) : isGap c = false := by
  have hprintable := isPrintable_of_isNumberChar h
  refine isGap_eq_false_iff.2
    ⟨Bool.eq_false_iff.2 fun hblank => ?_, Bool.eq_false_iff.2 fun hbreak => ?_⟩
  · exact Text.ne_of_class h (by decide) (eq_space_of_isBlank hprintable hblank)
  · rcases isBreak_of_isPrintable hprintable hbreak with rfl | rfl | rfl <;>
      exact absurd h (by decide)

theorem holdsMark_of_isNumberChar {t : Text} (h : ∀ c ∈ t, isNumberChar c = true) :
    holdsMark t = false := by
  induction t with
  | nil => rfl
  | cons c t ih =>
    have hc := h c (List.mem_cons_self ..)
    have hcolon : (c == ':') = false := beq_eq_false_iff_ne.2 (Text.ne_of_class hc (by decide))
    rw [holdsMark, hcolon, isGap_of_isNumberChar hc, ih fun d hd => h d (List.mem_cons_of_mem _ hd)]
    rfl

theorem contains_eq_false_of_isDigit {c : Char} (hc : c.isDigit = true) {l : List Char}
    (hl : l.all (!Char.isDigit ·) = true) : l.contains c = false := by
  rw [List.contains_eq_mem, decide_eq_false_iff_not]
  intro hmem
  have hdigit := List.all_eq_true.1 hl c hmem
  rw [hc] at hdigit
  cases hdigit

/-- A number with its sign starts with no mark. -/
theorem startsAsMark_number {c : Char} (hc : c.isDigit = true) (negative : Bool) (t : Text) :
    startsAsMark (sign negative ++ c :: t) = false := by
  cases negative with
  | true =>
    have hgap : isGap c = false := isGap_of_isNumberChar (isNumberChar_of_isDigit hc)
    have hminus : c ≠ '-' := Text.ne_of_class hc (by decide)
    cases t <;> simp [sign, startsAsMark, endsWord, hgap, hminus]
  | false =>
    have hne {d : Char} (hd : d.isDigit = false) : (c == d) = false :=
      beq_eq_false_iff_ne.2 (Text.ne_of_class hc hd)
    change startsAsMark (c :: t) = false
    rw [startsAsMark, contains_eq_false_of_isDigit hc (by decide), hne (d := '-') (by decide),
      hne (d := '?') (by decide), hne (d := '.') (by decide)]
    rfl

/-- A number with its sign is written plainly. -/
theorem plainAllowed_number {c : Char} {t : Text} (hc : c.isDigit = true)
    (ht : ∀ d ∈ t, isNumberChar d = true) (negative : Bool) :
    plainAllowed (sign negative ++ c :: t) = true := by
  have hall : ∀ d ∈ sign negative ++ c :: t, isNumberChar d = true := by
    intro d hd
    rcases List.mem_append.1 hd with hd | hd
    · cases negative with
      | true =>
        obtain rfl := List.mem_singleton.1 hd
        rfl
      | false => cases hd
    · rcases List.mem_cons.1 hd with rfl | hd
      · exact isNumberChar_of_isDigit hc
      · exact ht d hd
  have hstart := startsAsMark_number hc negative t
  generalize sign negative ++ c :: t = u at *
  have hspace {d : Char} (hd : d ∈ u) : d ≠ ' ' := Text.ne_of_class (hall d hd) (by decide)
  simp only [plainAllowed, allPrintable, Bool.and_eq_true, List.all_eq_true, Bool.not_eq_true',
    List.any_eq_false, bne_iff_ne, Bool.not_eq_true]
  refine ⟨⟨⟨⟨⟨fun d hd => isPrintable_of_isNumberChar (hall d hd), fun d hd =>
    (isGap_eq_false_iff.1 (isGap_of_isNumberChar (hall d hd))).2⟩, ?_⟩, ?_⟩, hstart⟩,
    holdsMark_of_isNumberChar hall⟩
  · exact fun h => hspace (List.mem_of_mem_head? h) rfl
  · exact fun h => hspace (List.mem_of_mem_getLast? h) rfl

/-! ## §B Numbers -/

/-- Words for what is no number start with a point. -/
theorem isWord_eq_false {c : Char} (hc : c ≠ '.') (t : Text) :
    isInfinityWord (c :: t) = false ∧ isNanWord (c :: t) = false := by
  have hne (u : Text) : ('.' :: u == c :: t) = false := by
    rw [beq_eq_false_iff_ne]
    exact fun h => hc (List.cons.inj h).1.symm
  constructor
  · change (('.' :: ['i', 'n', 'f'] == c :: t) || (('.' :: ['I', 'n', 'f'] == c :: t) ||
      (('.' :: ['I', 'N', 'F'] == c :: t) || false))) = false
    rw [hne, hne, hne]
    rfl
  · change (('.' :: ['n', 'a', 'n'] == c :: t) || (('.' :: ['N', 'a', 'N'] == c :: t) ||
      (('.' :: ['N', 'A', 'N'] == c :: t) || false))) = false
    rw [hne, hne, hne]
    rfl

/-- A number that is read behind its sign is read with it. -/
theorem float?_number {c : Char} {t : Text} (hc : c.isDigit = true) (negative : Bool) {x : Binary64}
    (hread : readUnsigned negative (c :: t) = some x) (hx : x.isFinite = true) :
    float? (sign negative ++ c :: t) = some x := by
  have hpoint : c ≠ '.' := Text.ne_of_class hc (by decide)
  obtain ⟨d, u, hcons, hplus, hpoint', hdrop⟩ : ∃ d u, sign negative ++ c :: t = d :: u ∧ d ≠ '+' ∧
      d ≠ '.' ∧ (d = '-' → isInfinityWord u = false) := by
    cases negative with
    | true => exact ⟨'-', c :: t, rfl, by decide, by decide, fun _ => (isWord_eq_false hpoint t).1⟩
    | false =>
      exact ⟨c, t, rfl, Text.ne_of_class hc (by decide), hpoint,
        fun h => absurd h (Text.ne_of_class hc (by decide))⟩
  have htext := ofText?_number hc negative t
  rw [hcons] at htext ⊢
  obtain ⟨hinfinity, hnan⟩ := isWord_eq_false hpoint' u
  have hminus : ¬ ((d :: u).head? = some '-' ∧ isInfinityWord ((d :: u).drop 1) = true) := by
    rintro ⟨hd, hword⟩
    rw [List.drop_one, List.tail_cons, hdrop (Option.some.inj hd)] at hword
    cases hword
  have hplus' : ¬ (d :: u).head? = some '+' := fun h => hplus (Option.some.inj h)
  rw [float?]
  simp only [hplus', false_and, if_false, hinfinity, hnan, Bool.false_eq_true]
  rw [if_neg hminus, htext, hread, Option.filter_some, if_pos hx]

/-! ## §C What is written -/

/-- What is written for a finite number. -/
theorem scientific_eq {negative : Bool} {x : Significand} {hmax : x.exponent ≤ maxExponent}
    (hx : 0 < x.mantissa) : (Binary64.finite negative x hmax).scientific =
      sign negative ++ layScientific (Text.ofNat (shortest x).1) (shortest x).2 := by
  rw [scientific, if_neg hx.ne']

theorem plainAllowed_signedText (n : ℤ) :
    signedText n ≠ [] ∧ plainAllowed (signedText n) = true := by
  have hdigits : ∀ c ∈ Text.ofNat n.natAbs, c.isDigit = true := fun _ => Text.isDigit_of_mem_ofNat
  obtain ⟨c, t, hcons⟩ := List.exists_cons_of_ne_nil (Text.ofNat_ne_nil n.natAbs)
  rw [hcons] at hdigits
  have hplain := plainAllowed_number (hdigits c (List.mem_cons_self ..))
    (fun d hd => isNumberChar_of_isDigit (hdigits d (List.mem_cons_of_mem _ hd)))
  rw [signedText, hcons]
  split
  · exact ⟨by simp, hplain true⟩
  · exact ⟨by simp, hplain false⟩

theorem plainAllowed_scientific (x : Binary64) :
    x.scientific ≠ [] ∧ plainAllowed x.scientific = true := by
  cases x with
  | nan => decide
  | infinite negative => cases negative <;> decide
  | finite negative x hmax =>
    rcases Nat.eq_zero_or_pos x.mantissa with hx | hx
    · rw [scientific, if_pos hx]
      cases negative <;> decide
    · have hdigits : ∀ c ∈ Text.ofNat (shortest x).1, c.isDigit = true :=
        fun _ => Text.isDigit_of_mem_ofNat
      obtain ⟨c, t, hcons, hc⟩ :=
        exists_layScientific_eq_cons hdigits (Text.ofNat_ne_nil _) (shortest x).2
      have hall : ∀ d ∈ t, isNumberChar d = true := fun d hd =>
        isNumberChar_of_mem_layScientific hdigits (by rw [hcons]; exact List.mem_cons_of_mem _ hd)
      rw [scientific_eq hx, hcons]
      exact ⟨by simp, plainAllowed_number hc hall negative⟩

/-- **Every number is read back.** -/
theorem float?_scientific {x : Binary64} (hnan : x ≠ .nan) : float? x.scientific = some x := by
  cases x with
  | nan => exact absurd rfl hnan
  | infinite negative => cases negative <;> rfl
  | finite negative x hmax =>
    rcases Nat.eq_zero_or_pos x.mantissa with hx | hx
    · obtain rfl := Significand.eq_zero hx
      cases negative <;> rfl
    · obtain ⟨c, t, hcons, hc⟩ := exists_layScientific_eq_cons
        (fun _ => Text.isDigit_of_mem_ofNat) (Text.ofNat_ne_nil (shortest x).1) (shortest x).2
      have hread := readUnsigned_layScientific hmax hx negative
      rw [hcons] at hread
      rw [scientific_eq hx, hcons]
      exact float?_number hc negative hread rfl

end RtlLiterals.Yaml
