import RtlLiterals.Proofs.Number.Layout
import RtlLiterals.Proofs.Number.Nearest
import RtlLiterals.Proofs.Number.Shortest

/-!
# RtlLiterals.Proofs.Number.ReadBack -- what is written for a number is read as it

A finite number is written as the shortest decimal in its interval, and any text that is read as
that decimal is read as the number (`ReadsDecimal.readUnsigned_eq`), whether or not it has an
exponent. So the text without an exponent determines the number, its sign included
(`ofText?_positional`); the words for what is not finite are read as well.

Conversely a text that is read as a number writes a decimal in its interval, so no text without an
exponent has fewer places for the number (`length_fromPoint_positional_le`).
-/

namespace RtlLiterals.Binary64

/-! ## §A Decimals -/

/-- What is read as the shortest decimal of a number is read as the number. -/
theorem ReadsDecimal.readUnsigned_eq {x : Significand} (hmax : x.exponent ≤ maxExponent)
    (hx : 0 < x.mantissa) {t : Text} (h : ReadsDecimal t ((shortest x).1 * 10 ^ (shortest x).2))
    (negative : Bool) : readUnsigned negative t = some (.finite negative x hmax) := by
  obtain ⟨digits, width, power, hwidth, hvalue, hread⟩ := h
  have hholds := (shortest_spec x).2
  rw [← hvalue] at hholds
  rw [hread, ofDecimal_eq hmax hx hwidth hholds]

/-- The shortest decimal without an exponent. -/
theorem readUnsigned_layPositional {x : Significand} (hmax : x.exponent ≤ maxExponent)
    (hx : 0 < x.mantissa) (negative : Bool) :
    readUnsigned negative (layPositional (Text.ofNat (shortest x).1) (shortest x).2 []) =
      some (.finite negative x hmax) := by
  have hread := readsDecimal_layPositional (Text.ofNat_ne_nil (shortest x).1)
    (fun _ => Text.isDigit_of_mem_ofNat) (shortest x).2 (.inl rfl)
  rw [Text.ofDigitChars_ofNat] at hread
  exact hread.readUnsigned_eq hmax hx negative

/-- The shortest decimal in scientific notation. -/
theorem readUnsigned_layScientific {x : Significand} (hmax : x.exponent ≤ maxExponent)
    (hx : 0 < x.mantissa) (negative : Bool) :
    readUnsigned negative (layScientific (Text.ofNat (shortest x).1) (shortest x).2) =
      some (.finite negative x hmax) := by
  have hread := readsDecimal_layScientific (Text.ofNat_ne_nil (shortest x).1)
    (fun _ => Text.isDigit_of_mem_ofNat) (shortest x).2
  rw [Text.ofDigitChars_ofNat] at hread
  exact hread.readUnsigned_eq hmax hx negative

/-! ## §B Signs and words -/

theorem lower_of_isDigit {c : Char} (hc : c.isDigit = true) (t : Text) :
    Text.lower (c :: t) = c :: Text.lower t := by
  have hupper : c.toLower = c := by
    simp only [Char.isDigit, Bool.and_eq_true, decide_eq_true_eq, UInt32.le_iff_toNat_le] at hc
    have hhigh : c.val.toNat ≤ 57 := hc.2
    refine dif_neg ?_
    rintro ⟨hlow, -⟩
    have hlow' : 65 ≤ c.val.toNat := hlow
    omega
  rw [Text.lower, List.flatMap_cons, Text.lowerChar, if_neg (Text.ne_of_class hc (by decide)),
    if_neg (Text.ne_of_class hc (by decide)), hupper]
  rfl

theorem readSign_number {c : Char} (hc : c.isDigit = true) (negative : Bool) (t : Text) :
    readSign (sign negative ++ c :: t) = (negative, c :: t) := by
  cases negative with
  | true => rfl
  | false => exact readSign_of_isDigit hc t

/-- What starts with a digit behind its sign is no word. -/
theorem ofText?_number {c : Char} (hc : c.isDigit = true) (negative : Bool) (t : Text) :
    ofText? (sign negative ++ c :: t) = readUnsigned negative (c :: t) := by
  have hword {d : Char} {w : Text} (hd : d.isDigit = false) : Text.lower (c :: t) ≠ d :: w := by
    rw [lower_of_isDigit hc]
    exact fun h => Text.ne_of_class hc hd (List.cons.inj h).1
  rw [ofText?, readSign_number hc]
  simp only
  rw [if_neg, if_neg]
  · exact hword (d := 'n') (by decide)
  · exact not_or.2 ⟨hword (d := 'i') (by decide), hword (d := 'i') (by decide)⟩

/-! ## §C Numbers without an exponent -/

/-- Digits, points and minus signs only. -/
def WithoutExponent (t : Text) : Prop := ∀ c ∈ t, c.isDigit = true ∨ c = '.' ∨ c = '-'

/-- The text from its first point on. -/
def fromPoint (t : Text) : Text := t.dropWhile (· != '.')

/-- **`x.IsPositional t`** -- the text is read as the number. If the number is finite, the digits
stand around a point at most, with a minus sign or none, and no such text that is read as the number
has less from its point on. -/
def IsPositional (x : Binary64) (t : Text) : Prop :=
  ofText? t = some x ∧ (x.isFinite = true → WithoutExponent t ∧
    ∀ u, WithoutExponent u → ofText? u = some x → (fromPoint t).length ≤ (fromPoint u).length)

theorem positional_of_pos {negative : Bool} {x : Significand} {hmax : x.exponent ≤ maxExponent}
    (hx : 0 < x.mantissa) : positional (.finite negative x hmax) =
      sign negative ++ layPositional (Text.ofNat (shortest x).1) (shortest x).2 [] := by
  rw [positional, if_neg hx.ne']

/-- **Every number is read back from its text without an exponent.** -/
theorem ofText?_positional (x : Binary64) : ofText? x.positional = some x := by
  cases x with
  | nan => rfl
  | infinite negative => cases negative <;> rfl
  | finite negative x hmax =>
    rcases Nat.eq_zero_or_pos x.mantissa with hx | hx
    · obtain rfl := Significand.eq_zero hx
      cases negative <;> rfl
    · obtain ⟨c, t, hcons, hc⟩ := exists_layPositional_eq_cons
        (fun _ => Text.isDigit_of_mem_ofNat) (Text.ofNat_ne_nil (shortest x).1) (shortest x).2 []
      have hread := readUnsigned_layPositional hmax hx negative
      rw [hcons] at hread
      rw [positional_of_pos hx, hcons, ofText?_number hc, hread]

theorem eq_minus_of_mem_sign {negative : Bool} {c : Char} (h : c ∈ sign negative) : c = '-' := by
  cases negative with
  | true => exact List.mem_singleton.1 h
  | false => cases h

theorem withoutExponent_sign (negative : Bool) : WithoutExponent (sign negative) :=
  fun _ hc => .inr (.inr (eq_minus_of_mem_sign hc))

theorem withoutExponent_positional {x : Binary64} (hx : x.isFinite = true) :
    WithoutExponent x.positional := by
  cases x with
  | nan => cases hx
  | infinite negative => cases hx
  | finite negative x hmax =>
    rcases Nat.eq_zero_or_pos x.mantissa with hx | hx
    · rw [positional, if_pos hx]
      exact List.forall_mem_append.2
        ⟨withoutExponent_sign negative, fun c hc => .inl (isDigit_of_mem_zero c hc)⟩
    · rw [positional_of_pos hx]
      refine List.forall_mem_append.2 ⟨withoutExponent_sign negative, fun c hc => ?_⟩
      rcases mem_layPositional (fun _ => Text.isDigit_of_mem_ofNat) hc with hc | hc | hc
      · exact .inl hc
      · exact .inr (.inl hc)
      · cases hc

/-! ## §D Places behind the point -/

theorem fromPoint_append {w : Text} (hw : ∀ c ∈ w, c ≠ '.') (t : Text) :
    fromPoint (w ++ t) = fromPoint t :=
  List.dropWhile_append_of_pos fun c hc => bne_iff_ne.2 (hw c hc)

theorem fromPoint_point (t : Text) : fromPoint ('.' :: t) = '.' :: t := rfl

theorem ne_point_of_isDigit {t : Text} (ht : ∀ c ∈ t, c.isDigit = true) : ∀ c ∈ t, c ≠ '.' :=
  fun c hc => Text.ne_of_class (ht c hc) (by decide)

theorem length_fromPoint_layPositional {ds : Text} (hds : ∀ c ∈ ds, c.isDigit = true) (power : ℤ) :
    (fromPoint (layPositional ds power [])).length =
      if 0 ≤ power then 0 else (-power).toNat + 1 := by
  rw [layPositional]
  split
  case isTrue =>
    rw [List.append_nil, ← List.append_nil (ds ++ _), fromPoint_append]
    · rfl
    · exact ne_point_of_isDigit (List.forall_mem_append.2 ⟨hds, fun _ => isDigit_of_mem_zeros⟩)
  case isFalse =>
    simp only
    split
    case isTrue hlt =>
      rw [fromPoint_append (ne_point_of_isDigit fun c hc => hds c (List.mem_of_mem_take hc)),
        fromPoint_point, List.length_cons, List.length_drop]
      omega
    case isFalse hge =>
      change ('.' :: (zeros ((-power).toNat - ds.length) ++ ds)).length = _
      rw [List.length_cons, List.length_append, zeros, List.length_replicate]
      omega

/-- The sign has no part in what stands from the point on. -/
theorem fromPoint_readSign (u : Text) : fromPoint (readSign u).2 = fromPoint u := by
  rw [readSign.eq_def]
  split <;> rfl

theorem mem_of_mem_readSign {u : Text} {c : Char} (h : c ∈ (readSign u).2) : c ∈ u := by
  rw [readSign.eq_def] at h
  split at h
  · exact List.mem_cons_of_mem _ h
  · exact List.mem_cons_of_mem _ h
  · exact h

theorem readExponent_withoutExponent {t : Text} (ht : WithoutExponent t) {e : ℤ}
    (h : readExponent t = some e) : t = [] ∧ e = 0 := by
  cases t with
  | nil => exact ⟨rfl, (Option.some.inj h).symm⟩
  | cons c t =>
    rw [readExponent, if_neg] at h
    · cases h
    · rintro (rfl | rfl)
      · exact absurd (ht 'e' List.mem_cons_self) (by decide)
      · exact absurd (ht 'E' List.mem_cons_self) (by decide)

theorem readFraction_spec {t fraction rest : Text} (h : readFraction t = (fraction, rest)) :
    fraction = [] ∧ rest = t ∨ t = '.' :: (fraction ++ rest) := by
  rw [readFraction.eq_def] at h
  split at h
  · obtain ⟨rfl, rfl⟩ := Prod.mk.inj h
    exact .inr (by rw [List.takeWhile_append_dropWhile])
  · obtain ⟨rfl, rfl⟩ := Prod.mk.inj h
    exact .inl ⟨rfl, rfl⟩

/-- A text without an exponent is read as digits with as many places as stand behind its point. -/
theorem readUnsigned_withoutExponent {u : Text} (hu : WithoutExponent u) {negative : Bool}
    {x : Binary64} (h : readUnsigned negative u = some x) :
    ∃ (digits width places : ℕ), ofDecimal negative digits width (-(places : ℤ)) = x ∧
      (places = 0 ∨ (fromPoint u).length = places + 1) := by
  have hsplit : u.takeWhile Char.isDigit ++ u.dropWhile Char.isDigit = u :=
    List.takeWhile_append_dropWhile
  have hwhole : ∀ c ∈ u.takeWhile Char.isDigit, c.isDigit = true :=
    List.all_eq_true.1 List.all_takeWhile
  rw [readUnsigned] at h
  generalize u.takeWhile Char.isDigit = whole at *
  generalize u.dropWhile Char.isDigit = t at *
  cases hfraction : readFraction t with
  | mk fraction rest =>
    simp only [hfraction] at h
    split at h
    · cases h
    · obtain ⟨e, he, hx⟩ := Option.map_eq_some_iff.1 h
      rw [← hsplit] at hu ⊢
      have ht : WithoutExponent t := (List.forall_mem_append.1 hu).2
      rcases readFraction_spec hfraction with ⟨rfl, rfl⟩ | rfl
      · obtain ⟨-, rfl⟩ := readExponent_withoutExponent ht he
        exact ⟨_, _, 0, hx, .inl rfl⟩
      · have hrest : WithoutExponent rest :=
          (List.forall_mem_append.1 (List.forall_mem_cons.1 ht).2).2
        obtain ⟨rfl, rfl⟩ := readExponent_withoutExponent hrest he
        rw [zero_sub] at hx
        refine ⟨_, _, fraction.length, hx, .inr ?_⟩
        rw [fromPoint_append (ne_point_of_isDigit hwhole), fromPoint_point, List.append_nil,
          List.length_cons]

/-- The same with a sign in front. -/
theorem ofText?_withoutExponent {u : Text} (hu : WithoutExponent u) {s : Bool} {x : Significand}
    {hmax : x.exponent ≤ maxExponent} (h : ofText? u = some (.finite s x hmax)) :
    ∃ (negative : Bool) (digits width places : ℕ),
      ofDecimal negative digits width (-(places : ℤ)) = .finite s x hmax ∧
        (places = 0 ∨ (fromPoint u).length = places + 1) := by
  rw [ofText?] at h
  simp only at h
  split at h
  · cases h
  · split at h
    · cases h
    · have hu' : WithoutExponent (readSign u).2 := fun c hc => hu c (mem_of_mem_readSign hc)
      obtain ⟨digits, width, places, hx, hplaces⟩ := readUnsigned_withoutExponent hu' h
      rw [fromPoint_readSign] at hplaces
      exact ⟨_, digits, width, places, hx, hplaces⟩

/-- **No text has fewer places.** Each text without an exponent that is read as a finite number has
at least the places of the text that is written for the number. -/
theorem length_fromPoint_positional_le {x : Binary64} (hx : x.isFinite = true) {u : Text}
    (hu : WithoutExponent u) (h : ofText? u = some x) :
    (fromPoint x.positional).length ≤ (fromPoint u).length := by
  cases x with
  | nan => cases hx
  | infinite negative => cases hx
  | finite negative x hmax =>
    have hsign : ∀ c ∈ sign negative, c ≠ '.' := by
      intro c hc
      rw [eq_minus_of_mem_sign hc]
      decide
    rcases Nat.eq_zero_or_pos x.mantissa with hx | hx
    · rw [positional, if_pos hx, fromPoint_append hsign]
      exact Nat.zero_le _
    · obtain ⟨s, digits, width, places, hread, hplaces⟩ := ofText?_withoutExponent hu h
      obtain ⟨hpos, hholds⟩ := holds_of_ofDecimal_eq hx hread
      have hle := le_shortest_of_holds hpos (by omega) hholds
      rw [positional_of_pos hx, fromPoint_append hsign,
        length_fromPoint_layPositional fun _ => Text.isDigit_of_mem_ofNat]
      split
      · exact Nat.zero_le _
      · omega

/-- **Numbers without an exponent.** -/
theorem isPositional_positional (x : Binary64) : x.IsPositional x.positional :=
  ⟨ofText?_positional x, fun hx =>
    ⟨withoutExponent_positional hx, fun _ => length_fromPoint_positional_le hx⟩⟩

end RtlLiterals.Binary64
