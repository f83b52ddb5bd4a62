import Mathlib.Algebra.Order.Field.Power
import Mathlib.Data.Rat.Cast.Order
import Mathlib.Tactic.NormNum
import RtlLiterals.Number.Reading
import RtlLiterals.Number.Shortest
import RtlLiterals.Proofs.Text.Decimal

/-!
# RtlLiterals.Proofs.Number.Layout -- decimals are read back from their texts

Where the point stands and whether there is an exponent makes no difference to the decimal that is
read: it has the digits that were written, and the power of ten that goes with their places
(`readsDecimal_layScientific`).
-/

namespace RtlLiterals

namespace Binary64

/-! ## §A Reading -/

/-- **`ReadsDecimal t v`** -- the text without a sign is read as a decimal with the value. -/
def ReadsDecimal (t : Text) (v : ℚ) : Prop :=
  ∃ (digits width : ℕ) (power : ℤ), digits < 10 ^ width ∧ (digits : ℚ) * 10 ^ power = v ∧
    ∀ negative, readUnsigned negative t = some (ofDecimal negative digits width power)

/-- No digit stands at the head of the text. -/
def EndsDigits (t : Text) : Prop := ∀ c ∈ t.head?, c.isDigit = false

theorem takeWhile_digits {t u : Text} (ht : ∀ c ∈ t, c.isDigit = true) (hu : EndsDigits u) :
    (t ++ u).takeWhile Char.isDigit = t ∧ (t ++ u).dropWhile Char.isDigit = u := by
  rw [List.takeWhile_append_of_pos ht, List.dropWhile_append_of_pos ht]
  cases u with
  | nil => simp
  | cons c u =>
    have hc := hu c rfl
    simp [hc]

/-- Digits with a point among them. -/
theorem readsDecimal_point {whole fraction x : Text} (hne : whole ≠ [])
    (hwhole : ∀ c ∈ whole, c.isDigit = true) (hfraction : ∀ c ∈ fraction, c.isDigit = true)
    (hx : EndsDigits x) {e : ℤ} (he : readExponent x = some e) :
    ReadsDecimal (whole ++ '.' :: (fraction ++ x))
      (Nat.ofDigitChars 10 (whole ++ fraction) 0 * 10 ^ (e - fraction.length)) := by
  obtain ⟨htake, hdrop⟩ :=
    takeWhile_digits hwhole (u := '.' :: (fraction ++ x)) (by simp [EndsDigits])
  obtain ⟨htake', hdrop'⟩ := takeWhile_digits hfraction hx
  refine ⟨Nat.ofDigitChars 10 (whole ++ fraction) 0, whole.length + fraction.length,
    e - fraction.length, ?_, rfl, fun negative => ?_⟩
  · rw [← List.length_append]
    exact Text.ofDigitChars_lt (List.forall_mem_append.2 ⟨hwhole, hfraction⟩)
  · simp [readUnsigned, htake, hdrop, readFraction, htake', hdrop', hne, he]

/-- Digits without a point. -/
theorem readsDecimal_whole {whole x : Text} (hne : whole ≠ [])
    (hwhole : ∀ c ∈ whole, c.isDigit = true) (hx : EndsDigits x) (hpoint : x.head? ≠ some '.')
    {e : ℤ} (he : readExponent x = some e) :
    ReadsDecimal (whole ++ x) (Nat.ofDigitChars 10 whole 0 * 10 ^ e) := by
  obtain ⟨htake, hdrop⟩ := takeWhile_digits hwhole hx
  refine ⟨Nat.ofDigitChars 10 whole 0, whole.length, e, Text.ofDigitChars_lt hwhole, rfl,
    fun negative => ?_⟩
  have hfraction : readFraction x = ([], x) := by
    cases x with
    | nil => rfl
    | cons c x =>
      have hc : c ≠ '.' := by simpa using hpoint
      rw [readFraction.eq_def]
      split
      · simp_all
      · rfl
  simp [readUnsigned, htake, hdrop, hfraction, hne, he]

/-! ## §B Writing -/

theorem readExponent_nil : readExponent [] = some 0 := rfl

theorem readSign_of_isDigit {c : Char} (hc : c.isDigit = true) (t : Text) :
    readSign (c :: t) = (false, c :: t) := by
  have hminus : c ≠ '-' := Text.ne_of_class hc (by decide)
  have hplus : c ≠ '+' := Text.ne_of_class hc (by decide)
  rw [readSign.eq_def]
  split
  · simp_all
  · simp_all
  · rfl

theorem readExponent_signedText (n : ℤ) : readExponent ('e' :: signedText n) = some n := by
  have hne := Text.ofNat_ne_nil n.natAbs
  have hall : (Text.ofNat n.natAbs).all Char.isDigit = true :=
    List.all_eq_true.2 fun _ => Text.isDigit_of_mem_ofNat
  have hvalue := Text.ofDigitChars_ofNat n.natAbs
  rw [readExponent, if_pos (.inl rfl), signedText]
  generalize Text.ofNat n.natAbs = ds at *
  by_cases hn : n < 0
  · rw [if_pos hn, readSign]
    simp only [hne, hall, hvalue, ne_eq, not_false_eq_true, and_self, if_true]
    congr 1
    omega
  · obtain ⟨c, t, rfl⟩ := List.exists_cons_of_ne_nil hne
    rw [List.all_cons, Bool.and_eq_true] at hall
    rw [if_neg hn, readSign_of_isDigit hall.1]
    simp only [hne, hall, hvalue, List.all_cons, Bool.and_self, ne_eq, not_false_eq_true, and_self,
      if_true, Bool.false_eq_true, if_false]
    congr 1
    omega

theorem endsDigits_e (t : Text) : EndsDigits ('e' :: t) := by
  simp [EndsDigits]

theorem isDigit_of_mem_zeros {n : ℕ} {c : Char} (h : c ∈ zeros n) : c.isDigit = true := by
  rw [List.eq_of_mem_replicate h]
  rfl

theorem isDigit_of_mem_zero : ∀ c ∈ ['0'], c.isDigit = true := by
  intro c hc
  obtain rfl := List.mem_singleton.1 hc
  rfl

theorem ofDigitChars_zeros (n : ℕ) : Nat.ofDigitChars 10 (zeros n) 0 = 0 := by
  rw [zeros, Nat.ofDigitChars_replicate_zero, Nat.mul_zero]

/-- A number below one gets zeros behind its point. -/
theorem readsDecimal_leadingZeros {ds : Text} (hds : ∀ c ∈ ds, c.isDigit = true) (n : ℕ) :
    ReadsDecimal ('0' :: '.' :: zeros n ++ ds)
      (Nat.ofDigitChars 10 ds 0 * 10 ^ (-((n + ds.length : ℕ) : ℤ))) := by
  have hall : ∀ c ∈ zeros n ++ ds, c.isDigit = true :=
    List.forall_mem_append.2 ⟨fun _ => isDigit_of_mem_zeros, hds⟩
  have hdigits :
      Nat.ofDigitChars 10 (['0'] ++ (zeros n ++ ds)) 0 = Nat.ofDigitChars 10 ds 0 := by
    rw [Text.ofDigitChars_append, Text.ofDigitChars_append, ofDigitChars_zeros]
    simp [Nat.ofDigitChars]
  have hread := readsDecimal_point (x := []) (List.cons_ne_nil '0' []) isDigit_of_mem_zero hall
    nofun readExponent_nil
  rw [hdigits, List.append_nil, List.length_append, zeros, List.length_replicate, zero_sub] at hread
  exact hread

section

variable {ds : Text} (hne : ds ≠ []) (hds : ∀ c ∈ ds, c.isDigit = true)
include hne hds

/-- A whole number gets zeros up to its point, and nothing or one more behind it. -/
theorem readsDecimal_zeros (n : ℕ) {w : Text} (hw : w = [] ∨ w = Text.ofString ".0") :
    ReadsDecimal (ds ++ zeros n ++ w) (Nat.ofDigitChars 10 ds 0 * 10 ^ (n : ℤ)) := by
  have hwhole : ds ++ zeros n ≠ [] := List.append_ne_nil_of_left_ne_nil hne _
  have hall : ∀ c ∈ ds ++ zeros n, c.isDigit = true :=
    List.forall_mem_append.2 ⟨hds, fun _ => isDigit_of_mem_zeros⟩
  have hdigits : Nat.ofDigitChars 10 (ds ++ zeros n) 0 = Nat.ofDigitChars 10 ds 0 * 10 ^ n := by
    rw [Text.ofDigitChars_append, ofDigitChars_zeros, zeros, List.length_replicate, Nat.add_zero]
  rcases hw with rfl | rfl
  · have hread := readsDecimal_whole (x := []) hwhole hall nofun nofun readExponent_nil
    rw [hdigits] at hread
    simpa using hread
  · have hread := readsDecimal_point (x := []) hwhole hall isDigit_of_mem_zero nofun
      readExponent_nil
    have hvalue : ((Nat.ofDigitChars 10 (ds ++ zeros n ++ ['0']) 0 : ℕ) : ℚ) *
        10 ^ (0 - ((['0'] : Text).length : ℤ)) = Nat.ofDigitChars 10 ds 0 * 10 ^ (n : ℤ) := by
      rw [Text.ofDigitChars_append, hdigits, List.length_singleton, zpow_natCast]
      norm_num [Nat.ofDigitChars, mul_assoc]
    rwa [hvalue] at hread

/-- A point within the digits. -/
theorem readsDecimal_within {n : ℕ} (hn : n < ds.length) :
    ReadsDecimal (ds.take (ds.length - n) ++ '.' :: ds.drop (ds.length - n))
      (Nat.ofDigitChars 10 ds 0 * 10 ^ (-(n : ℤ))) := by
  have hwhole : ds.take (ds.length - n) ≠ [] := by
    simp [hne]
    omega
  have hread := readsDecimal_point (x := []) hwhole (fun c hc => hds c (List.mem_of_mem_take hc))
    (fun c hc => hds c (List.mem_of_mem_drop (i := ds.length - n) hc)) nofun readExponent_nil
  rw [List.take_append_drop, List.append_nil, List.length_drop, zero_sub] at hread
  rwa [Nat.sub_sub_self hn.le] at hread

theorem readsDecimal_layPositional (power : ℤ) {w : Text} (hw : w = [] ∨ w = Text.ofString ".0") :
    ReadsDecimal (layPositional ds power w) (Nat.ofDigitChars 10 ds 0 * 10 ^ power) := by
  rw [layPositional]
  split
  case isTrue hpower =>
    obtain ⟨n, rfl⟩ := Int.eq_ofNat_of_zero_le hpower
    exact readsDecimal_zeros hne hds n hw
  case isFalse hpower =>
    obtain ⟨n, hn⟩ := Int.eq_ofNat_of_zero_le (by omega : 0 ≤ -power)
    obtain rfl : power = -(n : ℤ) := by omega
    rw [neg_neg, Int.toNat_natCast]
    simp only
    split
    case isTrue hlt => exact readsDecimal_within hne hds hlt
    case isFalse hge =>
      have hread := readsDecimal_leadingZeros hds (n - ds.length)
      rwa [Nat.sub_add_cancel (not_lt.1 hge)] at hread

/-- One digit before the point, and an exponent. -/
theorem readsDecimal_exponent (power : ℤ) :
    ReadsDecimal (ds.take 1 ++ (if ds.length = 1 then [] else '.' :: ds.drop 1) ++
      'e' :: signedText (power + ds.length - 1)) (Nat.ofDigitChars 10 ds 0 * 10 ^ power) := by
  have hends := endsDigits_e (signedText (power + ds.length - 1))
  have hexponent := readExponent_signedText (power + ds.length - 1)
  split
  case isTrue hlength =>
    have htake : ds.take 1 = ds := List.take_of_length_le hlength.le
    have hread := readsDecimal_whole hne hds hends (by simp) hexponent
    rw [hlength] at hread ⊢
    rw [htake, List.append_nil]
    simpa using hread
  case isFalse hlength =>
    have hwhole : ds.take 1 ≠ [] := by simp [hne]
    have hread := readsDecimal_point hwhole (fun c hc => hds c (List.mem_of_mem_take hc))
      (fun c hc => hds c (List.mem_of_mem_drop (i := 1) hc)) hends hexponent
    have hpositive := List.length_pos_iff.2 hne
    have hpower : power + ds.length - 1 - ((ds.drop 1).length : ℤ) = power := by
      rw [List.length_drop]
      omega
    rw [List.take_append_drop, hpower] at hread
    rw [List.append_assoc, List.cons_append]
    exact hread

/-- **A decimal is read back.** -/
theorem readsDecimal_layScientific (power : ℤ) :
    ReadsDecimal (layScientific ds power) (Nat.ofDigitChars 10 ds 0 * 10 ^ power) := by
  rw [layScientific]
  split
  · exact readsDecimal_layPositional hne hds power (.inr rfl)
  · exact readsDecimal_exponent hne hds power

end

/-! ## §C Characters -/

/-- The character may stand in a number: a digit, a point, a sign or the mark of an exponent. -/
def isNumberChar (c : Char) : Bool :=
  c.isDigit || c == '-' || c == '+' || c == '.' || c == 'e' || c == 'E'

theorem isNumberChar_of_isDigit {c : Char} (h : c.isDigit = true) : isNumberChar c = true := by
  simp [isNumberChar, h]

theorem isNumberChar_of_mem_signedText {n : ℤ} {c : Char} (h : c ∈ signedText n) :
    isNumberChar c = true := by
  rw [signedText] at h
  split at h
  · rcases List.mem_cons.1 h with rfl | h
    · rfl
    · exact isNumberChar_of_isDigit (Text.isDigit_of_mem_ofNat h)
  · exact isNumberChar_of_isDigit (Text.isDigit_of_mem_ofNat h)

section

variable {ds : Text} (hds : ∀ c ∈ ds, c.isDigit = true)
include hds

/-- Without an exponent there are digits and a point, and what is appended to whole numbers. -/
theorem mem_layPositional {power : ℤ} {w : Text} {c : Char} (h : c ∈ layPositional ds power w) :
    c.isDigit = true ∨ c = '.' ∨ c ∈ w := by
  rw [layPositional] at h
  split at h
  · rcases List.mem_append.1 h with h | h
    · rcases List.mem_append.1 h with h | h
      · exact .inl (hds c h)
      · exact .inl (isDigit_of_mem_zeros h)
    · exact .inr (.inr h)
  · simp only at h
    split at h
    · rcases List.mem_append.1 h with h | h
      · exact .inl (hds c (List.mem_of_mem_take h))
      · rcases List.mem_cons.1 h with rfl | h
        · exact .inr (.inl rfl)
        · exact .inl (hds c (List.mem_of_mem_drop h))
    · simp only [List.cons_append, List.mem_cons, List.mem_append] at h
      rcases h with rfl | rfl | h | h
      · exact .inl rfl
      · exact .inr (.inl rfl)
      · exact .inl (isDigit_of_mem_zeros h)
      · exact .inl (hds c h)

theorem isNumberChar_of_mem_layPositional {power : ℤ} {c : Char}
    (h : c ∈ layPositional ds power (Text.ofString ".0")) : isNumberChar c = true := by
  rcases mem_layPositional hds h with h | rfl | h
  · exact isNumberChar_of_isDigit h
  · rfl
  · have hall : (Text.ofString ".0").all isNumberChar = true := rfl
    exact List.all_eq_true.1 hall c h

theorem isNumberChar_of_mem_layScientific {power : ℤ} {c : Char}
    (h : c ∈ layScientific ds power) : isNumberChar c = true := by
  have hdigit {c : Char} (h : c ∈ ds) : isNumberChar c = true := isNumberChar_of_isDigit (hds c h)
  rw [layScientific] at h
  split at h
  · exact isNumberChar_of_mem_layPositional hds h
  · rcases List.mem_append.1 h with h | h
    · rcases List.mem_append.1 h with h | h
      · exact hdigit (List.mem_of_mem_take h)
      · split at h
        · cases h
        · rcases List.mem_cons.1 h with rfl | h
          · rfl
          · exact hdigit (List.mem_of_mem_drop h)
    · rcases List.mem_cons.1 h with rfl | h
      · rfl
      · exact isNumberChar_of_mem_signedText h

/-- A number starts with a digit. -/
theorem exists_layPositional_eq_cons (hne : ds ≠ []) (power : ℤ) (w : Text) :
    ∃ c t, layPositional ds power w = c :: t ∧ c.isDigit = true := by
  obtain ⟨c, u, rfl⟩ := List.exists_cons_of_ne_nil hne
  have hc := hds c (List.mem_cons_self ..)
  rw [layPositional]
  split
  · exact ⟨c, _, rfl, hc⟩
  · simp only
    split
    case isTrue hlt =>
      obtain ⟨n, hn⟩ : ∃ n, (c :: u).length - (-power).toNat = n + 1 :=
        ⟨(c :: u).length - (-power).toNat - 1, by omega⟩
      rw [hn]
      exact ⟨c, _, rfl, hc⟩
    case isFalse => exact ⟨'0', _, rfl, rfl⟩

theorem exists_layScientific_eq_cons (hne : ds ≠ []) (power : ℤ) :
    ∃ c t, layScientific ds power = c :: t ∧ c.isDigit = true := by
  rw [layScientific]
  split
  · exact exists_layPositional_eq_cons hds hne power _
  · obtain ⟨c, u, rfl⟩ := List.exists_cons_of_ne_nil hne
    exact ⟨c, _, rfl, hds c (List.mem_cons_self ..)⟩

end

end Binary64

end RtlLiterals
