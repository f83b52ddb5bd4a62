import Mathlib.Algebra.Group.Nat.Defs
import RtlLiterals.Text.Basic

/-!
# RtlLiterals.Proofs.Text.Decimal -- natural numbers are read back from their digits

A number is written with decimal digits and nothing after them, so it ends where the next character
is no digit. Two texts that start with a number each and go on with such a character are equal only
if the numbers are, and what follows them.
-/

namespace RtlLiterals

namespace Text

/-- Characters differ if one of them belongs to a class and the other does not. -/
theorem ne_of_class {p : Char → Bool} {c d : Char} (hc : p c = true) (hd : p d = false) :
    c ≠ d := by
  rintro rfl
  rw [hc] at hd
  cases hd

theorem isDigit_of_mem_ofNat {n : Nat} {c : Char} (h : c ∈ ofNat n) : c.isDigit = true :=
  Nat.isDigit_of_mem_toDigits (by decide) (by decide) h

theorem ofNat_ne_nil (n : Nat) : ofNat n ≠ [] := Nat.toDigits_ne_nil

theorem ofDigitChars_ofNat (n : Nat) : Nat.ofDigitChars 10 (ofNat n) 0 = n :=
  Nat.ofDigitChars_ten_toDigits

theorem ofNat_injective {m n : Nat} (h : ofNat m = ofNat n) : m = n := by
  have hvalue := congrArg (Nat.ofDigitChars 10 · 0) h
  simpa only [ofDigitChars_ofNat] using hvalue

/-- Digits in front count for as many places more as there are digits behind them. -/
theorem ofDigitChars_append (t u : Text) :
    Nat.ofDigitChars 10 (t ++ u) 0 =
      Nat.ofDigitChars 10 t 0 * 10 ^ u.length + Nat.ofDigitChars 10 u 0 := by
  rw [Nat.ofDigitChars_append, Nat.ofDigitChars_eq_ofDigitChars_zero, Nat.mul_comm]

theorem ofDigitChars_lt {t : Text} (h : ∀ c ∈ t, c.isDigit = true) :
    Nat.ofDigitChars 10 t 0 < 10 ^ t.length := by
  induction t with
  | nil => decide
  | cons c t ih =>
    have hc : Nat.ofDigitChars 10 [c] 0 ≤ 9 := by
      have hdigit := h c List.mem_cons_self
      simp only [Char.isDigit, Bool.and_eq_true, decide_eq_true_eq, UInt32.le_iff_toNat_le] at hdigit
      have hnine : c.val.toNat ≤ 57 := hdigit.2
      change 10 * 0 + (c.val.toNat - 48) ≤ 9
      omega
    have hrest := ih fun d hd => h d (List.mem_cons_of_mem c hd)
    have hscaled := Nat.mul_le_mul_right (10 ^ t.length) hc
    rw [← List.singleton_append, ofDigitChars_append, List.length_append, Nat.pow_add,
      List.length_singleton, Nat.pow_one]
    omega

/-- The digits of a number are what comes before the first character that is no digit. -/
theorem takeWhile_ofNat_append (n : Nat) {c : Char} (hc : c.isDigit = false) (r : Text) :
    (ofNat n ++ c :: r).takeWhile Char.isDigit = ofNat n := by
  rw [List.takeWhile_append_of_pos fun _ => isDigit_of_mem_ofNat,
    List.takeWhile_cons_of_neg (by simp [hc]), List.append_nil]

/-- **A number at the head of a text.** It is read back from the text, if no digit follows it. -/
theorem ofNat_append_inj {m n : Nat} {c d : Char} {r s : Text} (hc : c.isDigit = false)
    (hd : d.isDigit = false) (h : ofNat m ++ c :: r = ofNat n ++ d :: s) :
    m = n ∧ c :: r = d :: s := by
  have hdigits : ofNat m = ofNat n := by
    rw [← takeWhile_ofNat_append m hc r, h, takeWhile_ofNat_append n hd s]
  rw [hdigits] at h
  exact ⟨ofNat_injective hdigits, List.append_cancel_left h⟩

end Text

end RtlLiterals
