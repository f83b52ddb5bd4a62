import Mathlib.Algebra.Order.Field.Power
import Mathlib.Data.Rat.Cast.Order
import Mathlib.Tactic.FieldSimp
import Mathlib.Tactic.Linarith
import Mathlib.Tactic.NormNum
import Mathlib.Tactic.Positivity
import Mathlib.Tactic.Qify
import Mathlib.Tactic.Ring
import RtlLiterals.Number.Shortest

/-!
# RtlLiterals.Proofs.Number.Rounding -- what lies near a number rounds to it

Rounding is done in `Nat`, with powers of two on the side where their exponent is not negative. Here
it is put into rational numbers, where it says what it is meant to: the interval of a number, half
a unit to both sides and less below a power of two, holds only quotients that round to the number
(`ofQuotient_eq`).
-/

namespace RtlLiterals.Binary64

/-! ## §A Powers -/

theorem zpow_eq_div (x : ℚ) (n : ℤ) : x ^ n = x ^ n.toNat / x ^ (-n).toNat := by
  rcases le_total 0 n with h | h
  · obtain ⟨k, rfl⟩ := Int.eq_ofNat_of_zero_le h
    simp
  · obtain ⟨k, hk⟩ := Int.eq_ofNat_of_zero_le (Int.neg_nonneg.2 h)
    obtain rfl : n = -(k : ℤ) := by omega
    simp

theorem cast_twoTo (n : ℕ) : (twoTo n : ℚ) = 2 ^ n := by
  rw [twoTo, Nat.pow_eq, Nat.cast_pow, Nat.cast_ofNat]

theorem cast_tenTo (n : ℕ) : (tenTo n : ℚ) = 10 ^ n := by
  rw [tenTo, Nat.pow_eq, Nat.cast_pow, Nat.cast_ofNat]

/-! ## §B Quotients -/

/-- **Rounding a quotient.** What is at most half away from a natural number rounds to it; half of a
unit is too much for an odd one. -/
theorem roundQuotient_eq {num den n : ℕ} (hden : 0 < den) (hlow : 2 * (n * den) ≤ 2 * num + den)
    (hhigh : 2 * num ≤ 2 * (n * den) + den)
    (hodd : n % 2 = 1 → 2 * (n * den) < 2 * num + den ∧ 2 * num < 2 * (n * den) + den) :
    roundQuotient num den = n := by
  have hdiv : num / den * den + num % den = num := Nat.div_add_mod' num den
  have hmod : num % den < den := Nat.mod_lt num hden
  rw [roundQuotient]
  generalize num / den = q at *
  generalize num % den = r at *
  have hle : n ≤ q + 1 := by
    by_contra hn
    have hmul := Nat.mul_le_mul_right den (by omega : q + 2 ≤ n)
    rw [Nat.add_mul] at hmul
    omega
  have hge : q ≤ n := by
    by_contra hn
    have hmul := Nat.mul_le_mul_right den (by omega : n + 1 ≤ q)
    rw [Nat.succ_mul] at hmul
    omega
  obtain rfl | rfl : n = q ∨ n = q + 1 := by omega
  · split
    · rfl
    · split
      · omega
      · split
        · rfl
        · have := hodd (by omega)
          omega
  · rw [Nat.add_one_mul q den] at hlow hhigh hodd
    split
    · omega
    · split
      · rfl
      · split
        · have := hodd (by omega)
          omega
        · rfl

/-- Rounding a quotient that is scaled by a power of two. -/
theorem roundScaled_eq {num den n : ℕ} (hden : 0 < den) {e : ℤ}
    (hlow : ((n : ℚ) - 1 / 2) * 2 ^ e ≤ num / den) (hhigh : (num / den : ℚ) ≤ (n + 1 / 2) * 2 ^ e)
    (hodd : n % 2 = 1 →
      ((n : ℚ) - 1 / 2) * 2 ^ e < num / den ∧ (num / den : ℚ) < (n + 1 / 2) * 2 ^ e) :
    roundScaled num den (-e) = n := by
  have hden' : (0 : ℚ) < den := Nat.cast_pos.2 hden
  have hscale : (0 : ℚ) < twoTo (-e).toNat := Nat.cast_pos.2 (twoTo_pos _)
  have hpower : (2 : ℚ) ^ e = twoTo e.toNat / twoTo (-e).toNat := by
    rw [zpow_eq_div, cast_twoTo, cast_twoTo]
  rw [hpower] at hlow hhigh hodd
  have hunit : 0 < twoTo e.toNat := twoTo_pos _
  rw [roundScaled, neg_neg]
  generalize twoTo e.toNat = p at *
  generalize twoTo (-e).toNat = q at *
  rw [← mul_div_assoc, div_le_div_iff₀ hscale hden'] at hlow
  rw [← mul_div_assoc, div_le_div_iff₀ hden' hscale] at hhigh
  rw [← mul_div_assoc, ← mul_div_assoc, div_lt_div_iff₀ hscale hden', div_lt_div_iff₀ hden' hscale]
    at hodd
  refine roundQuotient_eq (Nat.mul_pos hden hunit) ?_ ?_ fun h => ?_
  · qify
    linarith
  · qify
    linarith
  · obtain ⟨hlow, hhigh⟩ := hodd h
    qify
    constructor <;> linarith

/-! ## §C Exponents -/

/-- Naturals that are scaled by powers of two compare as their quotients do. -/
theorem scaled_le_scaled_iff (num : ℕ) {den : ℕ} (hden : 0 < den) (k : ℕ) (e : ℤ) :
    den * twoTo k * twoTo e.toNat ≤ num * twoTo (-e).toNat ↔
      (2 : ℚ) ^ ((k : ℤ) + e) ≤ num / den := by
  have hden' : (0 : ℚ) < den := Nat.cast_pos.2 hden
  rw [zpow_add₀ two_ne_zero, zpow_natCast, zpow_eq_div 2 e, ← mul_div_assoc,
    div_le_div_iff₀ (by positivity) hden', ← cast_twoTo, ← cast_twoTo, ← cast_twoTo]
  norm_cast
  rw [mul_comm (twoTo k * _), mul_assoc]

/-- The bounds of the exponent, as powers of two. -/
theorem exists_exponentFor_zpow {num den : ℕ} (hnum : num ≠ 0) (hden : 0 < den) :
    ∃ g, exponentFor num den = max minExponent g ∧ (2 : ℚ) ^ (52 + g) ≤ num / den ∧
      (num / den : ℚ) < 2 ^ (53 + g) := by
  obtain ⟨g, hg, hlow, hhigh⟩ := exists_exponentFor_eq hnum hden
  rw [twoTo_add, ← Nat.mul_assoc] at hlow hhigh
  exact ⟨g, hg, (scaled_le_scaled_iff num hden 52 g).1 hlow,
    not_le.1 (mt (scaled_le_scaled_iff num hden 53 g).2 (not_le.2 hhigh))⟩

/-- Between two powers of two the exponent is the one for which the mantissa has 53 bits. -/
theorem exponentFor_eq {num den : ℕ} (hnum : num ≠ 0) (hden : 0 < den) {e : ℤ}
    (he : minExponent ≤ e) (hlow : (2 : ℚ) ^ (52 + e) ≤ num / den)
    (hhigh : (num / den : ℚ) < 2 ^ (53 + e)) : exponentFor num den = e := by
  obtain ⟨g, hg, hlow', hhigh'⟩ := exists_exponentFor_zpow hnum hden
  have hle := (zpow_lt_zpow_iff_right₀ one_lt_two).1 (hlow.trans_lt hhigh')
  have hge := (zpow_lt_zpow_iff_right₀ one_lt_two).1 (hlow'.trans_lt hhigh)
  rw [hg]
  omega

/-- Small quotients have the least exponent. -/
theorem exponentFor_eq_min {num den : ℕ} (hnum : num ≠ 0) (hden : 0 < den)
    (hhigh : (num / den : ℚ) < 2 ^ (53 + minExponent)) : exponentFor num den = minExponent := by
  obtain ⟨g, hg, hlow', -⟩ := exists_exponentFor_zpow hnum hden
  have hge := (zpow_lt_zpow_iff_right₀ one_lt_two).1 (hlow'.trans_lt hhigh)
  rw [hg]
  omega

/-! ## §D The interval of a number -/

/-- **`i.Holds e v`** -- the value lies in the interval, which is given in quarters of `2 ^ e`. -/
def Interval.Holds (i : Interval) (e : ℤ) (v : ℚ) : Prop :=
  if i.closed then (i.low : ℚ) * 2 ^ e ≤ 4 * v ∧ 4 * v ≤ i.high * 2 ^ e
  else (i.low : ℚ) * 2 ^ e < 4 * v ∧ 4 * v < i.high * 2 ^ e

namespace Interval.Holds

variable {m : ℕ} {e : ℤ} {v : ℚ}

theorem le {i : Interval} (h : i.Holds e v) :
    (i.low : ℚ) * 2 ^ e ≤ 4 * v ∧ 4 * v ≤ i.high * 2 ^ e := by
  rw [Holds] at h
  split at h
  · exact h
  · exact ⟨h.1.le, h.2.le⟩

theorem lt_of_odd (h : (ofMantissa m e).Holds e v) (hodd : m % 2 = 1) :
    ((ofMantissa m e).low : ℚ) * 2 ^ e < 4 * v ∧ 4 * v < (ofMantissa m e).high * 2 ^ e := by
  rwa [Holds, if_neg (by simp [ofMantissa, hodd])] at h

theorem cast_high (m : ℕ) (e : ℤ) : ((ofMantissa m e).high : ℚ) = 4 * (m + 1 / 2) := by
  rw [ofMantissa]
  push_cast
  ring

theorem le_cast_low (m : ℕ) (e : ℤ) : 4 * ((m : ℚ) - 1 / 2) ≤ (ofMantissa m e).low := by
  have hlow : 4 * m ≤ (ofMantissa m e).low + 2 := by
    rw [ofMantissa]
    simp only
    split <;> omega
  have hcast : (4 * m : ℚ) ≤ (ofMantissa m e).low + 2 := by exact_mod_cast hlow
  linarith

/-- All of the interval is at most half a unit away. -/
theorem near (h : (ofMantissa m e).Holds e v) :
    ((m : ℚ) - 1 / 2) * 2 ^ e ≤ v ∧ v ≤ (m + 1 / 2) * 2 ^ e := by
  have hunit : (0 : ℚ) < 2 ^ e := by positivity
  have hlow := mul_le_mul_of_nonneg_right (le_cast_low m e) hunit.le
  obtain ⟨hle, hge⟩ := h.le
  rw [cast_high] at hge
  constructor <;> linarith

/-- The ends do not belong to the interval of an odd mantissa. -/
theorem near_of_odd (h : (ofMantissa m e).Holds e v) (hodd : m % 2 = 1) :
    ((m : ℚ) - 1 / 2) * 2 ^ e < v ∧ v < (m + 1 / 2) * 2 ^ e := by
  have hunit : (0 : ℚ) < 2 ^ e := by positivity
  have hlow := mul_le_mul_of_nonneg_right (le_cast_low m e) hunit.le
  obtain ⟨hlt, hgt⟩ := h.lt_of_odd hodd
  rw [cast_high] at hgt
  constructor <;> linarith

theorem cast_low_below (he : minExponent < e) :
    ((ofMantissa (twoTo 52) e).low : ℚ) = 4 * (twoTo 52 - 1 / 4) := by
  rw [ofMantissa, if_pos ⟨rfl, he⟩, cast_twoTo, twoTo]
  norm_num

/-- Below a power of two the interval is shorter. -/
theorem near_below (h : (ofMantissa (twoTo 52) e).Holds e v) (he : minExponent < e) :
    ((twoTo 52 : ℚ) - 1 / 4) * 2 ^ e ≤ v := by
  have hle := h.le.1
  rw [cast_low_below he] at hle
  linarith

end Interval.Holds

namespace Significand

variable {x : Significand} {num den : ℕ}

theorem ofQuotient_of_eq (hnum : num ≠ 0) (hden : 0 < den)
    (hexponent : exponentFor num den = x.exponent)
    (hmantissa : roundScaled num den (-x.exponent) = x.mantissa) :
    ofQuotient num den hnum hden = x := by
  rw [← hexponent] at hmantissa
  have hcarry : ¬ roundScaled num den (-exponentFor num den) = twoTo 53 :=
    hmantissa ▸ x.mantissa_lt.ne
  rw [ofQuotient]
  simp only [dif_neg hcarry]
  exact Significand.ext hmantissa hexponent

/-- The mantissa may become too long by rounding. -/
theorem ofQuotient_of_carry (hnum : num ≠ 0) (hden : 0 < den) {e : ℤ}
    (hexponent : exponentFor num den = e) (hmantissa : roundScaled num den (-e) = twoTo 53)
    (hm : x.mantissa = twoTo 52) (he : x.exponent = e + 1) :
    ofQuotient num den hnum hden = x := by
  rw [← hexponent] at hmantissa he
  rw [ofQuotient]
  simp only [dif_pos hmantissa]
  exact Significand.ext hm.symm he.symm

end Significand

theorem two_zpow_add (n : ℕ) (e : ℤ) : (2 : ℚ) ^ ((n : ℤ) + e) = twoTo n * 2 ^ e := by
  rw [zpow_add₀ two_ne_zero, zpow_natCast, cast_twoTo]

section

variable {x : Significand} {num den : ℕ}
  (h : (Interval.ofMantissa x.mantissa x.exponent).Holds x.exponent (num / den))
include h

/-- Below a power of two the mantissa is read with one bit more, and rounds up to it. -/
theorem Significand.ofQuotient_below (hnum : num ≠ 0) (hden : 0 < den)
    (hmin : minExponent < x.exponent)
    (hbelow : (num / den : ℚ) < 2 ^ (((52 : ℕ) : ℤ) + x.exponent)) :
    Significand.ofQuotient num den hnum hden = x := by
  have hbits : (1 : ℚ) ≤ twoTo 52 := by exact_mod_cast twoTo_pos 52
  rw [two_zpow_add] at hbelow
  have hm : x.mantissa = twoTo 52 := by
    refine le_antisymm ?_ (x.normal.resolve_right hmin.ne')
    have hlt := lt_of_mul_lt_mul_right (h.near.1.trans_lt hbelow) (by positivity)
    have hlt' : (x.mantissa : ℚ) < twoTo 52 + 1 := by linarith
    exact Nat.lt_succ_iff.1 (by exact_mod_cast hlt')
  rw [hm] at h
  have hnear := h.near_below hmin
  obtain ⟨f, hf⟩ : ∃ f, x.exponent = f + 1 := ⟨x.exponent - 1, by omega⟩
  have hunit : (0 : ℚ) < 2 ^ f := by positivity
  have hhalf := mul_le_mul_of_nonneg_right hbits hunit.le
  rw [hf, zpow_add_one₀ two_ne_zero] at hnear hbelow
  have hcast : (twoTo 53 : ℚ) = 2 * twoTo 52 := by
    rw [cast_twoTo, cast_twoTo]
    norm_num
  have hexponent : exponentFor num den = f := by
    refine exponentFor_eq hnum hden (by omega) ?_ ?_
    · exact (two_zpow_add 52 f).trans_le (by linarith)
    · refine lt_of_lt_of_eq ?_ (two_zpow_add 53 f).symm
      rw [hcast]
      linarith
  have hmantissa : roundScaled num den (-f) = twoTo 53 := by
    refine roundScaled_eq hden ?_ ?_ fun hodd => absurd hodd (by norm_num [twoTo])
    · rw [hcast]
      linarith
    · rw [hcast]
      linarith
  exact ofQuotient_of_carry hnum hden hexponent hmantissa hm hf

/-- **What lies in the interval of a significand rounds to it.** -/
theorem Significand.ofQuotient_eq (hnum : num ≠ 0) (hden : 0 < den) :
    Significand.ofQuotient num den hnum hden = x := by
  obtain ⟨hlow, hhigh⟩ := h.near
  have hbits : (x.mantissa : ℚ) + 1 ≤ twoTo 53 := by exact_mod_cast x.mantissa_lt
  have hfit : (num / den : ℚ) < 2 ^ (((53 : ℕ) : ℤ) + x.exponent) := by
    rw [two_zpow_add]
    exact hhigh.trans_lt (mul_lt_mul_of_pos_right (by linarith) (by positivity))
  by_cases hbelow : minExponent < x.exponent ∧ (num / den : ℚ) < 2 ^ (52 + x.exponent)
  · exact Significand.ofQuotient_below h hnum hden hbelow.1 hbelow.2
  · have hexponent : exponentFor num den = x.exponent := by
      rcases x.minExponent_le.eq_or_lt with hmin | hlt
      · rw [← hmin] at hfit ⊢
        exact exponentFor_eq_min hnum hden hfit
      · exact exponentFor_eq hnum hden hlt.le (not_lt.1 fun hlow => hbelow ⟨hlt, hlow⟩) hfit
    exact Significand.ofQuotient_of_eq hnum hden hexponent
      (roundScaled_eq hden hlow hhigh h.near_of_odd)

/-- **What lies in the interval of a number rounds to it.** -/
theorem ofQuotient_eq {negative : Bool} (hmax : x.exponent ≤ maxExponent) (hx : 0 < x.mantissa)
    (hden : 0 < den) : ofQuotient negative num den hden = .finite negative x hmax := by
  have hnum : num ≠ 0 := by
    rintro rfl
    have hone : (1 : ℚ) ≤ x.mantissa := by exact_mod_cast hx
    have hpos : 0 < ((x.mantissa : ℚ) - 1 / 2) * 2 ^ x.exponent :=
      mul_pos (by linarith) (by positivity)
    have hlow := h.near.1
    simp only [Nat.cast_zero, zero_div] at hlow
    linarith
  rw [ofQuotient, dif_neg hnum]
  simp only [Significand.ofQuotient_eq h hnum hden, dif_pos hmax]

end

/-! ## §E Decimals -/

/-- A decimal as the quotient that is rounded. -/
theorem cast_decimal (digits : ℕ) (power : ℤ) :
    ((digits * tenTo power.toNat : ℕ) : ℚ) / (tenTo (-power).toNat : ℕ) = digits * 10 ^ power := by
  rw [zpow_eq_div 10 power, Nat.cast_mul, cast_tenTo, cast_tenTo, mul_div_assoc]

theorem two_zpow_le_ten_zpow (n : ℕ) : (2 : ℚ) ^ (3 * (n : ℤ)) ≤ 10 ^ (n : ℤ) := by
  rw [zpow_mul, zpow_natCast, zpow_natCast]
  exact pow_le_pow_left₀ (by norm_num) (by norm_num) n

/-- The values of all numbers lie between two powers of ten. -/
theorem Interval.Holds.range {x : Significand} {v : ℚ}
    (h : (Interval.ofMantissa x.mantissa x.exponent).Holds x.exponent v)
    (hmax : x.exponent ≤ maxExponent) (hx : 0 < x.mantissa) :
    (10 : ℚ) ^ (-401 : ℤ) < v ∧ v < 10 ^ (401 : ℤ) := by
  obtain ⟨hlow, hhigh⟩ := h.near
  have hone : (1 : ℚ) ≤ x.mantissa := by exact_mod_cast hx
  have hbits : (x.mantissa : ℚ) + 1 ≤ twoTo 53 := by exact_mod_cast x.mantissa_lt
  have hunit : (2 : ℚ) ^ (-1074 : ℤ) ≤ 2 ^ x.exponent :=
    zpow_le_zpow_right₀ one_le_two x.minExponent_le
  have hunit' : (2 : ℚ) ^ x.exponent ≤ 2 ^ (971 : ℤ) := zpow_le_zpow_right₀ one_le_two hmax
  have hten : (2 : ℚ) ^ (3 * (401 : ℤ)) ≤ 10 ^ (401 : ℤ) := two_zpow_le_ten_zpow 401
  constructor
  · calc (10 : ℚ) ^ (-401 : ℤ) ≤ 2 ^ (-(3 * 401) : ℤ) := by
          rw [zpow_neg, zpow_neg]
          exact inv_anti₀ (by positivity) hten
      _ < 2 ^ (-1 + -1074 : ℤ) := zpow_lt_zpow_right₀ one_lt_two (by norm_num)
      _ = 1 / 2 * 2 ^ (-1074 : ℤ) := by rw [zpow_add₀ two_ne_zero, zpow_neg_one, one_div]
      _ ≤ ((x.mantissa : ℚ) - 1 / 2) * 2 ^ x.exponent :=
          mul_le_mul (by linarith) hunit (by positivity) (by linarith)
      _ ≤ v := hlow
  · calc v ≤ (x.mantissa + 1 / 2) * 2 ^ x.exponent := hhigh
      _ < twoTo 53 * 2 ^ (971 : ℤ) :=
          mul_lt_mul (by linarith) hunit' (zpow_pos two_pos _) (Nat.cast_nonneg _)
      _ = 2 ^ (((53 : ℕ) : ℤ) + 971) := (two_zpow_add 53 971).symm
      _ ≤ 2 ^ (3 * (401 : ℤ)) := zpow_le_zpow_right₀ one_le_two (by norm_num)
      _ ≤ 10 ^ (401 : ℤ) := hten

/-- **What lies in the interval of a number is read as the number.** The bounds at which powers of
ten are not computed are never reached. -/
theorem ofDecimal_eq {negative : Bool} {x : Significand} (hmax : x.exponent ≤ maxExponent)
    (hx : 0 < x.mantissa) {digits width : ℕ} {power : ℤ} (hwidth : digits < 10 ^ width)
    (h : (Interval.ofMantissa x.mantissa x.exponent).Holds x.exponent (digits * 10 ^ power)) :
    ofDecimal negative digits width power = .finite negative x hmax := by
  obtain ⟨hlow, hhigh⟩ := h.range hmax hx
  have hpos : (0 : ℚ) < 10 ^ power := by positivity
  have hdigits : digits ≠ 0 := by
    rintro rfl
    have : (0 : ℚ) < 10 ^ (-401 : ℤ) := by positivity
    simp only [Nat.cast_zero, zero_mul] at hlow
    linarith
  have hpower : ¬ (400 : ℤ) < power := by
    intro hpower
    have hone : (1 : ℚ) ≤ digits := by exact_mod_cast Nat.one_le_iff_ne_zero.2 hdigits
    have hten : (10 : ℚ) ^ (401 : ℤ) ≤ 10 ^ power := zpow_le_zpow_right₀ (by norm_num) hpower
    have hle := le_mul_of_one_le_left hpos.le hone
    linarith
  have hsmall : ¬ power + width < -400 := by
    intro hsmall
    have hlt : (digits : ℚ) * 10 ^ power < 10 ^ ((width : ℤ) + power) := by
      rw [zpow_add₀ (by norm_num), zpow_natCast]
      exact mul_lt_mul_of_pos_right (by exact_mod_cast hwidth) hpos
    have hten : (10 : ℚ) ^ ((width : ℤ) + power) ≤ 10 ^ (-401 : ℤ) :=
      zpow_le_zpow_right₀ (by norm_num) (by omega)
    linarith
  rw [ofDecimal, if_neg hdigits, if_neg hpower, if_neg hsmall]
  exact ofQuotient_eq (by rwa [cast_decimal]) hmax hx (tenTo_pos _)

end RtlLiterals.Binary64
