import RtlLiterals.Proofs.Number.Rounding

/-!
# RtlLiterals.Proofs.Number.Nearest -- what rounds to a number lies near it

A quotient lies in the interval of the number that it is rounded to, so the interval holds the
quotients that round to the number and no others. Where rounding makes a mantissa too long, half a
unit below `2 ^ 53` is a quarter of the next unit below `2 ^ 52`, where the interval is shorter.
-/

namespace RtlLiterals.Binary64

/-! ## §A Quotients -/

/-- A quotient is at most half away from what it rounds to, and less than half if that is odd. -/
theorem near_of_roundQuotient_eq {num den n : ℕ} (hden : 0 < den) (h : roundQuotient num den = n) :
    2 * (n * den) ≤ 2 * num + den ∧ 2 * num ≤ 2 * (n * den) + den ∧
      (n % 2 = 1 → 2 * (n * den) < 2 * num + den ∧ 2 * num < 2 * (n * den) + den) := by
  have hdiv : num / den * den + num % den = num := Nat.div_add_mod' num den
  have hmod : num % den < den := Nat.mod_lt num hden
  rw [roundQuotient] at h
  generalize num / den = q at *
  generalize num % den = r at *
  have hsucc : (q + 1) * den = q * den + den := Nat.succ_mul q den
  split at h
  · subst h
    omega
  · split at h
    · subst h
      omega
    · split at h
      · subst h
        omega
      · subst h
        omega

/-- The same for a quotient that is scaled by a power of two. -/
theorem near_of_roundScaled_eq {num den n : ℕ} (hden : 0 < den) {e : ℤ}
    (h : roundScaled num den (-e) = n) :
    ((n : ℚ) - 1 / 2) * 2 ^ e ≤ num / den ∧ (num / den : ℚ) ≤ (n + 1 / 2) * 2 ^ e ∧
      (n % 2 = 1 →
        ((n : ℚ) - 1 / 2) * 2 ^ e < num / den ∧ (num / den : ℚ) < (n + 1 / 2) * 2 ^ e) := by
  have hden' : (0 : ℚ) < den := Nat.cast_pos.2 hden
  have hscale : (0 : ℚ) < twoTo (-e).toNat := Nat.cast_pos.2 (twoTo_pos _)
  have hpower : (2 : ℚ) ^ e = twoTo e.toNat / twoTo (-e).toNat := by
    rw [zpow_eq_div, cast_twoTo, cast_twoTo]
  have hunit : 0 < den * twoTo e.toNat := Nat.mul_pos hden (twoTo_pos _)
  rw [roundScaled, neg_neg] at h
  obtain ⟨hlow, hhigh, hodd⟩ := near_of_roundQuotient_eq hunit h
  rw [hpower]
  generalize twoTo e.toNat = p at *
  generalize twoTo (-e).toNat = q at *
  qify at hlow hhigh
  rw [← mul_div_assoc, ← mul_div_assoc, div_le_div_iff₀ hscale hden', div_le_div_iff₀ hden' hscale,
    div_lt_div_iff₀ hscale hden', div_lt_div_iff₀ hden' hscale]
  refine ⟨by linarith, by linarith, fun h => ?_⟩
  obtain ⟨hlow, hhigh⟩ := hodd h
  qify at hlow hhigh
  constructor <;> linarith

/-! ## §B Intervals -/

namespace Interval.Holds

variable {m : ℕ} {e : ℤ} {v : ℚ}

theorem cast_low (hm : 0 < m) (h : ¬ (m = twoTo 52 ∧ minExponent < e)) :
    ((ofMantissa m e).low : ℚ) = 4 * (m - 1 / 2) := by
  rw [ofMantissa, if_neg h, Nat.cast_sub (by omega)]
  push_cast
  ring

/-- What lies within half a unit of a mantissa is in its interval, if it is not too far below a
power of two. -/
theorem of_near (hm : 0 < m) (hlow : ((m : ℚ) - 1 / 2) * 2 ^ e ≤ v)
    (hhigh : v ≤ (m + 1 / 2) * 2 ^ e)
    (hodd : m % 2 = 1 → ((m : ℚ) - 1 / 2) * 2 ^ e < v ∧ v < (m + 1 / 2) * 2 ^ e)
    (hbelow : m = twoTo 52 → minExponent < e → ((twoTo 52 : ℚ) - 1 / 4) * 2 ^ e ≤ v) :
    (ofMantissa m e).Holds e v := by
  rw [Holds, cast_high]
  by_cases hshort : m = twoTo 52 ∧ minExponent < e
  · obtain ⟨rfl, he⟩ := hshort
    have hle := hbelow rfl he
    rw [cast_low_below he, if_pos (show (ofMantissa (twoTo 52) e).closed = true from rfl)]
    constructor <;> linarith
  · rw [cast_low hm hshort]
    split
    case isTrue => constructor <;> linarith
    case isFalse hopen =>
      obtain ⟨hlt, hgt⟩ := hodd (by simpa [ofMantissa] using hopen)
      constructor <;> linarith

/-- A mantissa that became too long is halved, and its units are twice as large. -/
theorem of_carry (hlow : ((twoTo 53 : ℚ) - 1 / 2) * 2 ^ e ≤ v) (hhigh : v < twoTo 53 * 2 ^ e) :
    (ofMantissa (twoTo 52) (e + 1)).Holds (e + 1) v := by
  have hcast : (twoTo 53 : ℚ) = 2 * twoTo 52 := by
    rw [cast_twoTo, cast_twoTo]
    norm_num
  have hdouble : (2 : ℚ) ^ (e + 1) = 2 ^ e * 2 := zpow_add_one₀ two_ne_zero e
  have hunit : (0 : ℚ) < 2 ^ e := by positivity
  rw [hcast] at hlow hhigh
  refine of_near (twoTo_pos 52) ?_ ?_ (fun hodd => absurd hodd (by decide)) fun _ _ => ?_
  · rw [hdouble]
    linarith
  · rw [hdouble]
    linarith
  · rw [hdouble]
    linarith

end Interval.Holds

/-! ## §C Numbers -/

/-- A quotient lies in the interval of the significand that it rounds to. -/
theorem Significand.holds_of_ofQuotient_eq {x : Significand} {num den : ℕ} (hnum : num ≠ 0)
    (hden : 0 < den) (hx : 0 < x.mantissa) (h : ofQuotient num den hnum hden = x) :
    (Interval.ofMantissa x.mantissa x.exponent).Holds x.exponent (num / den) := by
  obtain ⟨g, hg, hlow, hhigh⟩ := exists_exponentFor_zpow hnum hden
  have hround : roundScaled num den (-exponentFor num den) = _ := rfl
  obtain ⟨hnear, hnear', hodd⟩ := near_of_roundScaled_eq hden hround
  rw [ofQuotient] at h
  split at h
  case isTrue hcarry =>
    subst h
    rw [hcarry] at hnear
    have htop : (2 : ℚ) ^ (53 + g) ≤ 2 ^ (((53 : ℕ) : ℤ) + exponentFor num den) :=
      zpow_le_zpow_right₀ one_le_two (by push_cast; omega)
    rw [two_zpow_add] at htop
    exact Interval.Holds.of_carry hnear (hhigh.trans_le htop)
  case isFalse =>
    subst h
    refine Interval.Holds.of_near hx hnear hnear' hodd fun _ hmin => ?_
    -- Above the least exponent the quotient reaches `2 ^ 52` units.
    have hreach : (2 : ℚ) ^ (((52 : ℕ) : ℤ) + exponentFor num den) ≤ num / den := by
      have hmin' : minExponent < exponentFor num den := hmin
      have heq : exponentFor num den = g := by omega
      rw [heq]
      exact hlow
    have hunit : (0 : ℚ) < 2 ^ exponentFor num den := by positivity
    rw [two_zpow_add] at hreach
    linarith

section

variable {negative s : Bool} {x : Significand} {hmax : x.exponent ≤ maxExponent}
  (hx : 0 < x.mantissa)
include hx

theorem zero_ne_finite : zero negative ≠ .finite s x hmax := by
  intro h
  obtain rfl := (Binary64.finite.inj h).2
  exact absurd hx (by decide)

/-- A quotient lies in the interval of the number that it rounds to. -/
theorem holds_of_ofQuotient_eq {num den : ℕ} (hden : 0 < den)
    (h : ofQuotient negative num den hden = .finite s x hmax) :
    0 < num ∧ (Interval.ofMantissa x.mantissa x.exponent).Holds x.exponent (num / den) := by
  rw [ofQuotient] at h
  split at h
  case isTrue => exact absurd h (zero_ne_finite hx)
  case isFalse hnum =>
    simp only at h
    split at h
    · exact ⟨Nat.pos_of_ne_zero hnum,
        Significand.holds_of_ofQuotient_eq hnum hden hx (Binary64.finite.inj h).2⟩
    · cases h

/-- **What is read as a number lies near it.** The decimal lies in the interval of the number. -/
theorem holds_of_ofDecimal_eq {digits width : ℕ} {power : ℤ}
    (h : ofDecimal negative digits width power = .finite s x hmax) :
    0 < digits ∧
      (Interval.ofMantissa x.mantissa x.exponent).Holds x.exponent (digits * 10 ^ power) := by
  rw [ofDecimal] at h
  split at h
  · exact absurd h (zero_ne_finite hx)
  · split at h
    · cases h
    · split at h
      · exact absurd h (zero_ne_finite hx)
      · obtain ⟨hpos, hholds⟩ := holds_of_ofQuotient_eq hx (tenTo_pos _) h
        rw [cast_decimal] at hholds
        exact ⟨Nat.pos_of_mul_pos_right hpos, hholds⟩

end

end RtlLiterals.Binary64
