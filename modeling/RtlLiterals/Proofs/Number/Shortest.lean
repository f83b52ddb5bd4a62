import Mathlib.Tactic.LinearCombination
import RtlLiterals.Proofs.Number.Rounding

/-!
# RtlLiterals.Proofs.Number.Shortest -- the shortest decimal in an interval

The grids of powers of ten are searched from coarse to fine. What is found on a grid lies in the
interval of the number, and if anything on a grid does, something is found there
(`exists_onGrid?_of_holds`): what lies between the number and a multiple in its interval is in the
interval too. A grid that is finer than half a unit always has something (`onGrid?_isSome`), and the
last grid is finer than that for every number. So the search ends on the coarsest grid that meets
the interval (`le_shortest_of_holds`).
-/

namespace RtlLiterals.Binary64

/-! ## §A Grids -/

/-- The scales of a grid are the two units, up to a common factor. -/
theorem gridScales_eq (e k : ℤ) :
    ∃ s : ℚ, 0 < s ∧ 4 * ((gridScales e k).1 : ℚ) = 2 ^ e * s ∧
      ((gridScales e k).2 : ℚ) = 10 ^ k * s := by
  refine ⟨twoTo (2 - e).toNat * tenTo (-k).toNat, ?_, ?_, ?_⟩
  · rw [cast_twoTo, cast_tenTo]
    positivity
  · have hunit : (2 : ℚ) ^ e = 4 * (2 ^ (e - 2).toNat / 2 ^ (2 - e).toNat) := by
      have hsplit := zpow_eq_div 2 (e - 2)
      rw [neg_sub] at hsplit
      rw [← hsplit, zpow_sub₀ two_ne_zero]
      norm_num
      ring
    rw [hunit, gridScales, Nat.cast_mul, cast_twoTo, cast_twoTo, cast_tenTo]
    field_simp
  · rw [zpow_eq_div 10 k, gridScales, Nat.cast_mul, cast_twoTo, cast_tenTo, cast_tenTo]
    field_simp

section

variable {i : Interval} {e k : ℤ} {c : ℕ}

/-- What is compared on a grid are the values. -/
theorem mul_gridScales_le_iff (x c : ℕ) (e k : ℤ) :
    (x * (gridScales e k).1 ≤ c * (gridScales e k).2 ↔ (x : ℚ) * 2 ^ e ≤ 4 * (c * 10 ^ k)) ∧
      (c * (gridScales e k).2 ≤ x * (gridScales e k).1 ↔ 4 * (c * 10 ^ k) ≤ (x : ℚ) * 2 ^ e) := by
  obtain ⟨s, hs, ha, hb⟩ := gridScales_eq e k
  have hx : 4 * ((x : ℚ) * (gridScales e k).1) = x * 2 ^ e * s := by linear_combination (x : ℚ) * ha
  have hc : 4 * ((c : ℚ) * (gridScales e k).2) = 4 * (c * 10 ^ k) * s := by
    linear_combination 4 * (c : ℚ) * hb
  constructor
  · rw [← mul_le_mul_iff_left₀ hs, ← hx, ← hc, mul_le_mul_iff_right₀ (by norm_num)]
    norm_cast
  · rw [← mul_le_mul_iff_left₀ hs, ← hx, ← hc, mul_le_mul_iff_right₀ (by norm_num)]
    norm_cast

/-- A multiple of the grid lies in the interval, as it is computed. -/
def Interval.meets (i : Interval) (e k : ℤ) (c : ℕ) : Bool :=
  0 < c && (if i.closed then
      i.low * (gridScales e k).1 ≤ c * (gridScales e k).2 &&
        c * (gridScales e k).2 ≤ i.high * (gridScales e k).1
    else
      i.low * (gridScales e k).1 < c * (gridScales e k).2 &&
        c * (gridScales e k).2 < i.high * (gridScales e k).1)

theorem Interval.meets_iff : i.meets e k c = true ↔ 0 < c ∧ i.Holds e (c * 10 ^ k) := by
  obtain ⟨hlow, hlow'⟩ := mul_gridScales_le_iff i.low c e k
  obtain ⟨hhigh, hhigh'⟩ := mul_gridScales_le_iff i.high c e k
  rw [meets, Bool.and_eq_true, decide_eq_true_eq, Holds]
  refine and_congr_right fun _ => ?_
  by_cases hclosed : i.closed = true
  · rw [if_pos hclosed, if_pos hclosed, Bool.and_eq_true, decide_eq_true_eq, decide_eq_true_eq]
    exact and_congr hlow hhigh'
  · rw [if_neg hclosed, if_neg hclosed, Bool.and_eq_true, decide_eq_true_eq, decide_eq_true_eq]
    exact and_congr (lt_iff_lt_of_le_iff_le hlow') (lt_iff_lt_of_le_iff_le hhigh)

theorem meets_of_onGrid? (h : onGrid? i e k = some c) : i.meets e k c = true := by
  simp only [onGrid?] at h
  split at h
  case h_1 hc hc' =>
    split at h
    · cases h
      exact hc
    · cases h
      exact hc'
  case h_2 hc hc' =>
    cases h
    exact hc
  case h_3 hc hc' =>
    cases h
    exact hc'
  case h_4 => cases h

/-- One of the two multiples next to the number is taken, if it lies in the interval. -/
theorem exists_onGrid?_of_next
    (h : i.meets e k (i.mid * (gridScales e k).1 / (gridScales e k).2) = true ∨
      i.meets e k (i.mid * (gridScales e k).1 / (gridScales e k).2 + 1) = true) :
    ∃ c, onGrid? i e k = some c := by
  simp only [onGrid?]
  split
  case h_1 => split <;> exact ⟨_, rfl⟩
  case h_2 => exact ⟨_, rfl⟩
  case h_3 => exact ⟨_, rfl⟩
  case h_4 hc hc' =>
    rcases h with h | h
    · exact absurd (h.symm.trans hc) (by simp)
    · exact absurd (h.symm.trans hc') (by simp)

theorem gridScales_pos (e k : ℤ) : 0 < (gridScales e k).1 ∧ 0 < (gridScales e k).2 :=
  ⟨Nat.mul_pos (twoTo_pos _) (tenTo_pos _), Nat.mul_pos (tenTo_pos _) (twoTo_pos _)⟩

/-- What lies between the number and something in its interval is in the interval. -/
theorem Interval.Holds.of_le_mid {v w : ℚ} (h : i.Holds e v) (hhigh : i.mid < i.high) (hvw : v ≤ w)
    (hw : 4 * w ≤ i.mid * 2 ^ e) : i.Holds e w := by
  have hmid : (i.mid : ℚ) * 2 ^ e < i.high * 2 ^ e :=
    mul_lt_mul_of_pos_right (Nat.cast_lt.2 hhigh) (by positivity)
  rw [Holds] at h ⊢
  split at h
  case isTrue hclosed =>
    rw [if_pos hclosed]
    constructor <;> linarith
  case isFalse hopen =>
    rw [if_neg hopen]
    constructor <;> linarith

theorem Interval.Holds.of_mid_lt {v w : ℚ} (h : i.Holds e v) (hlow : i.low ≤ i.mid) (hwv : w ≤ v)
    (hw : i.mid * 2 ^ e < 4 * w) : i.Holds e w := by
  have hmid : (i.low : ℚ) * 2 ^ e ≤ i.mid * 2 ^ e :=
    mul_le_mul_of_nonneg_right (Nat.cast_le.2 hlow) (by positivity)
  rw [Holds] at h ⊢
  split at h
  case isTrue hclosed =>
    rw [if_pos hclosed]
    constructor <;> linarith
  case isFalse hopen =>
    rw [if_neg hopen]
    constructor <;> linarith

/-- **Nothing on a grid is missed.** If a multiple lies in the interval, so does one of the two next
to the number. -/
theorem exists_onGrid?_of_holds (hlow : i.low ≤ i.mid) (hhigh : i.mid < i.high) (hc : 0 < c)
    (h : i.Holds e (c * 10 ^ k)) : ∃ d, onGrid? i e k = some d := by
  refine exists_onGrid?_of_next ?_
  have hunit : (0 : ℚ) < 10 ^ k := by positivity
  have hbelow := Nat.div_mul_le_self (i.mid * (gridScales e k).1) (gridScales e k).2
  have habove := Nat.lt_mul_div_succ (i.mid * (gridScales e k).1) (gridScales_pos e k).2
  rw [Nat.mul_comm (gridScales e k).2] at habove
  generalize i.mid * (gridScales e k).1 / (gridScales e k).2 = q at *
  rcases Nat.lt_or_ge q c with hqc | hcq
  · right
    have hmid := lt_of_not_ge (mt (mul_gridScales_le_iff i.mid (q + 1) e k).2.2 (not_le.2 habove))
    have hle : ((q + 1 : ℕ) : ℚ) * 10 ^ k ≤ c * 10 ^ k :=
      mul_le_mul_of_nonneg_right (Nat.cast_le.2 hqc) hunit.le
    exact Interval.meets_iff.2 ⟨Nat.succ_pos q, h.of_mid_lt hlow hle hmid⟩
  · left
    have hmid := (mul_gridScales_le_iff i.mid q e k).2.1 hbelow
    have hle : (c : ℚ) * 10 ^ k ≤ q * 10 ^ k :=
      mul_le_mul_of_nonneg_right (Nat.cast_le.2 hcq) hunit.le
    exact Interval.meets_iff.2 ⟨hc.trans_le hcq, h.of_le_mid hhigh hle hmid⟩

theorem Interval.ofMantissa_low_le (m : ℕ) (e : ℤ) : (ofMantissa m e).low ≤ (ofMantissa m e).mid := by
  rw [ofMantissa]
  simp only
  split <;> omega

/-- The number of a grid next above a number in the interval is in it, if the grid is fine. -/
theorem meets_of_fine {m : ℕ} (hfine : (gridScales e k).2 < 2 * (gridScales e k).1) :
    (Interval.ofMantissa m e).meets e k
      ((Interval.ofMantissa m e).mid * (gridScales e k).1 / (gridScales e k).2 + 1) = true := by
  have hb := (gridScales_pos e k).2
  rw [Interval.meets]
  generalize (gridScales e k).1 = a at *
  generalize (gridScales e k).2 = b at *
  have hlow := Interval.ofMantissa_low_le m e
  have hhigh : (Interval.ofMantissa m e).high = (Interval.ofMantissa m e).mid + 2 := rfl
  have hlow' := Nat.mul_le_mul_right a hlow
  have hbelow := Nat.div_mul_le_self ((Interval.ofMantissa m e).mid * a) b
  have habove := Nat.lt_mul_div_succ ((Interval.ofMantissa m e).mid * a) hb
  rw [Nat.mul_comm b] at habove
  rw [hhigh, Nat.add_mul _ 2]
  generalize (Interval.ofMantissa m e).mid * a / b = q at *
  rw [Nat.add_one_mul q b] at habove ⊢
  simp only [Nat.succ_pos, decide_true, Bool.true_and]
  split <;> simp only [Bool.and_eq_true, decide_eq_true_eq] <;> omega

theorem onGrid?_isSome {m : ℕ} (hfine : (gridScales e k).2 < 2 * (gridScales e k).1) :
    ∃ c, onGrid? (Interval.ofMantissa m e) e k = some c :=
  exists_onGrid?_of_next (.inr (meets_of_fine hfine))

end

/-! ## §B The search -/

/-- The search finds something on a grid, if one of the grids has something, and nothing on the
grids before. -/
theorem searchGrid_spec {i : Interval} {e : ℤ} {n : ℕ} {k : ℤ} {j : ℕ} (hj : j < n) {c : ℕ}
    (hc : onGrid? i e (k - j) = some c) :
    ∃ d l, searchGrid i e n k = (d, l) ∧ onGrid? i e l = some d ∧
      ∀ l', l < l' → l' ≤ k → onGrid? i e l' = none := by
  induction n generalizing k j with
  | zero => cases hj
  | succ n ih =>
    rw [searchGrid]
    cases hk : onGrid? i e k with
    | some d => exact ⟨d, k, rfl, hk, fun l' hlt hle => absurd hle (not_le.2 hlt)⟩
    | none =>
      cases j with
      | zero => simp [hk] at hc
      | succ j =>
        have hc' : onGrid? i e (k - 1 - j) = some c := by
          rw [← hc]
          congr 1
          omega
        obtain ⟨d, l, hsearch, hd, hnone⟩ := ih (Nat.lt_of_succ_lt_succ hj) hc'
        refine ⟨d, l, hsearch, hd, fun l' hlt hle => ?_⟩
        rcases hle.eq_or_lt with rfl | hlt'
        · exact hk
        · exact hnone l' hlt (by omega)

/-- The last grid is fine enough for every number. -/
theorem lastGrid_fine {e : ℤ} (he : minExponent ≤ e) :
    (gridScales e (-329)).2 < 2 * (gridScales e (-329)).1 := by
  have hten : twoTo 1076 < 2 * tenTo 329 := by decide +kernel
  have hhigh : tenTo 0 * twoTo (2 - e).toNat ≤ twoTo 1076 := by
    simp only [minExponent] at he
    rw [show tenTo 0 = 1 from rfl, Nat.one_mul]
    exact twoTo_le_twoTo (by omega)
  have hlow : tenTo 329 ≤ twoTo (e - 2).toNat * tenTo 329 := Nat.le_mul_of_pos_left _ (twoTo_pos _)
  calc (gridScales e (-329)).2 = tenTo 0 * twoTo (2 - e).toNat := rfl
    _ < 2 * tenTo 329 := hhigh.trans_lt hten
    _ ≤ 2 * (twoTo (e - 2).toNat * tenTo 329) := Nat.mul_le_mul_left 2 hlow
    _ = 2 * (gridScales e (-329)).1 := rfl

theorem onGrid?_shortest (x : Significand) :
    onGrid? (Interval.ofMantissa x.mantissa x.exponent) x.exponent (shortest x).2 =
        some (shortest x).1 ∧
      ∀ k, (shortest x).2 < k → k ≤ 310 →
        onGrid? (Interval.ofMantissa x.mantissa x.exponent) x.exponent k = none := by
  obtain ⟨c, hc⟩ := onGrid?_isSome (m := x.mantissa) (lastGrid_fine x.minExponent_le)
  obtain ⟨d, l, hsearch, hd, hnone⟩ := searchGrid_spec (n := 640) (k := 310) (j := 639) (by decide) hc
  rw [shortest, hsearch]
  exact ⟨hd, hnone⟩

/-- **The shortest decimal.** It is positive and lies in the interval of the number. -/
theorem shortest_spec (x : Significand) :
    0 < (shortest x).1 ∧ (Interval.ofMantissa x.mantissa x.exponent).Holds x.exponent
      ((shortest x).1 * 10 ^ (shortest x).2) :=
  Interval.meets_iff.1 (meets_of_onGrid? (onGrid?_shortest x).1)

/-- **No decimal is shorter.** On the coarser grids nothing lies in the interval of the number. -/
theorem le_shortest_of_holds {x : Significand} {c : ℕ} {k : ℤ} (hc : 0 < c) (hk : k ≤ 310)
    (h : (Interval.ofMantissa x.mantissa x.exponent).Holds x.exponent (c * 10 ^ k)) :
    k ≤ (shortest x).2 := by
  by_contra hlt
  have hnone := (onGrid?_shortest x).2 k (not_le.1 hlt) hk
  obtain ⟨d, hd⟩ := exists_onGrid?_of_holds (Interval.ofMantissa_low_le _ _)
    (Nat.lt_add_of_pos_right (by decide)) hc h
  rw [hnone] at hd
  cases hd

end RtlLiterals.Binary64
