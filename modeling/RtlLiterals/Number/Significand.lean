/-!
# RtlLiterals.Number.Significand -- quotients rounded to fifty-three bits

A significand is a natural number times a power of two, as a finite number in the 64-bit format has
it: of fifty-three bits, or of fewer with the least exponent. The exponent has no upper bound yet.
A quotient of naturals is rounded to the nearest one in `Nat`, ties going to the even mantissa.

## §A Why the bounds hold

A quotient of `num` by `den` lies between two neighbouring powers of two that their lengths in bits
give up to one place, and one comparison decides which place it is (`exists_exponentFor_eq`). So
the rounded quotient has fifty-three bits, unless the exponent is kept from becoming too small or
the rounding reaches `2 ^ 53` (`roundScaled_bounds`).
-/

namespace RtlLiterals

namespace Binary64

/-! ## §B Powers -/

/-- A power of two. -/
def twoTo (n : Nat) : Nat := Nat.pow 2 n

/-- A power of ten. -/
def tenTo (n : Nat) : Nat := Nat.pow 10 n

theorem twoTo_pos (n : Nat) : 0 < twoTo n := Nat.pow_pos (by decide)

theorem tenTo_pos (n : Nat) : 0 < tenTo n := Nat.pow_pos (by decide)

theorem twoTo_add (k n : Nat) : twoTo (k + n) = twoTo k * twoTo n := Nat.pow_add 2 k n

theorem twoTo_le_twoTo {k n : Nat} (h : k ≤ n) : twoTo k ≤ twoTo n :=
  Nat.pow_le_pow_right (by decide) h

theorem twoTo_lt_twoTo {k n : Nat} (h : k < n) : twoTo k < twoTo n :=
  Nat.pow_lt_pow_right (by decide) h

/-- Scaling both sides by a power of two changes nothing. -/
theorem scaled_le_scaled_add (x y a b n : Nat) :
    x * twoTo (a + n) ≤ y * twoTo (b + n) ↔ x * twoTo a ≤ y * twoTo b := by
  rw [twoTo_add, twoTo_add, ← Nat.mul_assoc, ← Nat.mul_assoc]
  exact Nat.mul_le_mul_right_iff (twoTo_pos n)

/-- Only the difference of the two scales matters. -/
theorem scaled_le_scaled_congr (x y : Nat) {a b c d : Nat} (h : a + d = c + b) :
    x * twoTo a ≤ y * twoTo b ↔ x * twoTo c ≤ y * twoTo d := by
  rw [← scaled_le_scaled_add x y a b d, ← scaled_le_scaled_add x y c d b, h, Nat.add_comm b d]

/-- A natural number lies between the powers of two that its length in bits gives. -/
theorem scaled_le_of_log2 {num den a b : Nat} (hnum : num ≠ 0)
    (h : den.log2 + 1 + a ≤ num.log2 + b) : den * twoTo a ≤ num * twoTo b := by
  calc den * twoTo a ≤ twoTo (den.log2 + 1) * twoTo a :=
        Nat.mul_le_mul_right _ (Nat.le_of_lt Nat.lt_log2_self)
    _ = twoTo (den.log2 + 1 + a) := (twoTo_add _ _).symm
    _ ≤ twoTo (num.log2 + b) := twoTo_le_twoTo h
    _ = twoTo num.log2 * twoTo b := twoTo_add _ _
    _ ≤ num * twoTo b := Nat.mul_le_mul_right _ (Nat.log2_self_le hnum)

theorem scaled_lt_of_log2 {num den a b : Nat} (hden : den ≠ 0)
    (h : num.log2 + 1 + b ≤ den.log2 + a) : num * twoTo b < den * twoTo a := by
  calc num * twoTo b < twoTo (num.log2 + 1) * twoTo b :=
        Nat.mul_lt_mul_of_pos_right Nat.lt_log2_self (twoTo_pos b)
    _ = twoTo (num.log2 + 1 + b) := (twoTo_add _ _).symm
    _ ≤ twoTo (den.log2 + a) := twoTo_le_twoTo h
    _ = twoTo den.log2 * twoTo a := twoTo_add _ _
    _ ≤ den * twoTo a := Nat.mul_le_mul_right _ (Nat.log2_self_le hden)

/-! ## §C Rounding -/

/-- The quotient rounded to the nearest natural number, a tie to the even one. -/
def roundQuotient (num den : Nat) : Nat :=
  let q := num / den
  let r := 2 * (num % den)
  if r < den then q
  else if den < r then q + 1
  else if q % 2 = 0 then q else q + 1

/-- `num * 2 ^ k / den`, rounded. -/
def roundScaled (num den : Nat) (k : Int) : Nat :=
  roundQuotient (num * twoTo k.toNat) (den * twoTo (-k).toNat)

theorem roundQuotient_le {num den n : Nat} (h : num ≤ den * n) : roundQuotient num den ≤ n := by
  rcases Nat.eq_zero_or_pos den with rfl | hden
  · obtain rfl : num = 0 := by simpa using h
    exact Nat.zero_le n
  have hdiv : den * (num / den) + num % den = num := Nat.div_add_mod num den
  have hle : num / den ≤ n := Nat.div_le_of_le_mul h
  rw [roundQuotient]
  rcases Nat.eq_or_lt_of_le hle with heq | hlt
  · -- A quotient that reaches the bound leaves no remainder.
    rw [heq] at hdiv
    exact Nat.le_of_eq (by rw [if_pos (by omega), heq])
  · split
    · exact hle
    · split
      · exact hlt
      · split
        · exact hle
        · exact hlt

theorem le_roundQuotient {num den n : Nat} (hden : 0 < den) (h : den * n ≤ num) :
    n ≤ roundQuotient num den := by
  have hle : n ≤ num / den := (Nat.le_div_iff_mul_le hden).2 (Nat.mul_comm den n ▸ h)
  rw [roundQuotient]
  split
  · exact hle
  · split
    · exact Nat.le_succ_of_le hle
    · split
      · exact hle
      · exact Nat.le_succ_of_le hle

/-! ## §D Exponents -/

/-- The least exponent of a significand. -/
def minExponent : Int := -1074

/-- The greatest exponent of a finite number. -/
def maxExponent : Int := 971

/-- The exponent with which `num / den` has a mantissa of 53 bits, or the least one. -/
def exponentFor (num den : Nat) : Int :=
  let guess : Int := (num.log2 : Int) - (den.log2 : Int) - 52
  let fits := decide (den * twoTo 52 * twoTo guess.toNat ≤ num * twoTo (-guess).toNat)
  max minExponent (if fits then guess else guess - 1)

/-- The exponent before it is kept from becoming too small: the quotient reaches `2 ^ 52` of its
units and not `2 ^ 53`. -/
theorem exists_exponentFor_eq {num den : Nat} (hnum : num ≠ 0) (hden : 0 < den) :
    ∃ g : Int, exponentFor num den = max minExponent g ∧
      den * twoTo (52 + g.toNat) ≤ num * twoTo (-g).toNat ∧
      num * twoTo (-g).toNat < den * twoTo (53 + g.toNat) := by
  rw [exponentFor]
  generalize hguess : (num.log2 : Int) - den.log2 - 52 = g
  simp only [Nat.mul_assoc den, ← twoTo_add]
  by_cases h : den * twoTo (52 + g.toNat) ≤ num * twoTo (-g).toNat
  · refine ⟨g, by rw [decide_eq_true h, if_pos rfl], h, ?_⟩
    exact scaled_lt_of_log2 (Nat.ne_of_gt hden) (by omega)
  · refine ⟨g - 1, by rw [decide_eq_false h, if_neg (by simp)], ?_, ?_⟩
    · exact scaled_le_of_log2 hnum (by omega)
    · -- What does not reach `2 ^ 52` units does not reach `2 ^ 53` of their halves.
      rw [← Nat.not_le]
      exact mt (scaled_le_scaled_congr den num (by omega)).1 h

/-- The bounds of the exponent are bounds of the mantissa. -/
theorem roundScaled_bounds {num den : Nat} (hnum : num ≠ 0) (hden : 0 < den) :
    roundScaled num den (-exponentFor num den) ≤ twoTo 53 ∧
      (twoTo 52 ≤ roundScaled num den (-exponentFor num den) ∨
        exponentFor num den = minExponent) := by
  obtain ⟨g, hg, hlow, hhigh⟩ := exists_exponentFor_eq hnum hden
  rw [hg, roundScaled, Int.neg_neg]
  constructor
  · -- A greater exponent makes the units greater and their number smaller.
    obtain ⟨n, hn⟩ : ∃ n : Nat, max minExponent g = g + n :=
      ⟨(max minExponent g - g).toNat, by omega⟩
    have hmore : den * twoTo (53 + g.toNat) ≤ den * twoTo (53 + n + g.toNat) :=
      Nat.mul_le_mul_left den (twoTo_le_twoTo (by omega))
    have hscaled : ¬ den * twoTo (53 + (g + n).toNat) ≤ num * twoTo (-(g + n)).toNat := by
      rw [scaled_le_scaled_congr den num (c := 53 + n + g.toNat) (d := (-g).toNat) (by omega)]
      exact Nat.not_le.2 (Nat.lt_of_lt_of_le hhigh hmore)
    refine roundQuotient_le ?_
    rw [hn, Nat.mul_assoc, ← twoTo_add, Nat.add_comm _ 53]
    exact Nat.le_of_lt (Nat.not_le.1 hscaled)
  · rcases Int.le_total minExponent g with hmin | hmin
    · rw [Int.max_eq_right hmin]
      refine .inl (le_roundQuotient (Nat.mul_pos hden (twoTo_pos _)) ?_)
      rwa [Nat.mul_assoc, ← twoTo_add, Nat.add_comm _ 52]
    · exact .inr (Int.max_eq_left hmin)

/-! ## §E Significands -/

/-- A mantissa and an exponent of two: fifty-three bits, or the least exponent. -/
@[ext] structure Significand where
  mantissa : Nat
  exponent : Int
  mantissa_lt : mantissa < twoTo 53
  minExponent_le : minExponent ≤ exponent
  normal : twoTo 52 ≤ mantissa ∨ exponent = minExponent
deriving DecidableEq, Repr

/-- No bits at all, with the least exponent. -/
def Significand.zero : Significand := ⟨0, minExponent, twoTo_pos 53, Int.le_refl _, .inr rfl⟩

/-- Zero has one significand only. -/
theorem Significand.eq_zero {x : Significand} (hx : x.mantissa = 0) : x = zero := by
  have hbits : ¬ twoTo 52 ≤ x.mantissa := by
    rw [hx]
    exact Nat.not_le.2 (twoTo_pos 52)
  exact Significand.ext hx (x.normal.resolve_left hbits)

/-- The significand nearest to the quotient of two naturals that are not zero. A mantissa that
rounding makes too long is halved. -/
def Significand.ofQuotient (num den : Nat) (hnum : num ≠ 0) (hden : 0 < den) : Significand :=
  let e := exponentFor num den
  let m := roundScaled num den (-e)
  have hmin : minExponent ≤ e := Int.le_max_left ..
  have hbounds : m ≤ twoTo 53 ∧ (twoTo 52 ≤ m ∨ e = minExponent) := roundScaled_bounds hnum hden
  if hcarry : m = twoTo 53 then
    ⟨twoTo 52, e + 1, twoTo_lt_twoTo (by decide), by omega, .inl (Nat.le_refl _)⟩
  else ⟨m, e, Nat.lt_of_le_of_ne hbounds.1 hcarry, hmin, hbounds.2⟩

end Binary64

end RtlLiterals
