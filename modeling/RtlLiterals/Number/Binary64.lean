import RtlLiterals.Number.Significand

/-!
# RtlLiterals.Number.Binary64 -- binary floating point in sixty-four bits

A number is kept exactly: a sign and a significand that is not too large, or one of the two
infinities, or not a number. Significands carry their bounds, so there is one of these for each
number of the format.

## §A Boundary

No arithmetic is defined on these numbers: the program reads, compares and writes them only.
-/

namespace RtlLiterals

/-- A number in the 64-bit binary format. Zeros have a sign as all other numbers do. -/
inductive Binary64 where
  | nan
  | infinite (negative : Bool)
  | finite (negative : Bool) (x : Binary64.Significand) (inRange : x.exponent ≤ Binary64.maxExponent)
deriving DecidableEq, Repr

namespace Binary64

/-- The positive or negative zero. -/
def zero (negative : Bool) : Binary64 := .finite negative .zero (by decide)

/-- Two numbers compare equal: signs of zeros do not count, and no number equals `nan`. -/
def numEq : Binary64 → Binary64 → Bool
  | .infinite s, .infinite t => s == t
  | .finite s x _, .finite t y _ =>
    (x.mantissa == 0 && y.mantissa == 0) || (s == t && x == y)
  | _, _ => false

/-- The number is neither infinite nor `nan`. -/
def isFinite : Binary64 → Bool
  | .finite .. => true
  | _ => false

/-! ### Rounding -/

/-- The number nearest to the quotient of two naturals. -/
def ofQuotient (negative : Bool) (num den : Nat) (hden : 0 < den) : Binary64 :=
  if hnum : num = 0 then zero negative
  else
    let x := Significand.ofQuotient num den hnum hden
    if hx : x.exponent ≤ maxExponent then .finite negative x hx else .infinite negative

/-- The number nearest to `digits * 10 ^ power`, where `digits` has at most `width` decimal
digits. Powers that leave the range of finite numbers are decided without computing them. -/
def ofDecimal (negative : Bool) (digits width : Nat) (power : Int) : Binary64 :=
  if digits = 0 then zero negative
  else if (400 : Int) < power then .infinite negative
  else if power + width < -400 then zero negative
  else
    ofQuotient negative (digits * tenTo power.toNat) (tenTo (-power).toNat) (tenTo_pos _)

end Binary64

end RtlLiterals
