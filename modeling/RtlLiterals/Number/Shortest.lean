import RtlLiterals.Number.Binary64
import RtlLiterals.Text.Basic

/-!
# RtlLiterals.Number.Shortest -- the fewest digits that read back

A finite number stands for every real number that rounds to it. Among the decimals in that
interval the shortest is the one on the coarsest grid of powers of ten that meets the interval,
and of two such neighbours the nearer.

## §A Layouts

`Binary64.positional` never writes an exponent; `Binary64.scientific` writes one for very large
and very small numbers and marks whole numbers with `.0`.
-/

namespace RtlLiterals

namespace Binary64

/-- The reals that round to `mantissa * 2 ^ exponent`, in quarters of `2 ^ exponent`. -/
structure Interval where
  low : Nat
  /-- The number itself. -/
  mid : Nat
  high : Nat
  /-- The ends belong to the interval. -/
  closed : Bool

/-- The interval of a positive number. Just above a power of two the numbers below lie closer. -/
def Interval.ofMantissa (m : Nat) (e : Int) : Interval where
  low := if m = twoTo 52 ∧ minExponent < e then 4 * m - 1 else 4 * m - 2
  mid := 4 * m
  high := 4 * m + 2
  closed := m % 2 == 0

/-- The scaled naturals `(a, b)` such that `x` quarters of `2 ^ e` and `c * 10 ^ k` compare as
`x * a` and `c * b`. -/
def gridScales (e k : Int) : Nat × Nat :=
  (twoTo (e - 2).toNat * tenTo (-k).toNat, tenTo k.toNat * twoTo (2 - e).toNat)

/-- The multiple of `10 ^ k` in the interval that is nearest to the number, if one lies there. -/
def onGrid? (i : Interval) (e k : Int) : Option Nat :=
  let (a, b) := gridScales e k
  let c := i.mid * a / b
  let inside (c : Nat) : Bool :=
    0 < c && (if i.closed then i.low * a ≤ c * b && c * b ≤ i.high * a
      else i.low * a < c * b && c * b < i.high * a)
  match inside c, inside (c + 1) with
  | true, true => if 2 * (i.mid * a) < (2 * c + 1) * b then some c else some (c + 1)
  | true, false => some c
  | false, true => some (c + 1)
  | false, false => none

/-- Searches the grids downward from `10 ^ k`. -/
def searchGrid (i : Interval) (e : Int) : Nat → Int → Nat × Int
  | 0, k => (0, k)
  | n + 1, k =>
    match onGrid? i e k with
    | some c => (c, k)
    | none => searchGrid i e n (k - 1)

/-- The digits `d` and the power `k` of the shortest decimal `d * 10 ^ k` that reads back as the
significand. -/
def shortest (x : Significand) : Nat × Int :=
  searchGrid (Interval.ofMantissa x.mantissa x.exponent) x.exponent 640 310

/-! ### Layouts -/

/-- A text of `n` zeros. -/
def zeros (n : Nat) : Text := List.replicate n '0'

/-- The sign of a number. -/
def sign (negative : Bool) : Text := if negative then ['-'] else []

/-- The digits `ds` scaled by a power of ten, without an exponent; `whole` is appended to whole
numbers. -/
def layPositional (ds : Text) (power : Int) (whole : Text) : Text :=
  if 0 ≤ power then ds ++ zeros power.toNat ++ whole
  else
    let places := (-power).toNat
    if places < ds.length then ds.take (ds.length - places) ++ '.' :: ds.drop (ds.length - places)
    else '0' :: '.' :: zeros (places - ds.length) ++ ds

/-- The text of a number: the shortest decimal that reads back, written without an exponent. -/
def positional : Binary64 → Text
  | .nan => Text.ofString "NaN"
  | .infinite s => sign s ++ Text.ofString "inf"
  | .finite s x _ =>
    if x.mantissa = 0 then sign s ++ ['0']
    else
      let (d, k) := shortest x
      sign s ++ layPositional (Text.ofNat d) k []

/-- An integer with its sign. -/
def signedText (n : Int) : Text := if n < 0 then '-' :: Text.ofNat n.natAbs else Text.ofNat n.natAbs

/-- The digits `ds` scaled by a power of ten: positional while the point stands between the fifth
place after it and the sixteenth before it, otherwise one digit before the point and an exponent. -/
def layScientific (ds : Text) (power : Int) : Text :=
  let point := power + ds.length
  if (0 ≤ power ∧ point ≤ 16) ∨ (power < 0 ∧ -5 < point) then
    layPositional ds power (Text.ofString ".0")
  else
    ds.take 1 ++ (if ds.length = 1 then [] else '.' :: ds.drop 1) ++ 'e' :: signedText (point - 1)

/-- The text of a number in a settings file. -/
def scientific : Binary64 → Text
  | .nan => Text.ofString ".nan"
  | .infinite s => sign s ++ Text.ofString ".inf"
  | .finite s x _ =>
    if x.mantissa = 0 then sign s ++ Text.ofString "0.0"
    else
      let (d, k) := shortest x
      sign s ++ layScientific (Text.ofNat d) k

end Binary64

end RtlLiterals
