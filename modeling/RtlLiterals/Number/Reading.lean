import RtlLiterals.Number.Binary64
import RtlLiterals.Text.Case

/-!
# RtlLiterals.Number.Reading -- decimal texts read as numbers

A number is written as digits with an optional point among or around them and an optional
exponent, after an optional sign; at least one digit stands before the exponent. The words `inf`,
`infinity` and `nan` are read without regard to case.
-/

namespace RtlLiterals

namespace Binary64

/-- An optional sign, and the rest. -/
def readSign : Text → Bool × Text
  | '-' :: t => (true, t)
  | '+' :: t => (false, t)
  | t => (false, t)

/-- The exponent at the end of a number: nothing, or `e` with a whole number. -/
def readExponent : Text → Option Int
  | [] => some 0
  | c :: t =>
    if c = 'e' ∨ c = 'E' then
      let (negative, ds) := readSign t
      if ds ≠ [] ∧ ds.all Char.isDigit then
        some (if negative then -(Nat.ofDigitChars 10 ds 0 : Int) else Nat.ofDigitChars 10 ds 0)
      else none
    else none

/-- A point and the digits after it, if any, and the rest. -/
def readFraction : Text → Text × Text
  | '.' :: t => (t.takeWhile Char.isDigit, t.dropWhile Char.isDigit)
  | t => ([], t)

/-- A number without its sign. -/
def readUnsigned (negative : Bool) (t : Text) : Option Binary64 :=
  let whole := t.takeWhile Char.isDigit
  let (fraction, rest) := readFraction (t.dropWhile Char.isDigit)
  if whole = [] ∧ fraction = [] then none
  else
    (readExponent rest).map fun e =>
      ofDecimal negative (Nat.ofDigitChars 10 (whole ++ fraction) 0) (whole.length + fraction.length)
        (e - fraction.length)

/-- The number that a text writes. -/
def ofText? (t : Text) : Option Binary64 :=
  let (negative, rest) := readSign t
  let word := Text.lower rest
  if word = Text.ofString "inf" ∨ word = Text.ofString "infinity" then some (.infinite negative)
  else if word = Text.ofString "nan" then some .nan
  else readUnsigned negative rest

end Binary64

end RtlLiterals
