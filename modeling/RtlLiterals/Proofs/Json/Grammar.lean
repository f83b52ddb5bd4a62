import Mathlib.Algebra.Field.Rat
import RtlLiterals.Number.Reading
import RtlLiterals.Text.Digit

/-!
# RtlLiterals.Proofs.Json.Grammar -- JSON texts and the values they denote

The grammar of JSON, as the standard gives it, with the value that each text denotes. A rule of the
grammar is a constructor, so that to be a JSON text and to denote a value are one derivation.
Nothing here knows how reports are written.

⚠ BOUNDARY: the standard lets a string name half of a surrogate pair by itself and says nothing of
what it means. Here such a string denotes nothing, so fewer texts are taken for JSON texts, not
more.
-/

namespace RtlLiterals

namespace Json

/-! ## §A Values -/

/-- What a JSON text denotes. The members of an object are kept in the order they are written in. -/
inductive Value where
  | null
  | boolean (b : Bool)
  | number (n : ℚ)
  | string (t : Text)
  | array (vs : List Value)
  | object (members : List (Text × Value))

/-! ## §B Blanks and numbers -/

/-- A character that may stand between the parts of a text. -/
def isBlank (c : Char) : Bool := c == ' ' || c == '\t' || c == '\n' || c == '\r'

/-- The text holds nothing but blanks. -/
def Blanks (w : Text) : Prop := ∀ c ∈ w, isBlank c = true

instance : DecidablePred Blanks := List.decidableBAll (fun c => isBlank c = true)

/-- One or more digits. -/
def Digits (t : Text) : Prop := t ≠ [] ∧ ∀ c ∈ t, c.isDigit = true

/-- The digits before the point: the first of several is not zero. -/
def Whole (t : Text) : Prop := Digits t ∧ (t = ['0'] ∨ t.head? ≠ some '0')

/-- Nothing, or a point with digits behind it. -/
inductive Fraction : Text → Prop
  | none : Fraction []
  | point {ds : Text} : Digits ds → Fraction ('.' :: ds)

/-- Nothing, or a mark with a whole number behind it, which may have a sign of either kind. -/
inductive Exponent : Text → Prop
  | none : Exponent []
  | mark {e : Char} {sign ds : Text} : e ∈ ['e', 'E'] → sign ∈ [[], ['+'], ['-']] → Digits ds →
      Exponent (e :: (sign ++ ds))

/-- A number: a minus sign or none, digits, a fraction or none, an exponent or none. -/
inductive Number : Text → Prop
  | mk {sign whole fraction exponent : Text} : sign ∈ [[], ['-']] → Whole whole →
      Fraction fraction → Exponent exponent → Number (sign ++ (whole ++ (fraction ++ exponent)))

/-- What a number denotes: its digits without the point, times the power of ten that goes with the
place of the point and the exponent. -/
def numberValue (t : Text) : ℚ :=
  let (negative, rest) := Binary64.readSign t
  let (fraction, exponent) := Binary64.readFraction (rest.dropWhile Char.isDigit)
  let digits := Nat.ofDigitChars 10 (rest.takeWhile Char.isDigit ++ fraction) 0
  let power := (Binary64.readExponent exponent).getD 0 - fraction.length
  (if negative then -1 else 1) * digits * 10 ^ power

/-! ## §C Strings -/

/-- The escapes of one letter, each with the character that it denotes. -/
def escapes : List (Char × Char) :=
  [('\x22', '\x22'), ('\\', '\\'), ('/', '/'), ('b', '\x08'), ('f', '\x0c'), ('n', '\n'),
    ('r', '\r'), ('t', '\t')]

/-- The value of four hexadecimal digits. -/
def unit? (a b c d : Char) : Option Nat := do
  let a ← Text.hexValue? a
  let b ← Text.hexValue? b
  let c ← Text.hexValue? c
  let d ← Text.hexValue? d
  return ((a * 16 + b) * 16 + c) * 16 + d

/-- **`Letter t c`** -- inside a string the text `t` denotes the character `c`: it is the character
itself, an escape of one letter, its code, or the surrogate pair of its code. -/
inductive Letter : Text → Char → Prop
  | plain {c : Char} : 0x20 ≤ c.toNat → c ≠ '\x22' → c ≠ '\\' → Letter [c] c
  | escape {e c : Char} : (e, c) ∈ escapes → Letter ['\\', e] c
  | code {a b c d : Char} {n : Nat} : unit? a b c d = some n → n.isValidChar →
      Letter ['\\', 'u', a, b, c, d] (.ofNat n)
  | pair {a b c d e f g h : Char} {high low : Nat} : unit? a b c d = some high →
      unit? e f g h = some low → 0xD800 ≤ high → high < 0xDC00 → 0xDC00 ≤ low → low < 0xE000 →
      Letter ['\\', 'u', a, b, c, d, '\\', 'u', e, f, g, h]
        (.ofNat (0x10000 + (high - 0xD800) * 0x400 + (low - 0xDC00)))

/-- The text between the quotes of a string, with the text that it denotes. -/
inductive Letters : Text → Text → Prop
  | nil : Letters [] []
  | cons {l t s : Text} {c : Char} : Letter l c → Letters t s → Letters (l ++ t) (c :: s)

/-! ## §D Texts -/

/-- What a piece of a text may stand for. -/
inductive Part where
  /-- A value, without blanks around it. -/
  | value (v : Value)
  /-- An element of an array, with blanks around it. -/
  | element (v : Value)
  /-- The elements of an array, at least one. -/
  | elements (vs : List Value)
  /-- A member of an object, with blanks around it. -/
  | member (name : Text) (v : Value)
  /-- The members of an object, at least one. -/
  | members (ms : List (Text × Value))

/-- **`Written p t`** -- the text `t` is written for the part `p`. -/
inductive Written : Part → Text → Prop
  | nullWord : Written (.value .null) ['n', 'u', 'l', 'l']
  | trueWord : Written (.value (.boolean true)) ['t', 'r', 'u', 'e']
  | falseWord : Written (.value (.boolean false)) ['f', 'a', 'l', 's', 'e']
  | number {t : Text} : Number t → Written (.value (.number (numberValue t))) t
  | string {t s : Text} : Letters t s → Written (.value (.string s)) ('\x22' :: (t ++ ['\x22']))
  | noElements {w : Text} : Blanks w → Written (.value (.array [])) ('[' :: (w ++ [']']))
  | array {t : Text} {vs : List Value} : Written (.elements vs) t →
      Written (.value (.array vs)) ('[' :: (t ++ [']']))
  | noMembers {w : Text} : Blanks w → Written (.value (.object [])) ('\x7b' :: (w ++ ['\x7d']))
  | object {t : Text} {ms : List (Text × Value)} : Written (.members ms) t →
      Written (.value (.object ms)) ('\x7b' :: (t ++ ['\x7d']))
  | element {w t w' : Text} {v : Value} : Blanks w → Written (.value v) t → Blanks w' →
      Written (.element v) (w ++ (t ++ w'))
  | lastElement {t : Text} {v : Value} : Written (.element v) t → Written (.elements [v]) t
  | nextElement {t u : Text} {v : Value} {vs : List Value} : Written (.element v) t →
      Written (.elements vs) u → Written (.elements (v :: vs)) (t ++ ',' :: u)
  | member {w n w' t name : Text} {v : Value} : Blanks w → Letters n name → Blanks w' →
      Written (.element v) t →
      Written (.member name v) (w ++ ('\x22' :: (n ++ '\x22' :: (w' ++ ':' :: t))))
  | lastMember {t name : Text} {v : Value} : Written (.member name v) t →
      Written (.members [(name, v)]) t
  | nextMember {t u name : Text} {v : Value} {ms : List (Text × Value)} :
      Written (.member name v) t → Written (.members ms) u →
      Written (.members ((name, v) :: ms)) (t ++ ',' :: u)

/-- **`Denotes t v`** -- the text is a JSON text, one value with blanks around it, and `v` is that
value. -/
def Denotes (t : Text) (v : Value) : Prop := Written (.element v) t

end Json

end RtlLiterals
