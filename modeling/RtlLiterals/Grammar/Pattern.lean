/-!
# RtlLiterals.Grammar.Pattern -- the shapes of tokens

A pattern describes the texts of one kind of token: characters from a set, in sequence, in
alternatives, repeated. Sets are given by ranges of code points. A negated set never holds the
null character, which stands for the end of the text as well.
-/

namespace RtlLiterals.Grammar

/-- A set of characters, given by ranges of code points or by what it leaves out. -/
structure CharSet where
  /-- The set holds what the ranges do not hold. -/
  negated : Bool
  /-- Ranges of code points, both ends included. -/
  ranges : List (Nat × Nat)
deriving BEq, Hashable, Repr, Inhabited

namespace CharSet

/-- The character belongs to the set. -/
def contains (s : CharSet) (c : Char) : Bool :=
  let listed := s.ranges.any fun r => r.1 ≤ c.toNat && c.toNat ≤ r.2
  if s.negated then c.toNat != 0 && !listed else listed

/-- The set of the given characters. -/
def ofString (s : String) : CharSet := ⟨false, s.toList.map fun c => (c.toNat, c.toNat)⟩

/-- Every character but the given ones. -/
def except (s : String) : CharSet := ⟨true, s.toList.map fun c => (c.toNat, c.toNat)⟩

/-- The characters from `a` to `b`. -/
def range (a b : Char) : CharSet := ⟨false, [(a.toNat, b.toNat)]⟩

/-- The characters listed by either of two sets that are not negated. -/
def union (s t : CharSet) : CharSet := ⟨s.negated, s.ranges ++ t.ranges⟩

/-- The decimal digits. -/
def digits : CharSet := range '0' '9'

/-- The hexadecimal digits. -/
def hexDigits : CharSet := digits.union ((range 'a' 'f').union (range 'A' 'F'))

/-- White space in the sense of regular expressions. -/
def blanks : CharSet := ⟨false, [(9, 13), (32, 32)]⟩

/-- The blanks of Unicode's category of separating spaces. -/
def spaces : CharSet :=
  ⟨false, [(0x20, 0x20), (0xA0, 0xA0), (0x1680, 0x1680), (0x2000, 0x200A), (0x202F, 0x202F),
    (0x205F, 0x205F), (0x3000, 0x3000)]⟩

end CharSet

/-- The texts of one kind of token. -/
inductive Pattern where
  | one (set : CharSet)
  | seq (parts : List Pattern)
  | alt (parts : List Pattern)
  | star (part : Pattern)
deriving BEq, Repr

namespace Pattern

/-- Nothing. -/
def empty : Pattern := .seq []

/-- Exactly the given text. -/
def exactly (s : String) : Pattern := .seq (s.toList.map fun c => .one (.ofString c.toString))

/-- The pattern or nothing. -/
def opt (p : Pattern) : Pattern := .alt [p, empty]

/-- The pattern at least once. -/
def plus (p : Pattern) : Pattern := .seq [p, .star p]

/-- The pattern `n` times. -/
def times (n : Nat) (p : Pattern) : Pattern := .seq (List.replicate n p)

/-- The pattern at least once and at most `n` times. -/
def upTo : Nat → Pattern → Pattern
  | 0, _ => empty
  | 1, p => p
  | n + 1, p => .seq [p, opt (upTo n p)]

/-- One of the given characters. -/
def oneOf (s : String) : Pattern := .one (.ofString s)

/-- Any character but the given ones. -/
def noneOf (s : String) : Pattern := .one (.except s)

/-- Any character but a line feed. -/
def anyInLine : Pattern := noneOf "\n"

end Pattern

end RtlLiterals.Grammar
