import RtlLiterals.Text.Basic

/-!
# RtlLiterals.Text.Position -- lines and columns

An editor addresses a character by its line and by its column, both from zero. A line ends with
a line feed, with a carriage return, or with the two together, which are one break. The offset
between the two halves of such a break still belongs to the line that the break ends.
-/

namespace RtlLiterals

/-- A place in a text: line and column, both from zero. -/
structure Position where
  /-- The number of line breaks before the place. -/
  line : Nat
  /-- The number of characters between the start of the line and the place. -/
  column : Nat
deriving DecidableEq, Repr

namespace Position

/-- The first place of a text. -/
def origin : Position := ⟨0, 0⟩

/-- A line break ends with `c`, when `rest` follows it. -/
def endsLine (c : Char) (rest : Text) : Bool :=
  c == '\n' || (c == '\r' && rest.head? != some '\n')

/-- The place after the character `c`, when `rest` follows it. -/
def step (p : Position) (c : Char) (rest : Text) : Position :=
  if endsLine c rest then ⟨p.line + 1, 0⟩ else ⟨p.line, p.column + 1⟩

/-- The place `n` characters on from `p`, where `t` stands, or at the end of `t` if that comes
first. -/
def walk (p : Position) : Nat → Text → Position
  | 0, _ => p
  | _ + 1, [] => p
  | n + 1, c :: t => walk (p.step c t) n t

/-- The place of an offset of a text; an offset past the end is taken for the end. -/
def ofOffset (t : Text) (offset : Nat) : Position := origin.walk offset t

end Position

end RtlLiterals
