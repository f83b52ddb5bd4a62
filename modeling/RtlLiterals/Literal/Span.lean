import RtlLiterals.Text.Basic

/-!
# RtlLiterals.Literal.Span -- where a quoted literal stands

A span records one quoted literal of a source text: what stands between its delimiters, exactly
as written, and the offsets of the whole literal, delimiters included.
-/

namespace RtlLiterals

/-- One quoted literal of a source text. -/
structure Span where
  /-- The text between the delimiters, escapes left as written. -/
  content : Text
  /-- The offset of the first character of the literal. -/
  start : Nat
  /-- The offset one past the last character of the literal. -/
  stop : Nat
deriving DecidableEq, Repr

namespace Span

/-- The length of the whole literal, delimiters included. -/
def length (s : Span) : Nat := s.stop - s.start

/-- The literal takes no room. -/
def isEmpty (s : Span) : Bool := s.length == 0

/-- The span moved by `n` characters. -/
def shift (n : Nat) (s : Span) : Span := ⟨s.content, s.start + n, s.stop + n⟩

end Span

end RtlLiterals
