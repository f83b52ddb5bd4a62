import RtlLiterals.Literal.Span
import RtlLiterals.Script

/-!
# RtlLiterals.Match -- Arabic literals with their lines

A match is a literal whose content holds Arabic script, together with the number of the line its
first character is on. Lines are counted by line feeds alone and start at zero. The count is kept
by a cursor that only moves forward, so for spans out of order a match gets the line of the
furthest start seen so far.
-/

namespace RtlLiterals

/-- A literal whose content holds Arabic script. -/
structure Match where
  text : Text
  /-- The number of line feeds before the literal. -/
  line : Nat
  start : Nat
  /-- The offset one past the last character of the literal. -/
  stop : Nat
deriving DecidableEq, Repr

/-- A position in a text that moves forward only and counts the line feeds it passes. -/
structure LineCursor where
  rest : Text
  /-- The number of characters passed. -/
  offset : Nat
  /-- The number of line feeds passed. -/
  line : Nat
deriving DecidableEq, Repr

namespace LineCursor

/-- The cursor at the start of a text. -/
def start (source : Text) : LineCursor := ⟨source, 0, 0⟩

/-- Moves to `target`, or to the end of the text if that comes first; a target behind the cursor
does not move it. -/
def advance (c : LineCursor) (target : Nat) : LineCursor :=
  let passed := c.rest.take (target - c.offset)
  ⟨c.rest.drop (target - c.offset), c.offset + passed.length, c.line + Text.lineFeeds passed⟩

end LineCursor

/-- The matches among `spans`, with lines counted from the cursor. -/
def matchesFrom (cursor : LineCursor) : List Span → List Match
  | [] => []
  | s :: spans =>
    if hasArabic s.content then
      let here := cursor.advance s.start
      ⟨s.content, here.line, s.start, s.stop⟩ :: matchesFrom here spans
    else matchesFrom cursor spans

/-- The spans of `source` whose content holds Arabic script, in the order given, with lines. -/
def classify (source : Text) (spans : List Span) : List Match :=
  matchesFrom (LineCursor.start source) spans

end RtlLiterals
