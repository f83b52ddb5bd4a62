/-!
# RtlLiterals.Text.Basic -- text as a list of characters

A `Text` is the list of its Unicode scalar values. Every offset in the library counts these, so
the length of a text, a slice of it and a position in it are the list operations `length`,
`drop` and `take`; where bytes matter they are computed from the text (`RtlLiterals.Text.Utf8`).
-/

namespace RtlLiterals

/-- A text: its Unicode scalar values in order. -/
abbrev Text := List Char

namespace Text

/-- The text of a string constant. -/
def ofString (s : String) : Text := s.toList

/-! ### Slices and counts -/

/-- The slice of `t` from offset `start` (inclusive) to `stop` (exclusive). -/
def slice (t : Text) (start stop : Nat) : Text := (t.drop start).take (stop - start)

/-- The number of line feeds in `t`. -/
def lineFeeds (t : Text) : Nat := t.count '\n'

@[simp] theorem lineFeeds_nil : lineFeeds [] = 0 := rfl

theorem lineFeeds_append (a b : Text) : lineFeeds (a ++ b) = lineFeeds a + lineFeeds b := by
  simp [lineFeeds]

/-- The decimal digits of a natural number, most significant first, without leading zeros. -/
def ofNat (n : Nat) : Text := Nat.toDigits 10 n

end Text

end RtlLiterals
