import RtlLiterals.Text.Basic

/-!
# RtlLiterals.Text.Case -- lower case as far as ASCII names are concerned

Names are looked up without regard to case: the lower case of the given text is compared with
names written in ASCII. Two characters outside ASCII have a lower case that holds ASCII
characters, the Kelvin sign and the capital I with a dot above; every other one has a lower case
without ASCII characters, so for a comparison with an ASCII name it may stand for itself.
-/

namespace RtlLiterals

namespace Text

/-- The lower case of a character. Outside ASCII only the two characters whose lower case holds
ASCII characters are mapped. -/
def lowerChar (c : Char) : Text :=
  if c = '\u212A' then ['k']
  else if c = '\u0130' then ['i', '\u0307']
  else [c.toLower]

/-- The lower case of a text. -/
def lower (t : Text) : Text := t.flatMap lowerChar

end Text

end RtlLiterals
