import RtlLiterals.Text.Basic

/-!
# RtlLiterals.Text.Blank -- white space

The characters with the property `White_Space` of Unicode.
-/

namespace RtlLiterals.Text

/-- The character is white space. -/
def isWhiteSpace (c : Char) : Bool :=
  let n := c.toNat
  (0x9 ≤ n && n ≤ 0xD) || n == 0x20 || n == 0x85 || n == 0xA0 || n == 0x1680 ||
    (0x2000 ≤ n && n ≤ 0x200A) || n == 0x2028 || n == 0x2029 || n == 0x202F || n == 0x205F ||
    n == 0x3000

/-- The text holds nothing but white space. -/
def isBlank (t : Text) : Bool := t.all isWhiteSpace

end RtlLiterals.Text
