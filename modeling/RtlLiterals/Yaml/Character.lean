import RtlLiterals.Text.Digit
import RtlLiterals.Text.Utf8

/-!
# RtlLiterals.Yaml.Character -- the characters of YAML

Which characters may stand in a document, which of them separate words and lines, and which can be
written without an escape. There are five line breaks, of which a carriage return with a line feed
after it counts as one; within a scalar the first three of them stand for a line feed, the line and
paragraph separators for themselves.
-/

namespace RtlLiterals.Yaml

export Text (hexValue? hexDigit natIn?)

/-- The next line character. -/
def nextLine : Char := Char.ofNat 0x85

/-- The line separator. -/
def lineSeparator : Char := Char.ofNat 0x2028

/-- The paragraph separator. -/
def paragraphSeparator : Char := Char.ofNat 0x2029

/-- The byte order mark. -/
def byteOrderMark : Char := Char.ofNat 0xFEFF

/-- The character breaks a line. -/
def isBreak (c : Char) : Bool :=
  c == '\n' || c == '\r' || c == nextLine || c == lineSeparator || c == paragraphSeparator

/-- A space or a tab. -/
def isBlank (c : Char) : Bool := c == ' ' || c == '\t'

/-- A blank or a line break. -/
def isGap (c : Char) : Bool := isBlank c || isBreak c

/-- A word ends before the text: at a blank, at a line break or at the end. -/
def endsWord : Text → Bool
  | [] => true
  | c :: _ => isGap c

/-- A line ends before the text. -/
def endsLine : Text → Bool
  | [] => true
  | c :: _ => isBreak c

/-- The break goes on with the next character: a carriage return before a line feed. -/
def joinsNext (c : Char) (rest : Text) : Bool := c == '\r' && rest.head? == some '\n'

/-- What a line break stands for within a scalar. -/
def breakText (c : Char) : Text :=
  if c == lineSeparator || c == paragraphSeparator then [c] else ['\n']

/-- A bracket, a brace or a comma: it ends a plain word in a flow collection. -/
def isFlowMark (c : Char) : Bool :=
  c == ',' || c == '[' || c == ']' || c == '\x7b' || c == '\x7d'

/-- A letter, a digit, a dash or an underscore. -/
def isNameChar (c : Char) : Bool := c.isAlphanum || c == '_' || c == '-'

/-- The character may stand in a document. -/
def isAccepted (c : Char) : Bool :=
  let n := c.toNat
  n == 0x9 || n == 0xA || n == 0xD || (0x20 ≤ n && n ≤ 0x7E) || n == 0x85 ||
    (0xA0 ≤ n && n ≤ 0xFFFD) || 0x10000 ≤ n

/-- The character is written as it is in double quotes, and lets other styles be chosen. -/
def isPrintable (c : Char) : Bool :=
  let n := c.toNat
  n == 0xA || (0x20 ≤ n && n ≤ 0x7E) || (0xA0 ≤ n && n ≤ 0xFFFD && n != 0xFEFF) || 0x10000 ≤ n

/-- The text starts with three times the character and a word ends after them. -/
def startsMarker (c : Char) : Text → Bool
  | a :: b :: d :: rest => a == c && b == c && d == c && endsWord rest
  | _ => false

end RtlLiterals.Yaml
