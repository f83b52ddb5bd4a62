import RtlLiterals.Yaml.Value

/-!
# RtlLiterals.Yaml.Writing -- scalars as they are written

A text is written in the plainest style in which it reads back as the same text: plainly unless
that would be something else, otherwise in single quotes, otherwise in double quotes with escapes.
A text with a line feed is written as a block of lines if it can be.

## §A Styles

* `needsQuotes`: a plain scalar would not be text.
* `plainAllowed`, `singleQuotedAllowed`, `literalAllowed`: what a text must not hold for a style.
* `styleOf`: the choice.
-/

namespace RtlLiterals.Yaml

/-! ### Styles -/

/-- Two neighbours in the text satisfy the tests. -/
def hasNeighbours (p q : Char → Bool) : Text → Bool
  | [] => false
  | a :: t => (p a && t.head?.any q) || hasNeighbours p q t

/-- The character is a space. -/
def isSpace (c : Char) : Bool := c == ' '

/-- The text starts as something else than a plain scalar would. -/
def startsAsMark : Text → Bool
  | [] => false
  | c :: t =>
    ['#', ',', '[', ']', '\x7b', '\x7d', '&', '*', '!', '|', '>', '\x27', '\x22', '%', '@',
      '\x60'].contains c ||
    ((c == '-' || c == '?') && endsWord t) ||
    ((c == '-' || c == '.') && t.take 2 == [c, c])

/-- The text holds a colon at the end of a word, or a number sign after a gap. -/
def holdsMark : Text → Bool
  | [] => false
  | c :: t => (c == ':' && endsWord t) || (isGap c && t.head? == some '#') || holdsMark t

/-- All characters can be written as they are. -/
def allPrintable (t : Text) : Bool := t.all isPrintable

/-- The text can be written in single quotes. -/
def singleQuotedAllowed (t : Text) : Bool :=
  allPrintable t && !hasNeighbours isSpace isBreak t && !hasNeighbours isBreak isSpace t

/-- The text can be written as a block of lines. -/
def literalAllowed (t : Text) : Bool :=
  !t.isEmpty && allPrintable t && !hasNeighbours isSpace isBreak t && t.getLast? != some ' '

/-- The text can be written plainly in a block. -/
def plainAllowed (t : Text) : Bool :=
  allPrintable t && !t.any isBreak && t.head? != some ' ' && t.getLast? != some ' ' &&
    !startsAsMark t && !holdsMark t

/-- A plain scalar with this content is no text, or has digits after a leading zero. -/
def needsQuotes (t : Text) : Bool := Value.ofPlain t != .text t || hasLeadingZero t

/-- The style in which a text is written. -/
def styleOf (t : Text) : ScalarStyle :=
  if t.contains '\n' then if literalAllowed t then .literal else .doubleQuoted
  else if !needsQuotes t && plainAllowed t then .plain
  else if singleQuotedAllowed t then .singleQuoted
  else .doubleQuoted

/-! ### Quotes -/

/-- Spaces at the start of a line. -/
def spaces (n : Nat) : Text := List.replicate n ' '

/-- The content of single quotes. A quote is written twice. After a line break the line is indented;
`broken` says that one came before. -/
def writeSingleQuoted (indent : Nat) : Text → (broken : Bool) → Text
  | [], broken => if broken then spaces indent else []
  | c :: t, broken =>
    if isBreak c then c :: writeSingleQuoted indent t true
    else
      (if broken then spaces indent else []) ++
        (if c == '\x27' then ['\x27', '\x27'] else [c]) ++ writeSingleQuoted indent t false

/-- The letter of an escape. -/
def escapeLetter? (c : Char) : Option Char :=
  match c.toNat with
  | 0x00 => some '0'
  | 0x07 => some 'a'
  | 0x08 => some 'b'
  | 0x09 => some 't'
  | 0x0A => some 'n'
  | 0x0B => some 'v'
  | 0x0C => some 'f'
  | 0x0D => some 'r'
  | 0x1B => some 'e'
  | 0x22 => some '\x22'
  | 0x5C => some '\\'
  | 0x85 => some 'N'
  | 0x2028 => some 'L'
  | 0x2029 => some 'P'
  | _ => none

/-- A number in hexadecimal with so many digits. -/
def hexDigits : Nat → Nat → Text
  | 0, _ => []
  | k + 1, n => hexDigits k (n / 16) ++ [hexDigit true (n % 16)]

/-- The escape of a character. -/
def escape (c : Char) : Text :=
  match escapeLetter? c with
  | some d => ['\\', d]
  | none =>
    let n := c.toNat
    if n ≤ 0xFF then '\\' :: 'x' :: hexDigits 2 n
    else if n ≤ 0xFFFF then '\\' :: 'u' :: hexDigits 4 n
    else '\\' :: 'U' :: hexDigits 8 n

/-- The character is written as an escape in double quotes. -/
def needsEscape (c : Char) : Bool := !isPrintable c || isBreak c || c == '\x22' || c == '\\'

/-- The content of double quotes. -/
def writeDoubleQuoted (t : Text) : Text := t.flatMap fun c => if needsEscape c then escape c else [c]

/-! ### Blocks -/

/-- The lines of a block. Lines that are not empty are indented; `broken` says that a line starts
here. -/
def writeLines (indent : Nat) : Text → (broken : Bool) → Text
  | [], _ => []
  | c :: t, broken =>
    if isBreak c then c :: writeLines indent t true
    else (if broken then spaces indent else []) ++ c :: writeLines indent t false

/-- The steps by which blocks are indented. -/
def indentStep : Nat := 2

/-- What follows the sign of a block: the indentation, if the first line does not show it, and what
becomes of the line breaks at the end. -/
def blockHints (t : Text) : Text :=
  (if t.head?.any fun c => isSpace c || isBreak c then Text.ofNat indentStep else []) ++
    match t.reverse with
    | [] => ['-']
    | c :: before =>
      if !isBreak c then ['-']
      else if before.isEmpty || before.head?.any isBreak then ['+']
      else []

/-! ### Scalars -/

/-- A text as a value in a mapping, to the end of its line; its other lines are indented. -/
def writeText (indent : Nat) (t : Text) : Text :=
  match styleOf t with
  | .plain => t ++ ['\n']
  | .singleQuoted => '\x27' :: writeSingleQuoted indent t false ++ ['\x27', '\n']
  | .doubleQuoted => '\x22' :: writeDoubleQuoted t ++ ['\x22', '\n']
  | .literal | .folded =>
    '|' :: blockHints t ++ '\n' :: writeLines indent t true ++
      (if t.getLast?.any isBreak then [] else ['\n'])

/-- A truth value. -/
def writeBoolean (b : Bool) : Text := Text.ofString (if b then "true" else "false") ++ ['\n']

/-- A number. -/
def writeNumber (x : Binary64) : Text := x.scientific ++ ['\n']

/-- A key of a mapping with its value, which goes to the end of its line. -/
def writeEntry (indent : Nat) (key : Text) (value : Text) : Text :=
  spaces indent ++ key ++ [':', ' '] ++ value

end RtlLiterals.Yaml
