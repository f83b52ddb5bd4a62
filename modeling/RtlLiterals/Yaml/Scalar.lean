import RtlLiterals.Yaml.Cursor

/-!
# RtlLiterals.Yaml.Scalar -- reading scalars

A scalar is written plainly, in single or double quotes, or as a block of lines. Each reader here
takes one character at a time from the text, so each is a recursion on the text. In plain and
quoted scalars a gap of blanks and line breaks between two words is folded: blanks alone stand for
themselves, one line break for a space, and more of them for all but the first.

## §A Readers

* `plain`: up to a comment, a colon that ends a word, or a line that is not indented enough.
* `singleQuoted`, `doubleQuoted`: up to the closing quote.
* `blockScalar`: all lines with the indentation of the first one that is not empty.
-/

namespace RtlLiterals.Yaml

/-- How a scalar is written. -/
inductive ScalarStyle where
  | plain
  | singleQuoted
  | doubleQuoted
  /-- As a block of lines that stand for themselves. -/
  | literal
  /-- As a block of lines that are folded. -/
  | folded
deriving DecidableEq, Repr

/-! ### Gaps -/

/-- Blanks and line breaks between two words of a scalar. -/
structure Gap where
  /-- The blanks, while there is no line break. -/
  blanks : Text
  broken : Bool
  /-- What the first line break stands for. -/
  first : Text
  /-- What the other line breaks stand for. -/
  more : Text
deriving DecidableEq, Repr

namespace Gap

/-- No gap. -/
def none : Gap := ⟨[], false, [], []⟩

/-- The gap after a line break that an escape takes away. -/
def escapedBreak : Gap := ⟨[], true, [], []⟩

/-- There is no gap. -/
def isNone (g : Gap) : Bool := !g.broken && g.blanks.isEmpty

/-- The gap with one more blank or line break, which `rest` follows. -/
def push (g : Gap) (c : Char) (rest : Text) : Gap :=
  if isBlank c then if g.broken then g else { g with blanks := g.blanks ++ [c] }
  else if joinsNext c rest then g
  else if g.broken then { g with more := g.more ++ breakText c }
  else ⟨[], true, breakText c, []⟩

/-- What a line break and the ones after it stand for. -/
def fold (first more : Text) : Text :=
  if first = ['\n'] then if more.isEmpty then [' '] else more else first ++ more

/-- What the gap stands for. -/
def content (g : Gap) : Text := if g.broken then fold g.first g.more else g.blanks

end Gap

/-! ### Plain scalars -/

/-- A plain scalar that was read. -/
structure PlainRead where
  content : Text
  /-- A line break came after it. -/
  broken : Bool
  cursor : Cursor
deriving Repr

/-- Reads a plain scalar that began at `start`, in a flow collection or in a block with at least
`indent` columns; `read` is what was read, the last character first, and `gap` the gap after it. -/
def plain (inFlow : Bool) (indent : Int) (start : Mark) :
    Text → Mark → (read : Text) → Gap → Except Problem PlainRead
  | [], m, read, gap => .ok ⟨read.reverse, gap.broken, ⟨[], m⟩⟩
  | c :: t, m, read, gap =>
    if isGap c then
      if c == '\t' && gap.broken && decide ((m.column : Int) < indent) then
        .error ⟨.tabInIndentation, m, some (.plainScalar, start)⟩
      else plain inFlow indent start t (m.step c t) read (gap.push c t)
    else if !gap.isNone && ((!inFlow && decide ((m.column : Int) < indent)) ||
        Cursor.atMarker ⟨c :: t, m⟩ || c == '#') then
      .ok ⟨read.reverse, gap.broken, ⟨c :: t, m⟩⟩
    else if inFlow && c == ':' && t.head?.any fun d => d == '?' || isFlowMark d then
      .error ⟨.unexpectedColon, m, some (.plainScalar, start)⟩
    else if (c == ':' && endsWord t) || (inFlow && isFlowMark c) then
      .ok ⟨read.reverse, gap.broken, ⟨c :: t, m⟩⟩
    else plain inFlow indent start t (m.step c t) (c :: (gap.content.reverse ++ read)) .none

/-! ### Quoted scalars -/

/-- Reads a scalar in single quotes after its opening quote, which is at `start`. -/
def singleQuoted (start : Mark) :
    Text → Mark → (read : Text) → Gap → Except Problem (Text × Cursor)
  | [], m, _, _ => .error ⟨.unexpectedEnd, m, some (.quotedScalar, start)⟩
  | c :: t, m, read, gap =>
    if isGap c then singleQuoted start t (m.step c t) read (gap.push c t)
    else if Cursor.atMarker ⟨c :: t, m⟩ then
      .error ⟨.documentMarker, m, some (.quotedScalar, start)⟩
    else
      let joined := gap.content.reverse ++ read
      if c == '\x27' then
        match t with
        | '\x27' :: u =>
          singleQuoted start u ((m.step c t).step '\x27' u) ('\x27' :: joined) .none
        | _ => .ok (joined.reverse, ⟨t, m.step c t⟩)
      else singleQuoted start t (m.step c t) (c :: joined) .none

/-- The character of an escape by one letter. -/
def escapedChar? (c : Char) : Option Char :=
  match c with
  | '0' => some (Char.ofNat 0)
  | 'a' => some (Char.ofNat 7)
  | 'b' => some (Char.ofNat 8)
  | 't' | '\t' => some '\t'
  | 'n' => some '\n'
  | 'v' => some (Char.ofNat 11)
  | 'f' => some (Char.ofNat 12)
  | 'r' => some '\r'
  | 'e' => some (Char.ofNat 27)
  | ' ' => some ' '
  | '\x22' => some '\x22'
  | '/' => some '/'
  | '\\' => some '\\'
  | 'N' => some nextLine
  | '_' => some (Char.ofNat 0xA0)
  | 'L' => some lineSeparator
  | 'P' => some paragraphSeparator
  | _ => none

/-- The number of digits of an escape by a number. -/
def escapeDigits? (c : Char) : Option Nat :=
  match c with
  | 'x' => some 2
  | 'u' => some 4
  | 'U' => some 8
  | _ => none

/-- What is being read in double quotes. -/
inductive Inside where
  | text (gap : Gap)
  | escape (backslash : Mark)
  | lineBreak
  /-- The digits of an escape that start at the place, some of them left to read. -/
  | digits (left : Nat) (value : Nat) (start : Mark)
deriving Repr

/-- Reads a scalar in double quotes after its opening quote, which is at `start`. -/
def doubleQuoted (start : Mark) :
    Text → Mark → (read : Text) → Inside → Except Problem (Text × Cursor)
  | [], m, _, inside =>
    match inside with
    | .text _ | .lineBreak => .error ⟨.unexpectedEnd, m, some (.quotedScalar, start)⟩
    | .escape backslash => .error ⟨.unknownEscape, backslash, some (.escape, start)⟩
    | .digits _ _ first => .error ⟨.noHexNumber, first, some (.escape, start)⟩
  | c :: t, m, read, inside =>
    let next := m.step c t
    match inside with
    | .text gap =>
      if isGap c then doubleQuoted start t next read (.text (gap.push c t))
      else if Cursor.atMarker ⟨c :: t, m⟩ then
        .error ⟨.documentMarker, m, some (.quotedScalar, start)⟩
      else
        let joined := gap.content.reverse ++ read
        if c == '\x22' then .ok (joined.reverse, ⟨t, next⟩)
        else if c == '\\' then doubleQuoted start t next joined (.escape m)
        else doubleQuoted start t next (c :: joined) (.text .none)
    | .escape backslash =>
      if isBreak c then
        if joinsNext c t then doubleQuoted start t next read .lineBreak
        else doubleQuoted start t next read (.text .escapedBreak)
      else
        match escapedChar? c with
        | some d => doubleQuoted start t next (d :: read) (.text .none)
        | none =>
          match escapeDigits? c with
          | some n => doubleQuoted start t next read (.digits n 0 next)
          | none => .error ⟨.unknownEscape, backslash, some (.escape, start)⟩
    | .lineBreak => doubleQuoted start t next read (.text .escapedBreak)
    | .digits left value first =>
      match hexValue? c with
      | none => .error ⟨.noHexNumber, first, some (.escape, start)⟩
      | some d =>
        let value := value * 16 + d
        if 1 < left then doubleQuoted start t next read (.digits (left - 1) value first)
        else if (0xD800 ≤ value && value ≤ 0xDFFF) || 0x10FFFF < value then
          .error ⟨.badCodePoint, first, some (.escape, start)⟩
        else doubleQuoted start t next (Char.ofNat value :: read) (.text .none)

/-! ### Block scalars -/

/-- What becomes of the line breaks at the end of a block scalar. -/
inductive Chomping where
  /-- One is kept. -/
  | clip
  | strip
  | keep
deriving DecidableEq, Repr

/-- What is known of a block scalar while it is read. -/
structure Block where
  /-- What was read, the last character first. -/
  read : Text
  /-- The line break after the last line. -/
  lineBreak : Text
  /-- The line breaks after that one. -/
  more : Text
  /-- The last line began with a blank. -/
  indented : Bool
  /-- The indentation, or zero before it is known. -/
  indent : Nat
  /-- The widest indentation of the empty lines before the first other one. -/
  widest : Nat
deriving Repr

namespace Block

/-- Starts a line with the character. -/
def startLine (b : Block) (literal : Bool) (c : Char) : Block :=
  let gap :=
    if !literal && b.lineBreak.head? == some '\n' && !b.indented && !isBlank c then
      if b.more.isEmpty then [' '] else []
    else b.lineBreak
  { b with
    read := c :: (b.more.reverse ++ gap.reverse ++ b.read)
    lineBreak := []
    more := []
    indented := isBlank c }

/-- The content of the whole scalar. -/
def content (b : Block) (chomping : Chomping) : Text :=
  b.read.reverse ++ (if chomping = .strip then [] else b.lineBreak) ++
    (if chomping = .keep then b.more else [])

end Block

/-- Reads the lines of a block scalar that began at `start`, inside a collection with the given
indentation; `inLine` says whether a line has been started. -/
def blockLines (literal : Bool) (outer : Int) (start : Mark) :
    Text → Mark → (inLine : Bool) → Block → Except Problem (Block × Cursor)
  | [], m, _, b => .ok (b, ⟨[], m⟩)
  | c :: t, m, inLine, b =>
    let next := m.step c t
    if inLine then
      if isBreak c then
        if joinsNext c t then blockLines literal outer start t next true b
        else blockLines literal outer start t next false { b with lineBreak := breakText c }
      else blockLines literal outer start t next true { b with read := c :: b.read }
    else if c == ' ' && (b.indent == 0 || m.column < b.indent) then
      blockLines literal outer start t next false b
    else if c == '\t' && (b.indent == 0 || m.column < b.indent) then
      .error ⟨.tabForSpace, m, some (.blockScalar, start)⟩
    else if isBreak c then
      if joinsNext c t then blockLines literal outer start t next false b
      else blockLines literal outer start t next false
        { b with more := b.more ++ breakText c, widest := max b.widest m.column }
    else
      let indent :=
        if b.indent == 0 then max (max b.widest m.column) (max (outer + 1).toNat 1) else b.indent
      if m.column == indent then
        blockLines literal outer start t next true ({ b with indent := indent }.startLine literal c)
      else .ok (b, ⟨c :: t, m⟩)

/-- Reads a sign that says what becomes of the line breaks at the end. -/
def chomping? (k : Cursor) : Option Chomping × Cursor :=
  match k.rest.head? with
  | some '+' => (some .keep, k.next)
  | some '-' => (some .strip, k.next)
  | _ => (none, k)

/-- Reads a digit that gives the indentation of the lines, zero if there is none. -/
def indentation (start : Mark) (k : Cursor) : Except Problem (Nat × Cursor) :=
  match k.rest.head? with
  | none => .ok (0, k)
  | some c =>
    if c == '0' then .error ⟨.zeroIndentation, k.mark, some (.blockScalar, start)⟩
    else if c.isDigit then .ok (c.toNat - '0'.toNat, k.next)
    else .ok (0, k)

/-- Reads a block scalar at its first character, inside a collection with the given indentation. A
sign and a digit may follow in either order, then the rest of the line is empty. -/
def blockScalar (literal : Bool) (outer : Int) (k : Cursor) : Except Problem (Text × Cursor) := do
  let start := k.mark
  let (before?, k) := chomping? k.next
  let (width, k) ← indentation start k
  let (chomping?, k) := if before?.isSome then (before?, k) else chomping? k
  let k ← k.skipLine .blockScalar start
  let indent := if width = 0 then 0 else (max outer 0).toNat + width
  let (b, k) ← blockLines literal outer start k.rest k.mark false ⟨[], [], [], false, indent, 0⟩
  .ok (b.content (chomping?.getD .clip), k)

end RtlLiterals.Yaml
