import RtlLiterals.Grammar.Automaton

/-!
# RtlLiterals.Parse.HandReader -- tokens that patterns cannot describe

Some tokens depend on more than their own text: a line break that ends a statement, the text of a
template, nested comments, raw strings with their number of hashes. They are read by hand. A hand
reader is told which of its tokens are expected and may remember a number between tokens.

## §A Conventions

A reader works on places of the text. At the end of the text, and at a null character, it sees the
null character. Blanks are the ASCII blanks. A token that was skipped over before it started is
preceded by blanks; a token that ends before it starts takes no room.
-/

namespace RtlLiterals.Parse

/-- A token read by hand. -/
structure HandRead where
  token : Nat
  start : Nat
  stop : Nat
  /-- What is remembered after it. -/
  memory : Option Nat
deriving Inhabited

/-- A hand reader: from the text, a place, the expected tokens and what is remembered. -/
abbrev HandReader := Array Char → Nat → (Nat → Bool) → Option Nat → Option HandRead

namespace HandReader

/-- The character at a place; the null character at the end. -/
def peek (input : Array Char) (p : Nat) : Char := input.getD p '\x00'

/-- An ASCII blank. -/
def isBlank (c : Char) : Bool := c == ' ' || ('\t' ≤ c && c ≤ '\r')

/-- An ASCII digit. -/
def isNumeral (c : Char) : Bool := '0' ≤ c && c ≤ '9'

/-- A character that breaks lines in scripts. -/
def isLineBreak (c : Char) : Bool := c == '\n' || c == '\u2028' || c == '\u2029'

/-- The first place from `p` on whose character fails the test. -/
def skipWhile (input : Array Char) (test : Char → Bool) : Nat → Nat → Nat
  | 0, p => p
  | fuel + 1, p => if test (peek input p) then skipWhile input test fuel (p + 1) else p

/-- The number of places from `p` to the end, and one more. -/
def room (input : Array Char) (p : Nat) : Nat := input.size + 1 - p

/-- The first place from `p` on that is no blank. -/
def skipBlanks (input : Array Char) (p : Nat) : Nat := skipWhile input isBlank (room input p) p

/-- The place after the longest common beginning of the text at `p` and a word; none if the word
is not there. -/
def expectWord (input : Array Char) : List Char → Nat → Option Nat
  | [], p => some p
  | c :: cs, p => if peek input p == c then expectWord input cs (p + 1) else none

/-! ### Templates -/

/-- The text of a template up to a backtick, a backslash or a substitution. -/
def templateChars (input : Array Char) : Nat → Nat → Bool → Option Nat
  | 0, _, _ => none
  | fuel + 1, p, hasContent =>
    let c := peek input p
    if c == '\x60' || c == '\\' then if hasContent then some p else none
    else if c == '\x00' then none
    else if c == '$' then
      if peek input (p + 1) == '\x7b' then if hasContent then some p else none
      else templateChars input fuel (p + 1) true
    else templateChars input fuel (p + 1) true

/-! ### Text between tags -/

/-- The text between tags up to a brace, an angle bracket or an ampersand. White space that
contains a line break does not count as text. -/
def tagText (input : Array Char) : Nat → Nat → Bool → Bool → Option Nat
  | 0, _, _, _ => none
  | fuel + 1, p, sawText, atNewline =>
    let c := peek input p
    if c == '\x00' || c == '<' || c == '>' || c == '\x7b' || c == '\x7d' || c == '&' then
      if sawText then some p else none
    else if c == '\n' then tagText input fuel (p + 1) sawText true
    else
      let atNewline := atNewline && isBlank c
      tagText input fuel (p + 1) (sawText || !atNewline) atNewline

/-! ### Comments in the style of markup -/

/-- A line that starts with the opening or the closing mark of a markup comment. -/
def markupComment (input : Array Char) (p : Nat) : Option (Nat × Nat) :=
  let start := skipWhile input (fun c => isBlank c || isLineBreak c) (room input p) p
  let mark := if peek input start == '<' then "<!--".toList else "-->".toList
  (expectWord input mark start).map fun p =>
    (start, skipWhile input (fun c => c != '\x00' && !isLineBreak c) (room input p) p)

/-! ### Statement ends -/

/-- What was found between two tokens. -/
inductive Gap where
  /-- Something that is neither blank nor comment: a division. -/
  | reject
  /-- A comment without a line break. -/
  | noNewline
  /-- Blanks and comments. -/
  | accept
deriving BEq

/-- The end of a block comment from inside it, and whether a line break was passed. -/
def blockCommentEnd (input : Array Char) : Nat → Nat → Bool → Nat × Bool × Bool
  | 0, p, saw => (p, saw, false)
  | fuel + 1, p, saw =>
    let c := peek input p
    if c == '\x00' then (p, saw, false)
    else if c == '*' then
      if peek input (p + 1) == '/' then (p + 2, saw, true) else blockCommentEnd input fuel (p + 1) saw
    else blockCommentEnd input fuel (p + 1) (saw || isLineBreak c)

/-- Blanks and comments from `p` on. With `consume`, comments are passed to their end whatever
follows them. Gives what was found, the place after it and whether there was a comment. -/
def gap (input : Array Char) (consume : Bool) : Nat → Nat → Bool → Bool → Gap × Nat × Bool
  | 0, p, comment, _ => (.accept, p, comment)
  | fuel + 1, p, comment, saw =>
    let p := skipBlanks input p
    if peek input p != '/' then (.accept, p, comment)
    else
      let c := peek input (p + 1)
      if c == '/' then
        let q := skipWhile input (fun c => c != '\x00' && !isLineBreak c) (room input p) (p + 2)
        gap input consume fuel q true saw
      else if c == '*' then
        let (q, saw, closed) := blockCommentEnd input (room input p) (p + 2) saw
        if closed && peek input q != '/' && !consume then
          (if saw then .accept else .noNewline, q, true)
        else gap input consume fuel q (comment || closed) saw
      else (.reject, p + 1, comment)

/-- The answer to whether a statement ends: yes or no, with the place reached and whether a comment
was passed. -/
structure StatementEnd where
  ends : Bool
  pos : Nat
  comment : Bool

/-- After a line break: the word at `p` is neither `in` nor `instanceof`. -/
def isNoRelation (input : Array Char) (p : Nat) : Bool :=
  if peek input (p + 1) != 'n' then true
  else if !(peek input (p + 2)).isAlpha then false
  else
    match expectWord input "stanceof".toList (p + 2) with
    | none => true
    | some q => (peek input q).isAlpha

/-- Whether a statement of a plain script ends at `p`, that is, before a closing brace, at the end
of the text or at a line break after which the statement cannot go on. -/
def scriptEnd (input : Array Char) (commentEnds : Bool) : Nat → Nat → Bool → StatementEnd
  | 0, p, comment => ⟨false, p, comment⟩
  | fuel + 1, p, comment =>
    if peek input p == '\x00' then ⟨true, p, comment⟩
    else
      let (found, q, comment) :=
        if peek input p == '/' then gap input false (room input p) p comment false
        else (.noNewline, p, comment)
      if found == .reject then ⟨false, q, comment⟩
      else if peek input p == '/' && found == .accept && commentEnds && peek input q != ',' &&
          peek input q != '=' then ⟨true, q, comment⟩
      else
        let c := peek input q
        if c == '\x7d' then ⟨true, q, comment⟩
        else if isLineBreak c then
          let (found, p, comment) := gap input true (room input q) (q + 1) comment false
          if found == .reject then ⟨false, p, comment⟩
          else
            let c := peek input p
            if "`,:;*%><=[(?^|&/".contains c then ⟨false, p, comment⟩
            else if c == '.' then ⟨isNumeral (peek input (p + 1)), p + 1, comment⟩
            else if c == '+' then ⟨peek input (p + 1) == '+', p + 1, comment⟩
            else if c == '-' then ⟨peek input (p + 1) == '-', p + 1, comment⟩
            else if c == '!' then ⟨peek input (p + 1) != '=', p + 1, comment⟩
            else if c == 'i' then ⟨isNoRelation input p, p + 1, comment⟩
            else ⟨true, p, comment⟩
        else if !isBlank c then ⟨false, q, comment⟩
        else scriptEnd input commentEnds fuel (q + 1) comment

/-- The question mark of a conditional expression in a plain script. -/
def scriptQuestion (input : Array Char) (p : Nat) : Option (Nat × Nat) :=
  let start := skipBlanks input p
  if peek input start != '?' then none
  else
    let c := peek input (start + 1)
    if c == '?' then none
    else if c == '.' && !isNumeral (peek input (start + 2)) then none
    else some (start, start + 1)

/-- The reader of plain scripts. Its tokens are: the end of a statement, the text of a template,
the question mark of a conditional, a markup comment, then four that are only asked about: the
`||` operator, an escape, the pattern of a regular expression; and the text between tags. -/
def script : HandReader := fun input p valid _ =>
  let p := if p = 0 && peek input 0 == '\uFEFF' then 1 else p
  let question (q : Nat) : Option HandRead :=
    (scriptQuestion input q).map fun (a, b) => ⟨2, a, b, none⟩
  if valid 1 then
    if valid 0 then none
    else (templateChars input (room input p) p false).map fun stop => ⟨1, p, stop, none⟩
  else
    match if valid 7 then tagText input (room input p) p false false else none with
    | some stop => some ⟨7, p, stop, none⟩
    | none =>
      if valid 0 then
        let e := scriptEnd input (!valid 4) (room input p) p false
        if e.ends then some ⟨0, p, p, none⟩
        else if !e.comment && valid 2 && peek input e.pos == '?' then question e.pos
        else none
      else if valid 2 then question p
      else if valid 3 && !valid 4 && !valid 5 && !valid 6 then
        (markupComment input p).map fun (a, b) => ⟨3, a, b, none⟩
      else none

/-! ### Scripts with types -/

/-- Blanks and comments from `p` on, up to something else; none if that is a division. -/
def typedGap (input : Array Char) : Nat → Nat → Bool → Option Nat × Nat × Bool
  | 0, p, comment => (some p, p, comment)
  | fuel + 1, p, comment =>
    let p := skipBlanks input p
    if peek input p != '/' then (some p, p, comment)
    else
      let c := peek input (p + 1)
      if c == '/' then
        let q := skipWhile input (fun c => c != '\x00' && c != '\n') (room input p) (p + 2)
        typedGap input fuel q true
      else if c == '*' then
        let (q, _, _) := blockCommentEnd input (room input p) (p + 2) false
        typedGap input fuel q comment
      else (none, p + 1, comment)

/-- Whether a statement of a typed script ends at `p`. -/
def typedEnd (input : Array Char) (valid : Nat → Bool) : Nat → Nat → StatementEnd
  | 0, p => ⟨false, p, false⟩
  | fuel + 1, p =>
    let c := peek input p
    if c == '\x00' then ⟨true, p, false⟩
    else if c == '\x7d' then
      let q := skipBlanks input (p + 1)
      ⟨peek input q != ':' || valid 4, q, false⟩
    else if !isBlank c then ⟨false, p, false⟩
    else if c == '\n' then
      let (found, p, comment) := typedGap input (room input p) (p + 1) false
      match found with
      | none => ⟨false, p, comment⟩
      | some p =>
        let c := peek input p
        if "`,.;*%><=?^|&/:".contains c then ⟨false, p, comment⟩
        else if c == '\x7b' then ⟨!valid 8, p, comment⟩
        else if c == '(' || c == '[' then ⟨!valid 4, p, comment⟩
        else if c == '+' then ⟨peek input (p + 1) == '+', p + 1, comment⟩
        else if c == '-' then ⟨peek input (p + 1) == '-', p + 1, comment⟩
        else if c == '!' then ⟨peek input (p + 1) != '=', p + 1, comment⟩
        else if c == 'i' then ⟨isNoRelation input p, p + 1, comment⟩
        else ⟨true, p, comment⟩
    else typedEnd input valid fuel (p + 1)

/-- The question mark of a conditional expression in a typed script: not one before a colon, a
closing parenthesis or a comma, which marks something as optional. -/
def typedQuestion (input : Array Char) (p : Nat) : Option (Nat × Nat) :=
  let start := skipBlanks input p
  if peek input start != '?' then none
  else
    let c := peek input (start + 1)
    if c == '?' || c == '.' then none
    else
      let q := skipBlanks input (start + 1)
      let d := peek input q
      if d == ':' || d == ')' || d == ',' then none
      else if d == '.' && !isNumeral (peek input (q + 1)) then none
      else some (start, start + 1)

/-- The reader of typed scripts: the tokens of plain scripts, and a mark that the end of a function
signature is expected. -/
def typedScript : HandReader := fun input p valid _ =>
  let p := if p = 0 && peek input 0 == '\uFEFF' then 1 else p
  let question (q : Nat) : Option HandRead :=
    (typedQuestion input q).map fun (a, b) => ⟨2, a, b, none⟩
  if valid 1 then
    if valid 0 then none
    else (templateChars input (room input p) p false).map fun stop => ⟨1, p, stop, none⟩
  else
    match if valid 7 then tagText input (room input p) p false false else none with
    | some stop => some ⟨7, p, stop, none⟩
    | none =>
      if valid 0 || valid 8 then
        let e := typedEnd input valid (room input p) p
        if e.ends then some ⟨0, p, p, none⟩
        else if !e.comment && valid 2 && peek input e.pos == '?' then question e.pos
        else none
      else if valid 2 then question p
      else if valid 3 && !valid 4 && !valid 5 && !valid 6 then
        (markupComment input p).map fun (a, b) => ⟨3, a, b, none⟩
      else none

/-! ### Raw strings, floating-point numbers and nested comments -/

/-- A digit or an underscore. -/
def isNumberChar (c : Char) : Bool := c == '_' || isNumeral c

/-- The start of a raw string: its end and its number of hashes. -/
def rawStart (input : Array Char) (p : Nat) : Option (Nat × Nat) :=
  let p := if peek input p == 'b' || peek input p == 'c' then p + 1 else p
  if peek input p != 'r' then none
  else
    let q := skipWhile input (· == '#') (room input p) (p + 1)
    if peek input q == '\x22' then some (q + 1, (q - (p + 1)) % 256) else none

/-- The text of a raw string: up to a double quote with the given number of hashes after it. -/
def rawContent (input : Array Char) (hashes : Nat) : Nat → Nat → Option Nat
  | 0, _ => none
  | fuel + 1, p =>
    if input.size ≤ p then none
    else if peek input p == '\x22' then
      let q := skipWhile input (· == '#') hashes (p + 1)
      if q - (p + 1) = hashes then some p else rawContent input hashes fuel q
    else rawContent input hashes fuel (p + 1)

/-- The end of a number with a fraction or an exponent; none for a whole number. -/
def floatEnd (input : Array Char) (p : Nat) : Option Nat :=
  let digitsFrom (p : Nat) : Nat := skipWhile input isNumberChar (room input p) p
  let whole := digitsFrom (p + 1)
  let hasFraction := peek input whole == '.'
  let c := peek input (whole + 1)
  if hasFraction && (c.isAlpha || c == '.') then none
  else
    let stop := if hasFraction then digitsFrom (whole + 1) else whole
    let hasExponent := peek input stop == 'e' || peek input stop == 'E'
    let sign := peek input (stop + 1)
    let q := if sign == '+' || sign == '-' then stop + 2 else stop + 1
    if hasExponent && !isNumberChar (peek input q) then some stop
    else
      let stop := if hasExponent then digitsFrom (q + 1) else stop
      if !hasFraction && !hasExponent then none
      else
        let suffix := peek input stop
        if suffix == 'u' || suffix == 'i' || suffix == 'f' then
          if isNumeral (peek input (stop + 1)) then
            some (skipWhile input isNumeral (room input stop) (stop + 1))
          else some stop
        else some stop

/-- Where the reading of a nested comment stands. -/
inductive CommentPhase where
  | slash
  | asterisk
  | other

/-- The last eight bits of a code point, which is all that the comment reader looks at. -/
def lowByte (c : Char) : Nat := c.toNat % 256

/-- The end of the text of a nested block comment; `stop` is the end found so far, and where none
was found the text ends where the reading ends. -/
def nestedComment (input : Array Char) : Nat → Nat → CommentPhase → Nat → Option Nat → Nat
  | 0, p, _, _, stop => stop.getD p
  | fuel + 1, p, phase, depth, stop =>
    if input.size ≤ p || depth = 0 then stop.getD p
    else
      let c := lowByte (peek input p)
      let star := c == '*'.toNat
      let slash := c == '/'.toNat
      let (phase, depth, stop) : CommentPhase × Nat × Option Nat := match phase with
        | .slash => (.other, if star then depth + 1 else depth, stop)
        | .asterisk =>
          if star then (.asterisk, depth, some p)
          else (.other, if slash then depth - 1 else depth, stop)
        | .other => (if slash then .slash else if star then .asterisk else .other, depth, some p)
      nestedComment input fuel (p + 1) phase depth
        (if slash && depth != 0 then some (p + 1) else stop)

/-- The marks of documentation in a block comment, and its text. -/
def blockComment (input : Array Char) (p : Nat) (valid : Nat → Bool) : Option (Nat × Nat) :=
  let first := lowByte (peek input p)
  let star := first == '*'.toNat
  let next := peek input (p + 1)
  let after := if p < input.size then p + 1 else p
  if valid 6 && first == '!'.toNat then some (6, after)
  else if valid 5 && star && next == '/' then none
  else if valid 5 && star && next != '*' then some (5, after)
  else if !valid 7 then none
  else if star && next == '/' then none
  else
    let phase : CommentPhase :=
      if star then .asterisk else if first == '/'.toNat then .slash else .other
    let marked := if valid 5 && star then some after else none
    some (7, nestedComment input (room input p) after phase 1 marked)

/-- The reader of programs with raw strings. Its tokens are: the text of a string, the start, text
and end of a raw string, a floating-point number, the outer and inner mark of a documentation
comment, the text of a block comment, the text of a documentation line, and a mark that an error is
being recovered from. It remembers the number of hashes of a raw string. -/
def rawStrings : HandReader := fun input p valid memory =>
  let p := if p = 0 && peek input 0 == '\uFEFF' then 1 else p
  let hashes := memory.getD 0
  let found (token start stop hashes : Nat) : Option HandRead := some ⟨token, start, stop, some hashes⟩
  if valid 9 then none
  else if valid 5 || valid 6 || valid 7 then
    (blockComment input p valid).bind fun (token, stop) => found token p stop hashes
  else if valid 0 && !valid 4 then
    let stop := skipWhile input (fun c => c != '\x22' && c != '\\') (input.size - p) p
    if input.size ≤ stop || stop = p then none else found 0 p stop hashes
  else if valid 8 then
    let stop := skipWhile input (· != '\n') (input.size - p) p
    found 8 p (if stop < input.size then stop + 1 else stop) hashes
  else
    let start := skipBlanks input p
    let c := peek input start
    if valid 1 && (c == 'r' || c == 'b' || c == 'c') then
      (rawStart input start).bind fun (stop, n) => found 1 start stop n
    else if valid 2 then
      (rawContent input hashes (room input start) start).bind fun stop => found 2 start stop hashes
    else if valid 3 && c == '\x22' then found 3 start (min input.size (start + 1 + hashes)) hashes
    else if valid 4 && isNumeral c then
      (floatEnd input start).bind fun stop => found 4 start stop hashes
    else none

end HandReader

end RtlLiterals.Parse
