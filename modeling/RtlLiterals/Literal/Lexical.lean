import RtlLiterals.Literal.Quote
import RtlLiterals.Literal.Span
import RtlLiterals.Text.Utf8

/-!
# RtlLiterals.Literal.Lexical -- literals of a plain text

The lexical scan reads the source as plain text from left to right. At a delimiter it looks for
the end of a literal: a backslash takes the next character with it, whatever that is, and any
character other than the delimiter and the backslash stands for itself, until the same delimiter
closes. If the source ends first, the delimiter opens nothing and the scan goes on one character
later. Comments are text like any other.

## §A How the scan is written

`body` is the end of one literal, `literalAt?` a literal at the head of a text, and `find` walks
the text with the number of characters still covered by the last literal found, so that it is a
recursion on the text itself. A literal is found by the bytes it takes; `spansFrom` turns these
into offsets in characters with one cursor, which passes the text once.
-/

namespace RtlLiterals

namespace Lexical

/-- The content of a literal that was opened by `q`: the text up to the next `q` that no
backslash takes with it; `none` if the text ends first. -/
def body (q : Char) : Text → Option Text
  | [] => none
  | [c] => if c = q then some [] else none
  | c :: d :: t =>
    if c = q then some []
    else if c = backslash then (body q t).map fun b => c :: d :: b
    else (body q (d :: t)).map (c :: ·)

/-- The content of the literal that starts with the first character `c` of `c :: t`, if one
does. -/
def literalAt? (c : Char) (t : Text) : Option Text := if isQuote c then body c t else none

/-- A literal as it is found: its text, delimiters included, and the bytes that it takes. -/
structure Found where
  /-- The text of the literal with both delimiters. -/
  text : Text
  /-- The first byte of the literal. -/
  start : Nat
  /-- The byte after the literal. -/
  stop : Nat
deriving DecidableEq, Repr

/-- The text between the delimiters. -/
def Found.content (f : Found) : Text := f.text.tail.dropLast

/-- The literals of `t`, which starts at byte `bytes` and whose first `covered` characters belong
to a literal already found. -/
def find (bytes covered : Nat) : Text → List Found
  | [] => []
  | c :: t =>
    match covered with
    | k + 1 => find (bytes + c.utf8Size) k t
    | 0 =>
      match literalAt? c t with
      | some content =>
        let text := c :: content ++ [c]
        ⟨text, bytes, bytes + Text.byteLength text⟩ ::
          find (bytes + c.utf8Size) (content.length + 1) t
      | none => find (bytes + c.utf8Size) 0 t

/-- The spans of literals, given in source order, with the cursor where the last one ended. -/
def spansFrom (cursor : OffsetCursor) : List Found → List Span
  | [] => []
  | f :: fs =>
    let opening := cursor.advance f.start
    let closing := opening.advance f.stop
    ⟨f.content, opening.chars, closing.chars⟩ :: spansFrom closing fs

end Lexical

/-- The quoted literals of a source text, in source order. -/
def lexicalSpans (source : Text) : List Span :=
  Lexical.spansFrom (.start source) (Lexical.find 0 0 source)

end RtlLiterals
