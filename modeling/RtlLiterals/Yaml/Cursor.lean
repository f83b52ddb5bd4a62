import RtlLiterals.Yaml.Problem

/-!
# RtlLiterals.Yaml.Cursor -- where reading stands in a document

A cursor is the text that is left together with its place. Every move takes characters off the
front of the text.
-/

namespace RtlLiterals.Yaml

/-- Where reading stands. -/
structure Cursor where
  rest : Text
  mark : Mark
deriving DecidableEq, Repr, Inhabited

namespace Cursor

/-- Reading starts at the first character. -/
def ofText (t : Text) : Cursor := ⟨t, .origin⟩

/-- Past one character. -/
def next (k : Cursor) : Cursor :=
  match k.rest with
  | [] => k
  | c :: t => ⟨t, k.mark.step c t⟩

/-- Past some characters of a line. -/
def skip (k : Cursor) (n : Nat) : Cursor := ⟨k.rest.drop n, k.mark.along (k.rest.take n)⟩

/-- Past the characters of a line that satisfy a test. -/
def skipWhile (k : Cursor) (p : Char → Bool) : Cursor :=
  ⟨k.rest.dropWhile p, k.mark.along (k.rest.takeWhile p)⟩

/-- Past blanks. -/
def skipBlanks (k : Cursor) : Cursor := k.skipWhile isBlank

/-- Past a comment, if one starts here. -/
def skipComment (k : Cursor) : Cursor :=
  if k.rest.head? = some '#' then k.skipWhile (!isBreak ·) else k

/-- Past a line break, if one is here. -/
def skipBreak (k : Cursor) : Cursor :=
  match k.rest with
  | [] => k
  | c :: t => if joinsNext c t then k.next.next else if isBreak c then k.next else k

/-- Past the rest of a line, which holds nothing but blanks and a comment. -/
def skipLine (k : Cursor) (activity : Activity) (start : Mark) : Except Problem Cursor :=
  let k := k.skipBlanks.skipComment
  if endsLine k.rest then .ok k.skipBreak
  else .error ⟨.lineGoesOn, k.mark, some (activity, start)⟩

/-- A document starts or ends here. -/
def atMarker (k : Cursor) : Bool :=
  k.mark.column == 0 && (startsMarker '-' k.rest || startsMarker '.' k.rest)

end Cursor

end RtlLiterals.Yaml
