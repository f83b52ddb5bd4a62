import RtlLiterals.Text.Basic

/-!
# RtlLiterals.Text.Utf8 -- bytes and offsets in bytes

Files hold texts as bytes in UTF-8; bytes that are no such encoding hold no text. Literals of a
plain text and nodes of a syntax tree are placed by bytes of the text's encoding in UTF-8. Here
such offsets are turned into slices and into offsets in characters. The conversion is done by a
cursor that moves forward only, so that a whole scan or a walk over a tree passes the text once.
-/

namespace RtlLiterals

namespace Text

/-- The bytes of a text. -/
def toBytes (t : Text) : ByteArray := (String.ofList t).toUTF8

/-- The text that bytes encode. -/
def ofBytes? (b : ByteArray) : Option Text := (String.fromUTF8? b).map String.toList

/-- The number of bytes of a text. -/
def byteLength (t : Text) : Nat := t.foldr (fun c n => c.utf8Size + n) 0

/-- The number of bytes before the character at an offset; for an offset past the end, before the
end. -/
def byteOffset (t : Text) (offset : Nat) : Nat := byteLength (t.take offset)

/-- The text after its first `n` bytes; none if they end inside a character or past the end. -/
def dropBytes? : Nat → Text → Option Text
  | 0, t => some t
  | _ + 1, [] => none
  | n + 1, c :: t => if c.utf8Size ≤ n + 1 then dropBytes? (n + 1 - c.utf8Size) t else none

/-- The first `n` bytes of a text; none if they end inside a character or past the end. -/
def takeBytes? : Nat → Text → Option Text
  | 0, _ => some []
  | _ + 1, [] => none
  | n + 1, c :: t =>
    if c.utf8Size ≤ n + 1 then (takeBytes? (n + 1 - c.utf8Size) t).map (c :: ·) else none

/-- The slice of a text from byte `start` to byte `stop`; none if either is inside a character or
past the end, or if they are out of order. -/
def sliceBytes? (t : Text) (start stop : Nat) : Option Text :=
  if start ≤ stop then (t.dropBytes? start).bind (takeBytes? (stop - start)) else none

end Text

/-- A place in a text that moves forward only, in bytes and in characters. -/
structure OffsetCursor where
  rest : Text
  /-- The number of bytes before the place. -/
  bytes : Nat
  /-- The number of characters before the place. -/
  chars : Nat
deriving DecidableEq, Repr

namespace OffsetCursor

/-- The cursor at the start of a text. -/
def start (source : Text) : OffsetCursor := ⟨source, 0, 0⟩

/-- The cursor at the first character that starts at byte `target` or later, `rest` following the
given numbers of bytes and characters. -/
def seek (target : Nat) : (rest : Text) → (bytes chars : Nat) → OffsetCursor
  | [], bytes, chars => ⟨[], bytes, chars⟩
  | c :: rest, bytes, chars =>
    if bytes < target then seek target rest (bytes + c.utf8Size) (chars + 1)
    else ⟨c :: rest, bytes, chars⟩

/-- Moves to byte `target`, or to the end of the text if that comes first; a target behind the
cursor does not move it. -/
def advance (c : OffsetCursor) (target : Nat) : OffsetCursor := seek target c.rest c.bytes c.chars

end OffsetCursor

end RtlLiterals
