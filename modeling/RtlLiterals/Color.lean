import RtlLiterals.Text.Digit

/-!
# RtlLiterals.Color -- colours written in hexadecimal

A colour has three channels of eight bits. It is written as six hexadecimal digits, upper or lower
case alike, after an optional `#`.
-/

namespace RtlLiterals

/-- A colour by its channels. -/
structure Color where
  red : UInt8
  green : UInt8
  blue : UInt8
deriving DecidableEq, Repr

namespace Color

/-- The channel written by two hexadecimal digits. -/
def channel (high low : Nat) : UInt8 := UInt8.ofNat (16 * high + low)

/-- The text without one leading `#`. -/
def withoutHash : Text → Text
  | '#' :: t => t
  | t => t

/-- The colour that six hexadecimal digits write, after an optional `#`. -/
def ofHex? (t : Text) : Option Color :=
  match (withoutHash t).map Text.hexValue? with
  | [some a, some b, some c, some d, some e, some f] =>
    some ⟨channel a b, channel c d, channel e f⟩
  | _ => none

/-- What is said of a text that writes no colour. -/
def invalidMessage (t : Text) : Text := Text.ofString "Invalid color format: " ++ t

end Color

end RtlLiterals
