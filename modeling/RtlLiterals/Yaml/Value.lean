import RtlLiterals.Number.Reading
import RtlLiterals.Number.Shortest
import RtlLiterals.Text.Quoted
import RtlLiterals.Yaml.Node

/-!
# RtlLiterals.Yaml.Value -- what scalars stand for

A plain scalar may be a word for nothing, for a truth value or for a number; otherwise it is text.
A tag can ask for one of these, and then the scalar has to be one.

Whole numbers are written in decimal, or with `0x`, `0o` or `0b` in another base. Digits after a
leading zero are no number but text.
-/

namespace RtlLiterals.Yaml

/-- What a node stands for. -/
inductive Value where
  | null
  | boolean (b : Bool)
  /-- A whole number of at most 64 bits. -/
  | integer (n : Int)
  /-- A whole number of more than 64 and at most 128 bits. -/
  | wideInteger (n : Int)
  | float (x : Binary64)
  | text (t : Text)
  | sequence
  | mapping
deriving DecidableEq, Repr

/-! ### Words -/

/-- A word for nothing. -/
def isNullWord (t : Text) : Bool :=
  ["null", "Null", "NULL", "~"].any fun w => Text.ofString w == t

/-- The truth value of a word. -/
def booleanWord? (t : Text) : Option Bool :=
  if ["true", "True", "TRUE"].any fun w => Text.ofString w == t then some true
  else if ["false", "False", "FALSE"].any fun w => Text.ofString w == t then some false
  else none

/-! ### Numbers -/

/-- The base that the start of a number names, and its digits. -/
def baseOf (t : Text) : Nat × Text :=
  match t with
  | '0' :: 'x' :: ds => (16, ds)
  | '0' :: 'o' :: ds => (8, ds)
  | '0' :: 'b' :: ds => (2, ds)
  | _ => (10, t)

/-- The text without a sign at its start. -/
def unsigned (t : Text) : Text :=
  match t with
  | '-' :: ds | '+' :: ds => ds
  | _ => t

/-- Digits after a leading zero. -/
def hasLeadingZero (t : Text) : Bool :=
  match unsigned t with
  | '0' :: d :: ds => (d :: ds).all Char.isDigit
  | _ => false

/-- The whole number that a text writes. -/
def whole? (t : Text) : Option Int :=
  if hasLeadingZero t then none
  else
    let (base, digits) := baseOf (unsigned t)
    (natIn? base digits).map fun n => if t.head? = some '-' then -(n : Int) else n

/-- A whole number as a value, if it is not too long. -/
def Value.ofInt? (n : Int) : Option Value :=
  let fits (least bound : Nat) : Bool := decide (-(least : Int) ≤ n) && decide (n < (bound : Int))
  if fits (Binary64.twoTo 63) (Binary64.twoTo 64) then some (.integer n)
  else if fits (Binary64.twoTo 127) (Binary64.twoTo 128) then some (.wideInteger n)
  else none

/-- A word for infinity. -/
def isInfinityWord (t : Text) : Bool :=
  [".inf", ".Inf", ".INF"].any fun w => Text.ofString w == t

/-- A word for what is not a number. -/
def isNanWord (t : Text) : Bool :=
  [".nan", ".NaN", ".NAN"].any fun w => Text.ofString w == t

/-- The number that a text writes. Decimals outside the range of numbers write none. -/
def float? (t : Text) : Option Binary64 :=
  let plus := t.head? = some '+'
  let body := if plus then t.drop 1 else t
  if plus ∧ (body.head? = some '+' ∨ body.head? = some '-') then none
  else if isInfinityWord body then some (.infinite false)
  else if t.head? = some '-' ∧ isInfinityWord (t.drop 1) then some (.infinite true)
  else if isNanWord t then some .nan
  else (Binary64.ofText? body).filter Binary64.isFinite

/-! ### Scalars -/

/-- What a plain scalar without a tag stands for. -/
def Value.ofPlain (t : Text) : Value :=
  if t.isEmpty ∨ isNullWord t then .null
  else
    match booleanWord? t with
    | some b => .boolean b
    | none =>
      match (whole? t).bind Value.ofInt? with
      | some v => v
      | none =>
        if hasLeadingZero t then .text t
        else
          match float? t with
          | some x => .float x
          | none => .text t

/-- A tag with a name of the format itself. -/
def coreTag (name : String) : TagText := .ofText (Text.ofString "tag:yaml.org,2002:" ++ Text.ofString name)

/-- The tag of truth values. -/
def booleanTag : TagText := coreTag "bool"

/-- The tag of whole numbers. -/
def integerTag : TagText := coreTag "int"

/-- The tag of numbers. -/
def floatTag : TagText := coreTag "float"

/-- The tag of nothing. -/
def nullTag : TagText := coreTag "null"

/-- The tag is one of the document's own. -/
def isOwnTag (tag : TagText) : Bool := tag.head? == some (some '!')

/-- What a scalar stands for, or what its tag asks for in vain. -/
def Value.ofScalar (tag : Option TagText) (style : ScalarStyle) (t : Text) : Except String Value :=
  match tag with
  | none => .ok (if style = .plain then .ofPlain t else .text t)
  | some tag =>
    if tag = booleanTag then
      match booleanWord? t with
      | some b => .ok (.boolean b)
      | none => .error "a boolean"
    else if tag = integerTag then
      match (whole? t).bind Value.ofInt? with
      | some v => .ok v
      | none => .error "an integer"
    else if tag = floatTag then
      match float? t with
      | some x => .ok (.float x)
      | none => .error "a float"
    else if tag = nullTag then
      if isNullWord t then .ok .null else .error "null"
    else .ok (if isOwnTag tag ∧ style = .plain then .ofPlain t else .text t)

/-! ### Messages -/

namespace Value

/-- A text between grave accents. -/
def marked (t : Text) : Text := '\x60' :: t ++ ['\x60']

/-- A number with a point, unless it is not finite. -/
def floatText (x : Binary64) : Text :=
  let t := x.positional
  if x.isFinite && !t.contains '.' then t ++ Text.ofString ".0" else t

/-- The value as messages name it. -/
def shown : Value → Text
  | null => Text.ofString "unit value"
  | boolean b => Text.ofString "boolean " ++ marked (Text.ofString (if b then "true" else "false"))
  | integer n => Text.ofString "integer " ++ marked (Binary64.signedText n)
  | wideInteger n =>
    Text.ofString "integer " ++ marked (Binary64.signedText n) ++
      Text.ofString (if 0 ≤ n then " as u128" else " as i128")
  | float x => Text.ofString "floating point " ++ marked (floatText x)
  | text t => Text.ofString "string " ++ Text.quoted t
  | sequence => Text.ofString "sequence"
  | mapping => Text.ofString "map"

end Value

end RtlLiterals.Yaml
