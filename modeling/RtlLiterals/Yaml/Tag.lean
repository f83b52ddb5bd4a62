import RtlLiterals.Yaml.Cursor

/-!
# RtlLiterals.Yaml.Tag -- tags and anchors

A tag is written as a handle, between exclamation marks, and the rest of its text; or whole,
between angle brackets. A percent sign and two digits stand for an octet. The octets of one
character stand together, but nothing makes sure that they spell one. A tag ends before its first
null character.

Anchors and references to them are short words after a sign of their own.
-/

namespace RtlLiterals.Yaml

/-- The text of a tag, or of a part of one: its characters, and nothing for octets that spell
none. -/
abbrev TagText := List (Option Char)

/-- A text without octets, as the text of a tag. -/
def TagText.ofText (t : Text) : TagText := t.map some

/-- The text, if its octets spell one. -/
def TagText.text? (t : TagText) : Option Text := t.mapM id

/-- The character may stand in a tag; `whole` says that it stands between angle brackets or in a
directive. -/
def isTagChar (whole : Bool) (c : Char) : Bool :=
  isNameChar c ||
    [';', '/', '?', ':', '@', '&', '=', '+', '$', '.', '%', '!', '~', '*', '\x27', '(', ')'].contains c ||
    (whole && (c == ',' || c == '[' || c == ']'))

/-! ### Octets -/

/-- How many octets the character has that starts with this one. -/
def octetWidth? (n : Nat) : Option Nat :=
  if n < 0x80 then some 1
  else if n < 0xC0 then none
  else if n < 0xE0 then some 2
  else if n < 0xF0 then some 3
  else if n < 0xF8 then some 4
  else none

/-- The bits of a character in its first octet. -/
def leadingBits (width n : Nat) : Nat :=
  match width with
  | 1 => n
  | 2 => n % 0x20
  | 3 => n % 0x10
  | _ => n % 0x08

/-- The character with a number, written in as few octets as it needs. -/
def charOfOctets? (width n : Nat) : Option Char :=
  let least := match width with
    | 1 => 0
    | 2 => 0x80
    | 3 => 0x800
    | _ => 0x10000
  if n < least ∨ (0xD800 ≤ n ∧ n ≤ 0xDFFF) ∨ 0x10FFFF < n then none else some (Char.ofNat n)

/-- The octet after a percent sign. -/
def octet? : Text → Option (Nat × Text)
  | '%' :: a :: b :: t =>
    match hexValue? a, hexValue? b with
    | some x, some y => some (16 * x + y, t)
    | _, _ => none
  | _ => none

/-- The octets of a character after the first one, some of them left to read. -/
def moreOctets (activity : Activity) (start : Mark) :
    (left : Nat) → (value : Nat) → Cursor → Except Problem (Nat × Cursor)
  | 0, value, k => .ok (value, k)
  | left + 1, value, k =>
    match octet? k.rest with
    | none => .error ⟨.noOctet, k.mark, some (activity, start)⟩
    | some (n, _) =>
      if n < 0x80 ∨ 0xC0 ≤ n then .error ⟨.badNextOctet, k.mark, some (activity, start)⟩
      else moreOctets activity start left (value * 0x40 + n % 0x40) (k.skip 3)

/-- The character that octets spell, if they spell one. -/
def escapedOctets (activity : Activity) (start : Mark) (k : Cursor) :
    Except Problem (Option Char × Cursor) :=
  match octet? k.rest with
  | none => .error ⟨.noOctet, k.mark, some (activity, start)⟩
  | some (n, _) =>
    match octetWidth? n with
    | none => .error ⟨.badFirstOctet, k.mark, some (activity, start)⟩
    | some width =>
      (moreOctets activity start (width - 1) (leadingBits width n) (k.skip 3)).map
        fun (value, k) => (charOfOctets? width value, k)

/-! ### The text of a tag -/

/-- Reads the characters of a tag, of which there are at most as many as the first argument. -/
def tagChars (whole : Bool) (activity : Activity) (start : Mark) :
    Nat → Cursor → Except Problem (TagText × Cursor)
  | 0, k => .ok ([], k)
  | n + 1, k =>
    match k.rest with
    | [] => .ok ([], k)
    | c :: _ =>
      if !isTagChar whole c then .ok ([], k)
      else do
        let (d, k) ← if c == '%' then escapedOctets activity start k else .ok (some c, k.next)
        let (ds, k) ← tagChars whole activity start n k
        .ok (d :: ds, k)

/-- The text of a tag up to its first null character. -/
def TagText.beforeNull (t : TagText) : TagText := t.takeWhile (· != some (Char.ofNat 0))

/-- Reads the text of a tag; `before` is what was read of it, an exclamation mark first. -/
def tagText (whole : Bool) (activity : Activity) (start : Mark) (before : Text) (k : Cursor) :
    Except Problem (TagText × Cursor) := do
  let (ds, k) ← tagChars whole activity start k.rest.length k
  if before.isEmpty ∧ ds.isEmpty then .error ⟨.noTagText, k.mark, some (activity, start)⟩
  else .ok (TagText.beforeNull (.ofText (before.drop 1) ++ ds), k)

/-- A handle at the cursor, and the cursor after it: an exclamation mark, characters of a name and,
if it is there, one more exclamation mark. -/
def handle (k : Cursor) : Text × Cursor :=
  let name := k.next.rest.takeWhile isNameChar
  let after := k.next.skip name.length
  if after.rest.head? = some '!' then ('!' :: name ++ ['!'], after.next) else ('!' :: name, after)

/-- The handle is closed by an exclamation mark of its own. -/
def isClosedHandle (h : Text) : Bool := 1 < h.length && h.getLast? == some '!'

/-- Reads a tag at its exclamation mark: its handle, which is empty for a tag that is written
whole, and the rest of its text. -/
def tag (inFlow : Bool) (k : Cursor) : Except Problem (Text × TagText × Cursor) := do
  let start := k.mark
  let (h, text, k) ←
    if k.rest.take 2 = ['!', '<'] then do
      let (text, k) ← tagText true .tagText start [] (k.skip 2)
      if k.rest.head? = some '>' then .ok ([], text, k.next)
      else .error ⟨.tagNotClosed, k.mark, some (.tag, start)⟩
    else
      let (h, k) := handle k
      if isClosedHandle h then do
        let (text, k) ← tagText false .tagText start [] k
        .ok (h, text, k)
      else do
        let (text, k) ← tagText false .tagText start h k
        if text.isEmpty then .ok ([], .ofText ['!'], k) else .ok (['!'], text, k)
  if endsWord k.rest ∨ (inFlow ∧ k.rest.head? = some ',') then .ok (h, text, k)
  else .error ⟨.noBlankOrBreak, k.mark, some (.tag, start)⟩

/-! ### Directives -/

/-- A line that says how to read the document after it. -/
inductive Directive where
  | version (major minor : Nat)
  | tag (handle : Text) (text : TagText)
deriving DecidableEq, Repr

/-- Reads a number of a version, of at most nine digits. -/
def versionNumber (start : Mark) (k : Cursor) : Except Problem (Nat × Cursor) :=
  let digits := k.rest.takeWhile Char.isDigit
  if digits.isEmpty then .error ⟨.noVersionNumber, k.mark, some (.versionDirective, start)⟩
  else if 9 < digits.length then
    .error ⟨.longVersionNumber, (k.skip 9).mark, some (.versionDirective, start)⟩
  else .ok (digits.foldl (fun n c => 10 * n + (c.toNat - '0'.toNat)) 0, k.skip digits.length)

/-- Reads the version of a directive. -/
def versionDirective (start : Mark) (k : Cursor) : Except Problem (Directive × Cursor) := do
  let (major, k) ← versionNumber start k.skipBlanks
  if k.rest.head? = some '.' then do
    let (minor, k) ← versionNumber start k.next
    .ok (.version major minor, k)
  else .error ⟨.noVersionPoint, k.mark, some (.versionDirective, start)⟩

/-- The text goes on with a blank. -/
def startsBlank (t : Text) : Bool := t.head?.any isBlank

/-- Reads the handle of a directive and what it stands for. -/
def tagDirective (start : Mark) (k : Cursor) : Except Problem (Directive × Cursor) := do
  let k := k.skipBlanks
  if k.rest.head? ≠ some '!' then
    .error ⟨.noHandleMark, k.mark, some (.tagDirectiveStart, start)⟩
  else
    let (h, k) := handle k
    if h ≠ ['!'] ∧ !isClosedHandle h then
      .error ⟨.noHandleMark, k.mark, some (.tagDirectiveHandle, start)⟩
    else if !startsBlank k.rest then
      .error ⟨.noBlank, k.mark, some (.tagDirectiveValue, start)⟩
    else do
      let (text, k) ← tagText true .tagDirectiveText start [] k.skipBlanks
      if endsWord k.rest then .ok (.tag h text, k)
      else .error ⟨.noBlankOrBreak, k.mark, some (.tagDirectiveValue, start)⟩

/-- Reads a directive at its percent sign, and the rest of its line; the first cursor stands after
the directive, the second after the line. -/
def directive (k : Cursor) : Except Problem (Directive × Cursor × Cursor) := do
  let start := k.mark
  let name := k.next.rest.takeWhile isNameChar
  let k := k.next.skip name.length
  if name.isEmpty then .error ⟨.noDirectiveName, k.mark, some (.directive, start)⟩
  else if !endsWord k.rest then .error ⟨.badDirectiveName, k.mark, some (.directive, start)⟩
  else do
    let (d, k) ←
      if name = Text.ofString "YAML" then versionDirective start k
      else if name = Text.ofString "TAG" then tagDirective start k
      else .error ⟨.unknownDirective, k.mark, some (.directive, start)⟩
    let after ← k.skipLine .directive start
    .ok (d, k, after)

/-! ### Anchors -/

/-- The text may follow the name of an anchor. -/
def endsAnchor (t : Text) : Bool :=
  endsWord t || t.head?.any fun c => ['?', ':', ',', ']', '\x7d', '%', '@', '\x60'].contains c

/-- Reads the name of an anchor, or of a reference to one, at the sign before it. -/
def anchorName (activity : Activity) (k : Cursor) : Except Problem (Text × Cursor) :=
  let name := k.next.rest.takeWhile isNameChar
  let after := k.next.skip name.length
  if name.isEmpty ∨ !endsAnchor after.rest then
    .error ⟨.noName, after.mark, some (activity, k.mark)⟩
  else .ok (name, after)

end RtlLiterals.Yaml
