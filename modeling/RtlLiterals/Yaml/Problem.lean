import RtlLiterals.Yaml.Character

/-!
# RtlLiterals.Yaml.Problem -- places, and what can be wrong with a document

A problem has a cause and a place, and it may say what was being read and where that began. Places
are shown from one; the very first place of a document is not shown at all.
-/

namespace RtlLiterals.Yaml

/-- A place in a document. -/
structure Mark where
  /-- The number of bytes before it. -/
  index : Nat
  /-- The number of line breaks before it. -/
  line : Nat
  /-- The number of characters between the start of the line and the place. -/
  column : Nat
deriving DecidableEq, Repr, Inhabited

namespace Mark

/-- The first place of a document. -/
def origin : Mark := ⟨0, 0, 0⟩

/-- The place after a character that `rest` follows. -/
def step (m : Mark) (c : Char) (rest : Text) : Mark :=
  let index := m.index + c.utf8Size
  if isBreak c then
    if joinsNext c rest then ⟨index, m.line, m.column⟩ else ⟨index, m.line + 1, 0⟩
  else ⟨index, m.line, m.column + 1⟩

/-- The place after a text without line breaks. -/
def along (m : Mark) (t : Text) : Mark :=
  ⟨m.index + Text.byteLength t, m.line, m.column + t.length⟩

/-- It is the first place of a document. -/
def isOrigin (m : Mark) : Bool := m.line == 0 && m.column == 0

/-- Two marks show the same place. -/
def sameAs (m n : Mark) : Bool := m.line == n.line && m.column == n.column

/-- The place as it is shown. -/
def shown (m : Mark) : Text :=
  Text.ofString "line " ++ Text.ofNat (m.line + 1) ++ Text.ofString " column " ++
    Text.ofNat (m.column + 1)

end Mark

/-- What is wrong. -/
inductive Cause where
  | controlCharacter
  | noToken
  /-- A line had to be the key of a mapping. -/
  | keyWithoutColon
  | entryNotAllowed
  | keyNotAllowed
  | valueNotAllowed
  | noDirectiveName
  /-- The name of a directive goes on with other characters. -/
  | badDirectiveName
  | unknownDirective
  /-- A directive goes on after its end. -/
  | lineGoesOn
  | noVersionNumber
  | longVersionNumber
  | noVersionPoint
  | noBlank
  | noBlankOrBreak
  /-- A name without characters, or with others after it. -/
  | noName
  | noHandleMark
  | noTagText
  | noOctet
  /-- An octet that starts no character. -/
  | badFirstOctet
  /-- An octet that does not go on in a character. -/
  | badNextOctet
  | tagNotClosed
  | zeroIndentation
  | tabForSpace
  | tabInIndentation
  /-- A marker of a document in a quoted scalar. -/
  | documentMarker
  /-- A quoted scalar that is not closed. -/
  | unexpectedEnd
  | unknownEscape
  | noHexNumber
  | badCodePoint
  /-- A colon that reads as part of a word. -/
  | unexpectedColon
  | noDocumentStart
  | secondVersion
  | badVersion
  | secondTagDirective
  | unknownHandle
  | noNode
  | noDash
  | noKey
  | noCommaOrBracket
  | noCommaOrBrace
deriving DecidableEq, Repr

/-- The wording of a cause. -/
def Cause.message : Cause → String
  | controlCharacter => "control characters are not allowed"
  | noToken => "found character that cannot start any token"
  | keyWithoutColon => "could not find expected ':'"
  | entryNotAllowed => "block sequence entries are not allowed in this context"
  | keyNotAllowed => "mapping keys are not allowed in this context"
  | valueNotAllowed => "mapping values are not allowed in this context"
  | noDirectiveName => "could not find expected directive name"
  | badDirectiveName => "found unexpected non-alphabetical character"
  | unknownDirective => "found unknown directive name"
  | lineGoesOn => "did not find expected comment or line break"
  | noVersionNumber => "did not find expected version number"
  | longVersionNumber => "found extremely long version number"
  | noVersionPoint => "did not find expected digit or '.' character"
  | noBlank => "did not find expected whitespace"
  | noBlankOrBreak => "did not find expected whitespace or line break"
  | noName => "did not find expected alphabetic or numeric character"
  | noHandleMark => "did not find expected '!'"
  | noTagText => "did not find expected tag URI"
  | noOctet => "did not find URI escaped octet"
  | badFirstOctet => "found an incorrect leading UTF-8 octet"
  | badNextOctet => "found an incorrect trailing UTF-8 octet"
  | tagNotClosed => "did not find the expected '>'"
  | zeroIndentation => "found an indentation indicator equal to 0"
  | tabForSpace => "found a tab character where an indentation space is expected"
  | tabInIndentation => "found a tab character that violates indentation"
  | documentMarker => "found unexpected document indicator"
  | unexpectedEnd => "found unexpected end of stream"
  | unknownEscape => "found unknown escape character"
  | noHexNumber => "did not find expected hexadecimal number"
  | badCodePoint => "found invalid Unicode character escape code"
  | unexpectedColon => "found unexpected ':'"
  | noDocumentStart => "did not find expected <document start>"
  | secondVersion => "found duplicate %YAML directive"
  | badVersion => "found incompatible YAML document"
  | secondTagDirective => "found duplicate %TAG directive"
  | unknownHandle => "found undefined tag handle"
  | noNode => "did not find expected node content"
  | noDash => "did not find expected '-' indicator"
  | noKey => "did not find expected key"
  | noCommaOrBracket => "did not find expected ',' or ']'"
  | noCommaOrBrace => "did not find expected ',' or '\x7d'"

/-- What was being read. -/
inductive Activity where
  | token
  /-- A key on one line. -/
  | simpleKey
  | directive
  | versionDirective
  /-- A tag directive, before its text. -/
  | tagDirectiveValue
  | tagDirectiveHandle
  | tagDirectiveStart
  | tagDirectiveText
  | anchor
  | reference
  | tag
  | tagText
  | blockScalar
  | quotedScalar
  | escape
  | plainScalar
  /-- A value with a tag. -/
  | node
  | blockNode
  | flowNode
  | blockSequence
  | blockMapping
  | flowSequence
  | flowMapping
deriving DecidableEq, Repr

/-- The wording of an activity. -/
def Activity.message : Activity → String
  | token => "while scanning for the next token"
  | simpleKey => "while scanning a simple key"
  | directive => "while scanning a directive"
  | versionDirective => "while scanning a %YAML directive"
  | tagDirectiveValue => "while scanning a %TAG directive"
  | tagDirectiveHandle => "while parsing a tag directive"
  | tagDirectiveStart => "while scanning a tag directive"
  | tagDirectiveText => "while parsing a %TAG directive"
  | anchor => "while scanning an anchor"
  | reference => "while scanning an alias"
  | tag => "while scanning a tag"
  | tagText => "while parsing a tag"
  | blockScalar => "while scanning a block scalar"
  | quotedScalar => "while scanning a quoted scalar"
  | escape => "while parsing a quoted scalar"
  | plainScalar => "while scanning a plain scalar"
  | node => "while parsing a node"
  | blockNode => "while parsing a block node"
  | flowNode => "while parsing a flow node"
  | blockSequence => "while parsing a block collection"
  | blockMapping => "while parsing a block mapping"
  | flowSequence => "while parsing a flow sequence"
  | flowMapping => "while parsing a flow mapping"

/-- Something wrong with a document. -/
structure Problem where
  cause : Cause
  mark : Mark
  /-- What was being read, and where that began. -/
  during : Option (Activity × Mark)
deriving DecidableEq, Repr

namespace Problem

/-- The place of a problem as it is shown: a character that may not stand in a document is found
before lines are told apart, so its place is a number of bytes. -/
def place (p : Problem) : Text :=
  if p.cause == .controlCharacter then
    if p.mark.index == 0 then []
    else Text.ofString " at position " ++ Text.ofNat p.mark.index
  else if p.mark.isOrigin then []
  else Text.ofString " at " ++ p.mark.shown

/-- What was being read, as it is shown. -/
def context (p : Problem) : Text :=
  match p.during with
  | none => []
  | some (activity, start) =>
    Text.ofString ", " ++ Text.ofString activity.message ++
      (if start.isOrigin || start.sameAs p.mark then [] else Text.ofString " at " ++ start.shown)

/-- The wording of a problem. -/
def message (p : Problem) : Text := Text.ofString p.cause.message ++ p.place ++ p.context

end Problem

end RtlLiterals.Yaml
