import RtlLiterals.Yaml.Scalar
import RtlLiterals.Yaml.Tag

/-!
# RtlLiterals.Yaml.Token -- a document as tokens

Indentation and the colons after keys are told apart from the rest here: where a collection in a
block opens or closes there is a token of its own, and a key is marked by a token before it.

A key on one line is only known by the colon after it, so its token is put in front of tokens that
were already read. A key that was possible is given up when the line ends, or after 1024 bytes; when
a line could only be a key, giving it up is a problem.

## §A What can be used before a problem

Who uses the tokens from the first one on needs to know which of them stand even though reading
fails later: those before any place where the token of a key could still be put
(`Layout.settled`).
-/

namespace RtlLiterals.Yaml

/-- What a token says. -/
inductive TokenKind where
  | directive (d : Directive)
  /-- Three dashes. -/
  | documentStart
  /-- Three points. -/
  | documentEnd
  | blockSequenceStart
  | blockMappingStart
  | blockEnd
  | flowSequenceStart
  | flowSequenceEnd
  | flowMappingStart
  | flowMappingEnd
  | blockEntry
  | flowEntry
  | key
  | value
  | reference (name : Text)
  | anchor (name : Text)
  | tag (handle : Text) (text : TagText)
  | scalar (style : ScalarStyle) (content : Text)
  | streamEnd
deriving DecidableEq, Repr

/-- A token and its place. -/
structure Token where
  kind : TokenKind
  start : Mark
  stop : Mark
deriving DecidableEq, Repr

/-- A place at which a key may turn out to start. -/
structure PendingKey where
  /-- The number of tokens before it. -/
  number : Nat
  mark : Mark
  /-- The line can only be a key. -/
  required : Bool
deriving DecidableEq, Repr

/-- What is known of a document up to a place. -/
structure Layout where
  cursor : Cursor
  /-- The tokens so far, the last one first. -/
  tokens : List Token
  /-- The columns of the open collections in blocks, the innermost first. -/
  columns : List Nat
  /-- The key that may have started in the innermost collection. -/
  pending : Option PendingKey
  /-- The keys that may have started in the collections around it, one for each open bracket. -/
  outer : List (Option PendingKey)
  keyAllowed : Bool
deriving Repr

namespace Layout

/-- Nothing has been read. -/
def ofText (t : Text) : Layout := ⟨.ofText t, [], [], none, [], true⟩

/-- The place. -/
def mark (s : Layout) : Mark := s.cursor.mark

/-- The place is inside brackets. -/
def inFlow (s : Layout) : Bool := !s.outer.isEmpty

/-- The column of the innermost collection in a block, or the one before the first. -/
def indent (s : Layout) : Int :=
  match s.columns with
  | [] => -1
  | c :: _ => c

/-- The layout with one more token, from the place to the cursor. -/
def push (s : Layout) (kind : TokenKind) (k : Cursor) : Layout :=
  { s with cursor := k, tokens := ⟨kind, s.mark, k.mark⟩ :: s.tokens }

/-- The layout with a token at a place that was passed before, after some of the tokens. -/
def insert (s : Layout) (number : Nat) (kind : TokenKind) (place : Mark) : Layout :=
  let later := s.tokens.length - number
  { s with tokens := s.tokens.take later ++ ⟨kind, place, place⟩ :: s.tokens.drop later }

/-! ### Collections in blocks -/

/-- Opens a collection in a block, after some of the tokens, if it is indented more than the one
around it. -/
def openBlock (s : Layout) (number : Nat) (kind : TokenKind) (place : Mark) : Layout :=
  if s.inFlow || decide ((place.column : Int) ≤ s.indent) then s
  else { s.insert number kind place with columns := place.column :: s.columns }

/-- Closes the collections in blocks that are indented more than a column. -/
def closeBlocks (s : Layout) (column : Int) : Layout :=
  if s.inFlow then s
  else
    let deeper (c : Nat) : Bool := decide (column < (c : Int))
    { s with
      columns := s.columns.dropWhile deeper
      tokens := (s.columns.takeWhile deeper).map (fun _ => ⟨.blockEnd, s.mark, s.mark⟩) ++ s.tokens }

/-! ### Keys on one line -/

/-- The problem of a line that could only be a key. -/
def noColon (s : Layout) (p : PendingKey) : Problem :=
  ⟨.keyWithoutColon, s.mark, some (.simpleKey, p.mark)⟩

/-- Gives up the key that may have started in the innermost collection. -/
def dropKey (s : Layout) : Except Problem Layout :=
  match s.pending with
  | none => .ok s
  | some p => if p.required then .error (s.noColon p) else .ok { s with pending := none }

/-- A key may start here. -/
def saveKey (s : Layout) : Except Problem Layout :=
  if s.keyAllowed then do
    let s' ← s.dropKey
    let required := !s.inFlow && decide (s.indent = (s.mark.column : Int))
    .ok { s' with pending := some ⟨s.tokens.length, s.mark, required⟩ }
  else .ok s

/-- The key started on another line or too far away. -/
def isStale (s : Layout) (p : PendingKey) : Bool :=
  decide (p.mark.line < s.mark.line) || decide (p.mark.index + 1024 < s.mark.index)

/-- Gives up a key that started on another line or too far away. -/
def expire (s : Layout) : Option PendingKey → Except Problem (Option PendingKey)
  | none => .ok none
  | some p =>
    if s.isStale p then if p.required then .error (s.noColon p) else .ok none
    else .ok (some p)

/-- Gives up the keys that started on other lines or too far away; of the problems the one of the
outermost key counts. -/
def expireKeys (s : Layout) : Except Problem Layout := do
  let outer ← s.outer.reverse.mapM s.expire
  let pending ← s.expire s.pending
  .ok { s with pending := pending, outer := outer.reverse }

/-! ### Gaps -/

/-- Where the next token starts, past blanks, comments and line breaks, and whether a key may start
there. A tab may not stand before a key in a block. -/
def nextToken (inFlow : Bool) :
    Text → Mark → (keyAllowed : Bool) → (inComment : Bool) → Cursor × Bool
  | [], m, keyAllowed, _ => (⟨[], m⟩, keyAllowed)
  | c :: t, m, keyAllowed, inComment =>
    let next := m.step c t
    if isBreak c then nextToken inFlow t next (keyAllowed || !inFlow) false
    else if inComment || c == '#' then nextToken inFlow t next keyAllowed true
    else if c == ' ' || (c == '\t' && (inFlow || !keyAllowed)) ||
        (c == byteOrderMark && m.column == 0) then
      nextToken inFlow t next keyAllowed false
    else (⟨c :: t, m⟩, keyAllowed)

/-- The layout before the next token. -/
def skipGap (s : Layout) : Layout :=
  let (k, keyAllowed) := nextToken s.inFlow s.cursor.rest s.mark s.keyAllowed false
  { s with cursor := k, keyAllowed := keyAllowed }

/-! ### Tokens -/

/-- Reads a token with its own text, at which a key may start. -/
def readWord (s : Layout) (word : Cursor → Except Problem (TokenKind × Cursor)) :
    Except Problem Layout := do
  let s ← s.saveKey
  let (kind, k) ← word s.cursor
  .ok { s.push kind k with keyAllowed := false }

/-- Reads an anchor. -/
def readAnchor (s : Layout) : Except Problem Layout :=
  s.readWord fun k => (anchorName .anchor k).map fun (name, k) => (.anchor name, k)

/-- Reads a reference to an anchor. -/
def readReference (s : Layout) : Except Problem Layout :=
  s.readWord fun k => (anchorName .reference k).map fun (name, k) => (.reference name, k)

/-- Reads a tag. -/
def readTag (s : Layout) : Except Problem Layout :=
  s.readWord fun k => (tag s.inFlow k).map fun (h, text, k) => (.tag h text, k)

/-- Reads a scalar in single quotes. -/
def readSingleQuoted (s : Layout) : Except Problem Layout :=
  s.readWord fun k =>
    (singleQuoted k.mark k.next.rest k.next.mark [] .none).map
      fun (content, k) => (.scalar .singleQuoted content, k)

/-- Reads a scalar in double quotes. -/
def readDoubleQuoted (s : Layout) : Except Problem Layout :=
  s.readWord fun k =>
    (doubleQuoted k.mark k.next.rest k.next.mark [] (.text .none)).map
      fun (content, k) => (.scalar .doubleQuoted content, k)

/-- Reads a plain scalar. After one that goes over a line break a key may start. -/
def readPlain (s : Layout) : Except Problem Layout := do
  let s ← s.saveKey
  let r ← plain s.inFlow (s.indent + 1) s.mark s.cursor.rest s.mark [] .none
  .ok { s.push (.scalar .plain r.content) r.cursor with keyAllowed := r.broken }

/-- Reads a block scalar. -/
def readBlockScalar (s : Layout) (literal : Bool) : Except Problem Layout := do
  let s ← s.dropKey
  let (content, k) ← blockScalar literal s.indent s.cursor
  let style := if literal then .literal else .folded
  .ok { s.push (.scalar style content) k with keyAllowed := true }

/-- Reads an opening bracket. -/
def readOpening (s : Layout) (kind : TokenKind) : Except Problem Layout := do
  let s ← s.saveKey
  .ok { s.push kind s.cursor.next with
    pending := none, outer := s.pending :: s.outer, keyAllowed := true }

/-- Reads a closing bracket. -/
def readClosing (s : Layout) (kind : TokenKind) : Except Problem Layout := do
  let s ← s.dropKey
  let s := match s.outer with
    | [] => s
    | p :: outer => { s with pending := p, outer := outer }
  .ok { s.push kind s.cursor.next with keyAllowed := false }

/-- Reads a comma. -/
def readComma (s : Layout) : Except Problem Layout := do
  let s ← s.dropKey
  .ok { s.push .flowEntry s.cursor.next with keyAllowed := true }

/-- Opens a collection in a block at the place, where something has to be allowed to start. -/
def openHere (s : Layout) (kind : TokenKind) (cause : Cause) : Except Problem Layout :=
  if s.inFlow then .ok s
  else if s.keyAllowed then .ok (s.openBlock s.tokens.length kind s.mark)
  else .error ⟨cause, s.mark, none⟩

/-- Reads a dash before an entry. -/
def readDash (s : Layout) : Except Problem Layout := do
  let s ← s.openHere .blockSequenceStart .entryNotAllowed
  let s ← s.dropKey
  .ok { s.push .blockEntry s.cursor.next with keyAllowed := true }

/-- Reads a question mark before a key. -/
def readQuestion (s : Layout) : Except Problem Layout := do
  let s ← s.openHere .blockMappingStart .keyNotAllowed
  let s ← s.dropKey
  .ok { s.push .key s.cursor.next with keyAllowed := !s.inFlow }

/-- Reads a colon before a value. If a key may have started, it did. -/
def readColon (s : Layout) : Except Problem Layout :=
  match s.pending with
  | some p =>
    let s := (s.insert p.number .key p.mark).openBlock p.number .blockMappingStart p.mark
    .ok { s.push .value s.cursor.next with pending := none, keyAllowed := false }
  | none => do
    let s ← s.openHere .blockMappingStart .valueNotAllowed
    .ok { s.push .value s.cursor.next with keyAllowed := !s.inFlow }

/-- Closes all collections in blocks, where a line is that belongs to none. -/
def leaveBlocks (s : Layout) : Except Problem Layout := do
  let s ← (s.closeBlocks (-1)).dropKey
  .ok { s with keyAllowed := false }

/-- Reads the marker of a document. -/
def readMarker (s : Layout) (kind : TokenKind) : Except Problem Layout := do
  let s ← s.leaveBlocks
  .ok (s.push kind (s.cursor.skip 3))

/-- Reads a directive. -/
def readDirective (s : Layout) : Except Problem Layout := do
  let s ← s.leaveBlocks
  let (d, k, after) ← directive s.cursor
  .ok { s.push (.directive d) k with cursor := after }

/-- The place after the last line. -/
def endOfText (m : Mark) : Mark := if m.column = 0 then m else ⟨m.index, m.line + 1, 0⟩

/-- Ends the text. -/
def readEnd (s : Layout) : Except Problem Layout := do
  let s ← { s with cursor := ⟨[], endOfText s.mark⟩ }.leaveBlocks
  .ok (s.push .streamEnd s.cursor)

/-- The text has ended. -/
def isDone (s : Layout) : Bool := s.tokens.head?.any (·.kind == .streamEnd)

/-- A plain scalar may start with the character, which `rest` follows. -/
def startsPlain (inFlow : Bool) (c : Char) (rest : Text) : Bool :=
  if c == '-' then !rest.head?.any isBlank
  else if c == '?' || c == ':' then !inFlow && !endsWord rest
  else !(isGap c || isFlowMark c ||
    ['#', '&', '*', '!', '|', '>', '\x27', '\x22', '%', '@', '\x60'].contains c)

/-- Reads the token that starts at the place. -/
def readToken (s : Layout) : Except Problem Layout :=
  match s.cursor.rest with
  | [] => s.readEnd
  | c :: t =>
    if c == '%' && s.mark.column == 0 then s.readDirective
    else if s.cursor.atMarker then
      s.readMarker (if c == '-' then .documentStart else .documentEnd)
    else if c == '[' then s.readOpening .flowSequenceStart
    else if c == '\x7b' then s.readOpening .flowMappingStart
    else if c == ']' then s.readClosing .flowSequenceEnd
    else if c == '\x7d' then s.readClosing .flowMappingEnd
    else if c == ',' then s.readComma
    else if c == '-' && endsWord t then s.readDash
    else if c == '?' && (s.inFlow || endsWord t) then s.readQuestion
    else if c == ':' && (s.inFlow || endsWord t) then s.readColon
    else if c == '*' then s.readReference
    else if c == '&' then s.readAnchor
    else if c == '!' then s.readTag
    else if c == '|' && !s.inFlow then s.readBlockScalar true
    else if c == '>' && !s.inFlow then s.readBlockScalar false
    else if c == '\x27' then s.readSingleQuoted
    else if c == '\x22' then s.readDoubleQuoted
    else if startsPlain s.inFlow c t then s.readPlain
    else .error ⟨.noToken, s.mark, some (.token, s.mark)⟩

/-- Reads the next token, with the tokens of the collections that it opens or closes. -/
def step (s : Layout) : Except Problem Layout := do
  let s ← s.skipGap.expireKeys
  let s ← (s.closeBlocks (s.mark.column : Int)).readToken
  s.expireKeys

/-- The tokens before which no other token can be put any more, in order. -/
def settled (s : Layout) : List Token :=
  let possible := (s.pending :: s.outer).filterMap fun p => p.map PendingKey.number
  s.tokens.reverse.take (possible.foldl min s.tokens.length)

/-- Reads at most as many tokens as the first argument says. -/
def run : Nat → Layout → Layout × Option Problem
  | 0, s => (s, none)
  | n + 1, s =>
    match s.step with
    | .error p => (s, some p)
    | .ok t => if t.isDone then (t, none) else run n t

end Layout

/-- The tokens of a text, as far as it can be read. -/
structure Tokens where
  /-- The tokens that stand, whatever follows. -/
  list : List Token
  /-- Why there are no more, if the text has not ended. -/
  problem : Option Problem
deriving DecidableEq, Repr

/-- The tokens of a text. -/
def Tokens.ofText (t : Text) : Tokens :=
  match (Layout.ofText t).run (t.length + 1) with
  | (s, some p) => ⟨s.settled, some p⟩
  | (s, none) => ⟨s.tokens.reverse, none⟩

end RtlLiterals.Yaml
