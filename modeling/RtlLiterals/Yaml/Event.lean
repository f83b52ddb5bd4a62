import RtlLiterals.Yaml.Token

/-!
# RtlLiterals.Yaml.Event -- a document as events

The tokens of a text spell its documents: values that open and close, scalars, and references to
values with an anchor. Where a value is left out an empty scalar stands for it. The reader keeps
the list of what it still has to read, the next first, so that no recursion is needed; the place
where an open collection began is kept with what is left to read of it.
-/

namespace RtlLiterals.Yaml

/-- What a value may have in front of it. -/
structure Properties where
  /-- A name by which it can be referred to. -/
  anchor : Option Text
  tag : Option TagText
deriving DecidableEq, Repr

/-- Nothing in front of a value. -/
def Properties.none : Properties := ⟨.none, .none⟩

/-- The kinds of collections. -/
inductive Collection where
  | sequence
  | mapping
deriving DecidableEq, Repr

/-- What happens in a stream of documents. -/
inductive EventKind where
  | documentStart
  | documentEnd
  | streamEnd
  | reference (name : Text)
  | scalar (properties : Properties) (style : ScalarStyle) (content : Text)
  | opening (properties : Properties) (collection : Collection)
  /-- The innermost open collection closes. -/
  | closing
deriving DecidableEq, Repr

/-- An event and its place. -/
structure Event where
  kind : EventKind
  mark : Mark
deriving DecidableEq, Repr

/-- The event of a value that was left out. -/
def Event.missing (m : Mark) : Event := ⟨.scalar .none .plain [], m⟩

/-- What is still to be read. Collections are given with the place where they began, and with
whether the first entry is still to be read. -/
inductive Goal where
  /-- The next document, or the end of the stream. -/
  | document (first : Bool)
  /-- The value of a document with a marker. -/
  | documentContent
  | documentEnd
  | blockNode
  | blockEntries (start : Mark)
  /-- The entries of a sequence in a block that is not indented. -/
  | flushEntries
  | blockKeys (start : Mark)
  /-- A value of a mapping in a block, and its other keys and values. -/
  | blockValue (start : Mark)
  | flowEntries (start : Mark) (first : Bool)
  /-- The key of a pair in a sequence in brackets, the value, and the other entries. -/
  | pairKey (start : Mark)
  /-- The value of a pair in a sequence in brackets, and the other entries. -/
  | pairValue (start : Mark)
  /-- The end of a pair in a sequence in brackets, and the other entries. -/
  | pairEnd (start : Mark)
  | flowKeys (start : Mark) (first : Bool)
  /-- A value of a mapping in braces, and its other keys and values. -/
  | flowValue (start : Mark)
  /-- The left-out value of a mapping in braces, and its other keys and values. -/
  | noFlowValue (start : Mark)
deriving DecidableEq, Repr

/-- What is known while tokens are read. -/
structure Reading where
  tokens : List Token
  /-- What is still to be read, the next first. -/
  goals : List Goal
  handles : List (Text × TagText)
deriving Repr

/-- One step of reading: an event and what is left; an error without a problem says that there is no
token left. -/
abbrev Reading.Step := Except (Option Problem) (Event × Reading)

/-- A problem at a token. -/
def Token.fails {α : Type} (t : Token) (cause : Cause) (during : Option (Activity × Mark)) :
    Except (Option Problem) α :=
  .error (some ⟨cause, t.start, during⟩)

namespace Reading

/-- The step that gives an event, goes on with the goals and has the tokens left. -/
def give (r : Reading) (kind : EventKind) (m : Mark) (goals : List Goal) (tokens : List Token) :
    Step :=
  .ok (⟨kind, m⟩, { r with tokens := tokens, goals := goals })

/-- The step that gives an empty scalar. -/
def giveMissing (r : Reading) (m : Mark) (goals : List Goal) (tokens : List Token) : Step :=
  .ok (.missing m, { r with tokens := tokens, goals := goals })

/-! ### Properties -/

/-- The handle and text of a tag, with its place. -/
structure TagWord where
  handle : Text
  text : TagText
  mark : Mark

/-- The anchor and the tag before a value, in either order, and the tokens after them. -/
def properties (tokens : List Token) : Option Text × Option TagWord × List Token :=
  match tokens with
  | ⟨.anchor a, _, _⟩ :: ⟨.tag h x, m, _⟩ :: ts => (some a, some ⟨h, x, m⟩, ts)
  | ⟨.tag h x, m, _⟩ :: ⟨.anchor a, _, _⟩ :: ts => (some a, some ⟨h, x, m⟩, ts)
  | ⟨.anchor a, _, _⟩ :: ts => (some a, none, ts)
  | ⟨.tag h x, m, _⟩ :: ts => (none, some ⟨h, x, m⟩, ts)
  | ts => (none, none, ts)

/-- The whole text of a tag before a value that starts at `start`. -/
def resolve (r : Reading) (start : Mark) (w : TagWord) : Except (Option Problem) TagText :=
  if w.handle.isEmpty then .ok w.text
  else
    match r.handles.lookup w.handle with
    | some before => .ok (before ++ w.text)
    | none => .error (some ⟨.unknownHandle, w.mark, some (.node, start)⟩)

/-! ### Values -/

/-- The step at a value; `flush` says that a sequence may stand there that is not indented. -/
def node (r : Reading) (inBlock flush : Bool) (goals : List Goal) : Step :=
  match r.tokens with
  | [] => .error none
  | ⟨.reference name, m, _⟩ :: ts => r.give (.reference name) m goals ts
  | first :: _ =>
    let start := first.start
    let (anchor, word, tokens) := properties r.tokens
    match tokens with
    | [] => .error none
    | t :: ts => do
      let tag ← word.mapM (r.resolve start)
      let p : Properties := ⟨anchor, tag⟩
      match t.kind, inBlock, flush with
      | .blockEntry, _, true => r.give (.opening p .sequence) start (.flushEntries :: goals) tokens
      | .scalar style content, _, _ =>
        let p := if tag = some (.ofText ['!']) then ⟨anchor, none⟩ else p
        r.give (.scalar p style content) start goals ts
      | .flowSequenceStart, _, _ =>
        r.give (.opening p .sequence) start (.flowEntries t.start true :: goals) ts
      | .flowMappingStart, _, _ =>
        r.give (.opening p .mapping) start (.flowKeys t.start true :: goals) ts
      | .blockSequenceStart, true, _ =>
        r.give (.opening p .sequence) start (.blockEntries t.start :: goals) ts
      | .blockMappingStart, true, _ =>
        r.give (.opening p .mapping) start (.blockKeys t.start :: goals) ts
      | _, _, _ =>
        if p = .none then t.fails .noNode (some (if inBlock then .blockNode else .flowNode, start))
        else r.give (.scalar p .plain []) start goals tokens

/-- The step at a value that is left out before some tokens. It is read from `tokens` and
otherwise stands at a place. -/
def nodeUnless (r : Reading) (tokens : List Token) (ends : TokenKind → Bool) (m : Mark)
    (inBlock flush : Bool) (goals : List Goal) : Step :=
  match tokens with
  | [] => .error none
  | t :: _ =>
    if ends t.kind then r.giveMissing m goals tokens
    else { r with tokens := tokens }.node inBlock flush goals

/-! ### Documents -/

/-- The handles that need no directive. -/
def defaultHandles : List (Text × TagText) :=
  [(['!'], .ofText ['!']), (['!', '!'], .ofText (Text.ofString "tag:yaml.org,2002:"))]

/-- Reads directives; the tokens after them, and what handles stand for. -/
def directives : List Token → (version : Bool) → List (Text × TagText) →
    Except (Option Problem) (List Token × List (Text × TagText))
  | [], _, _ => .error none
  | t :: ts, version, handles =>
    match t.kind with
    | .directive (.version major minor) =>
      if version then t.fails .secondVersion none
      else if major = 1 ∧ (minor = 1 ∨ minor = 2) then directives ts true handles
      else t.fails .badVersion none
    | .directive (.tag h text) =>
      if (handles.lookup h).isSome then t.fails .secondTagDirective none
      else directives ts version (handles ++ [(h, text)])
    | _ => .ok (t :: ts, handles ++ defaultHandles)

/-- The token ends what comes before a document. -/
def startsDocument : TokenKind → Bool
  | .directive _ | .documentStart | .streamEnd => true
  | _ => false

/-- The step at a document. Only the first one needs no marker. -/
def document (r : Reading) (first : Bool) : Step :=
  let tokens := if first then r.tokens else r.tokens.dropWhile (·.kind == .documentEnd)
  match tokens with
  | [] => .error none
  | t :: ts =>
    if first && !startsDocument t.kind then
      .ok (⟨.documentStart, t.start⟩, ⟨tokens, [.blockNode, .documentEnd], defaultHandles⟩)
    else if t.kind = .streamEnd then r.give .streamEnd t.start [] ts
    else do
      let (tokens, handles) ← directives tokens false []
      match tokens with
      | [] => .error none
      | u :: us =>
        let r : Reading := ⟨us, [.documentContent, .documentEnd], handles⟩
        if u.kind = .documentStart then .ok (⟨.documentStart, t.start⟩, r)
        else u.fails .noDocumentStart none

/-- The token ends an empty document. -/
def endsDocument : TokenKind → Bool
  | .directive _ | .documentStart | .documentEnd | .streamEnd => true
  | _ => false

/-! ### Steps -/

/-- The token ends a left-out entry of a sequence in a block. -/
def endsBlockEntry : TokenKind → Bool
  | .blockEntry | .blockEnd => true
  | _ => false

/-- The token ends a left-out entry of a sequence in a block that is not indented. -/
def endsFlushEntry : TokenKind → Bool
  | .blockEntry | .key | .value | .blockEnd => true
  | _ => false

/-- The token ends a left-out key or value of a mapping in a block. -/
def endsBlockItem : TokenKind → Bool
  | .key | .value | .blockEnd => true
  | _ => false

/-- The token ends a left-out key or value of a pair in brackets. -/
def endsPairItem (isKey : Bool) : TokenKind → Bool
  | .value => isKey
  | .flowEntry | .flowSequenceEnd => true
  | _ => false

/-- The token ends a left-out key or value of a mapping in braces. -/
def endsFlowItem (isKey : Bool) : TokenKind → Bool
  | .value => isKey
  | .flowEntry | .flowMappingEnd => true
  | _ => false

/-- The step at a sequence in brackets after the comma, if one was due. -/
def flowEntry (r : Reading) (start : Mark) (goals : List Goal) (tokens : List Token) : Step :=
  match tokens with
  | [] => .error none
  | t :: ts =>
    match t.kind with
    | .flowSequenceEnd => r.give .closing t.start goals ts
    | .key => r.give (.opening .none .mapping) t.start (.pairKey start :: goals) ts
    | _ => { r with tokens := tokens }.node false false (.flowEntries start false :: goals)

/-- The step at a mapping in braces after the comma, if one was due. -/
def flowKey (r : Reading) (start : Mark) (goals : List Goal) (tokens : List Token) : Step :=
  match tokens with
  | [] => .error none
  | t :: ts =>
    match t.kind with
    | .flowMappingEnd => r.give .closing t.start goals ts
    | .key =>
      match ts with
      | [] => .error none
      | u :: _ => r.nodeUnless ts (endsFlowItem true) u.start false false (.flowValue start :: goals)
    | _ => { r with tokens := tokens }.node false false (.noFlowValue start :: goals)

/-- The step at the next goal, when there is a next token; `goals` are those after it. -/
def stepAt (r : Reading) (goal : Goal) (goals : List Goal) (t : Token) (ts : List Token) : Step :=
  match goal with
  | .document first => r.document first
  | .documentContent => r.nodeUnless r.tokens endsDocument t.start true false goals
  | .documentEnd =>
    r.give .documentEnd t.start [.document false] (if t.kind = .documentEnd then ts else r.tokens)
  | .blockNode => r.node true false goals
  | .blockEntries start =>
    match t.kind with
    | .blockEntry => r.nodeUnless ts endsBlockEntry t.stop true false (.blockEntries start :: goals)
    | .blockEnd => r.give .closing t.start goals ts
    | _ => t.fails .noDash (some (.blockSequence, start))
  | .flushEntries =>
    match t.kind with
    | .blockEntry => r.nodeUnless ts endsFlushEntry t.stop true false (.flushEntries :: goals)
    | _ => r.give .closing t.start goals r.tokens
  | .blockKeys start =>
    match t.kind with
    | .key => r.nodeUnless ts endsBlockItem t.stop true true (.blockValue start :: goals)
    | .blockEnd => r.give .closing t.start goals ts
    | _ => t.fails .noKey (some (.blockMapping, start))
  | .blockValue start =>
    match t.kind with
    | .value => r.nodeUnless ts endsBlockItem t.stop true true (.blockKeys start :: goals)
    | _ => r.giveMissing t.start (.blockKeys start :: goals) r.tokens
  | .flowEntries start first =>
    match first, t.kind with
    | true, _ | false, .flowSequenceEnd => r.flowEntry start goals r.tokens
    | false, .flowEntry => r.flowEntry start goals ts
    | false, _ => t.fails .noCommaOrBracket (some (.flowSequence, start))
  | .pairKey start =>
    if endsPairItem true t.kind then r.giveMissing t.stop (.pairValue start :: goals) ts
    else r.node false false (.pairValue start :: goals)
  | .pairValue start =>
    match t.kind, ts with
    | .value, [] => .error none
    | .value, u :: _ =>
      r.nodeUnless ts (endsPairItem false) u.start false false (.pairEnd start :: goals)
    | _, _ => r.giveMissing t.start (.pairEnd start :: goals) r.tokens
  | .pairEnd start => r.give .closing t.start (.flowEntries start false :: goals) r.tokens
  | .flowKeys start first =>
    match first, t.kind with
    | true, _ | false, .flowMappingEnd => r.flowKey start goals r.tokens
    | false, .flowEntry => r.flowKey start goals ts
    | false, _ => t.fails .noCommaOrBrace (some (.flowMapping, start))
  | .flowValue start =>
    match t.kind, ts with
    | .value, [] => .error none
    | .value, u :: _ =>
      r.nodeUnless ts (endsFlowItem false) u.start false false (.flowKeys start false :: goals)
    | _, _ => r.giveMissing t.start (.flowKeys start false :: goals) r.tokens
  | .noFlowValue start => r.giveMissing t.start (.flowKeys start false :: goals) r.tokens

/-- The next event. -/
def step (r : Reading) : Step :=
  match r.goals, r.tokens with
  | g :: gs, t :: ts => r.stepAt g gs t ts
  | _, _ => .error none

/-- At most as many events as the first argument says, and why there are no more. -/
def run : Nat → Reading → List Event × Option Problem
  | 0, _ => ([], none)
  | n + 1, r =>
    match r.step with
    | .error p => ([], p)
    | .ok (e, r) =>
      let (es, p) := run n r
      (e :: es, p)

end Reading

/-- The events of a text, as far as it can be read. -/
structure Events where
  /-- The events that stand, whatever follows. -/
  list : List Event
  /-- Why there are no more, if the stream has not ended. -/
  problem : Option Problem
deriving DecidableEq, Repr

/-- The events that tokens spell. A token gives at most four events. -/
def Events.ofTokens (tokens : Tokens) : Events :=
  let (es, p) := Reading.run (4 * tokens.list.length + 4) ⟨tokens.list, [.document true], []⟩
  ⟨es, p.orElse fun _ => tokens.problem⟩

end RtlLiterals.Yaml
