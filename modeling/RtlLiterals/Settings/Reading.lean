import RtlLiterals.Settings
import RtlLiterals.Settings.Problem
import RtlLiterals.Text.Blank

/-!
# RtlLiterals.Settings.Reading -- settings from a file

A settings file is a mapping from names of settings to values. Names that are no settings are
passed over with their values; a setting that is not there has its default. A file that is blank, or
holds no value or an empty one, has all defaults.

A reference is read as the value it means. Of two problems the one that comes first in the file
counts.
-/

namespace RtlLiterals

open RtlLiterals.Yaml

namespace Settings

/-! ### Values -/

/-- The value of a reference, or the value itself. -/
def follow (d : Document) (n : Node) : Node :=
  match n with
  | .reference _ number => (d.target? number).getD n
  | n => n

/-- The mismatch of a value that is not what was expected. -/
def mismatch (n : Node) (expected : Expected) : Mismatch :=
  match n with
  | .scalar _ _ tag style content =>
    match Value.ofScalar tag style content with
    | .ok v => .wrongType v expected
    | .error what => .wrongText content (.tagged what)
  | .collection _ _ _ .sequence _ _ => .wrongType .sequence expected
  | .collection _ _ _ .mapping _ _ => .wrongType .mapping expected
  | .reference .. => .wrongType .null expected

/-- A value that is not what was expected. -/
def refuse {α : Type} (path : KeyPath) (n : Node) (expected : Expected) : Except Problem α :=
  .error (.mismatch (mismatch n expected) (some ⟨path, n.mark⟩))

/-- A scalar with the style may spell a value with the tag. -/
def maySpell (tag : Option TagText) (style : ScalarStyle) (asked : TagText) : Bool :=
  style == .plain || (style == .literal && tag == some asked)

/-- Reads a truth value. -/
def readBoolean (d : Document) (path : KeyPath) (n : Node) : Except Problem Bool :=
  let n := follow d n
  match n with
  | .scalar _ _ tag style content =>
    match if maySpell tag style booleanTag then booleanWord? content else none with
    | some b => .ok b
    | none => refuse path n .boolean
  | n => refuse path n .boolean

/-- Reads a number. -/
def readNumber (d : Document) (path : KeyPath) (n : Node) : Except Problem Binary64 :=
  let n := follow d n
  match n with
  | .scalar _ _ tag style content =>
    match if maySpell tag style floatTag then float? content else none with
    | some x => .ok x
    | none => refuse path n .number
  | n => refuse path n .number

/-- Reads a text, which any scalar is. -/
def readText (d : Document) (path : KeyPath) (expected : Expected) (n : Node) :
    Except Problem Text :=
  let n := follow d n
  match n with
  | .scalar _ _ _ _ content => .ok content
  | n => refuse path n expected

/-- The strategy with a name, which has to be written exactly. -/
def strategyNamed? (t : Text) : Option StrategyKind :=
  if t = StrategyKind.lexical.name then some .lexical
  else if t = StrategyKind.syntactic.name then some .syntactic
  else none

/-- The name that a tag of the document's own gives. -/
def tagName? (tag : Option TagText) : Option Text :=
  match tag with
  | some (some '!' :: rest) => TagText.text? (if rest.isEmpty then [some '!'] else rest)
  | _ => none

/-- Nothing may be written after the tag that names a strategy. -/
def readNothing (path : KeyPath) (n : Node) : Except Problem Unit :=
  match n with
  | .scalar m _ _ style content =>
    if style = .plain ∧ (content.isEmpty ∨ isNullWord content) then .ok ()
    else .error (.mismatch (.wrongText content .null) (some ⟨path, m⟩))
  | n => refuse path n .nothing

/-- Reads a strategy: its name as a scalar, or as the tag of nothing. -/
def readStrategy (d : Document) (path : KeyPath) (n : Node) : Except Problem StrategyKind :=
  let n := follow d n
  let tagged (tag : Option TagText) (otherwise : Except Problem StrategyKind) :=
    match tagName? tag with
    | none => otherwise
    | some name =>
      match strategyNamed? name with
      | none => .error (.mismatch (.unknownStrategy name) none)
      | some kind => (readNothing path n).map fun _ => kind
  match n with
  | .scalar m _ tag _ content =>
    tagged tag <|
      match strategyNamed? content with
      | some kind => .ok kind
      | none => .error (.mismatch (.unknownStrategy content) (some ⟨path, m⟩))
  | .collection _ _ tag _ _ _ => tagged tag (refuse path n .strategy)
  | n => refuse path n .strategy

/-! ### Mappings -/

/-- The document breaks off here. -/
def breakOff {α : Type} (d : Document) : Except Problem α :=
  match d.fault with
  | some f => .error (.fault f)
  | none => .error (.fault (.problem ⟨.unexpectedEnd, .origin, none⟩))

/-- What is known of the settings of one mapping: reading one more of them takes its name, the way
to it and its value. A setting whose value is missing breaks the document off, but not before it is
known to be the first of its name. -/
abbrev ReadSetting (σ : Type) := σ → Text → KeyPath → Option Node → Except Problem σ

/-- The key of a setting on the way to it. -/
def keyStep (n : Node) : Option Text :=
  match n with
  | .scalar _ _ _ _ content => some content
  | _ => none

/-- Reads the settings of a mapping from its keys and values. -/
def readEntries {σ : Type} (d : Document) (path : KeyPath) (cut : Bool) (read : ReadSetting σ) :
    List Node → σ → Except Problem σ
  | [], s => if cut then breakOff d else .ok s
  | key :: rest, s => do
    let name ← readText d path .name key
    match rest with
    | [] => do
      let _ ← read s name (path ++ [keyStep key]) none
      breakOff d
    | value :: rest => do
      let s ← read s name (path ++ [keyStep key]) (some value)
      readEntries d path cut read rest s

/-- Reads a mapping with settings. An empty plain scalar is a mapping without settings. -/
def readMapping {σ : Type} (d : Document) (path : KeyPath) (expected : Expected)
    (read : ReadSetting σ) (start : σ) (n : Node) : Except Problem σ :=
  let n := follow d n
  match n with
  | .collection m _ _ .mapping children cut =>
    (readEntries d path cut read children start).mapError (.placed path m)
  | .scalar _ _ _ .plain [] => .ok start
  | n => refuse path n expected

/-- Reads the value of a setting that has none yet. -/
def once {α : Type} (d : Document) (name : Text) (old : Option α) (value : Option Node)
    (read : Node → Except Problem α) : Except Problem (Option α) :=
  match old, value with
  | some _, _ => .error (.mismatch (.duplicate name) none)
  | none, none => breakOff d
  | none, some n => (read n).map some

/-! ### Settings -/

/-- The settings of the decoration that are there. -/
structure PartialDecoration where
  enableBackground : Option Bool
  backgroundColor : Option Text
  backgroundOpacity : Option Binary64
  textColor : Option Text
deriving DecidableEq, Repr

namespace PartialDecoration

/-- No settings. -/
def empty : PartialDecoration := ⟨none, none, none, none⟩

/-- The settings that are there, and defaults for the others. -/
def complete (p : PartialDecoration) : DecorationSettings where
  enableBackground := p.enableBackground.getD DecorationSettings.default.enableBackground
  backgroundColor := p.backgroundColor.getD DecorationSettings.default.backgroundColor
  backgroundOpacity := p.backgroundOpacity.getD DecorationSettings.default.backgroundOpacity
  textColor := p.textColor.getD DecorationSettings.default.textColor

/-- Reads one setting of the decoration. -/
def read (d : Document) : ReadSetting PartialDecoration := fun p name path value =>
  if name = Text.ofString "enable_background" then do
    let v ← once d name p.enableBackground value (readBoolean d path)
    .ok { p with enableBackground := v }
  else if name = Text.ofString "background_color" then do
    let v ← once d name p.backgroundColor value (readText d path .text)
    .ok { p with backgroundColor := v }
  else if name = Text.ofString "background_opacity" then do
    let v ← once d name p.backgroundOpacity value (readNumber d path)
    .ok { p with backgroundOpacity := v }
  else if name = Text.ofString "text_color" then do
    let v ← once d name p.textColor value (readText d path .text)
    .ok { p with textColor := v }
  else .ok p

end PartialDecoration

/-- The settings that are there. -/
structure PartialSettings where
  enabled : Option Bool
  strategy : Option StrategyKind
  decoration : Option DecorationSettings
deriving DecidableEq, Repr

namespace PartialSettings

/-- No settings. -/
def empty : PartialSettings := ⟨none, none, none⟩

/-- The settings that are there, and defaults for the others. -/
def complete (p : PartialSettings) : Settings where
  enabled := p.enabled.getD Settings.default.enabled
  strategy := p.strategy.getD Settings.default.strategy
  decoration := p.decoration.getD Settings.default.decoration

/-- Reads one setting. -/
def read (d : Document) : ReadSetting PartialSettings := fun p name path value =>
  if name = Text.ofString "enabled" then do
    let v ← once d name p.enabled value (readBoolean d path)
    .ok { p with enabled := v }
  else if name = Text.ofString "strategy" then do
    let v ← once d name p.strategy value (readStrategy d path)
    .ok { p with strategy := v }
  else if name = Text.ofString "decoration" then do
    let v ← once d name p.decoration value fun n =>
      (readMapping d path .decoration (PartialDecoration.read d) .empty n).map (·.complete)
    .ok { p with decoration := v }
  else .ok p

end PartialSettings

/-- The settings of a document. -/
def ofDocument (d : Document) : Except Problem Settings := do
  let p ← match d.root, d.fault with
    | none, none => .ok .empty
    | none, some f => .error (.fault f)
    | some n, _ => readMapping d [] .settings (PartialSettings.read d) .empty n
  match d.fault with
  | some f => .error (.fault f)
  | none => if d.more then .error .severalDocuments else .ok p.complete

/-- The settings that a text writes. -/
def ofText (t : Text) : Except Problem Settings :=
  if Text.isBlank t then .ok default else ofDocument (.ofText t)

end Settings

end RtlLiterals
