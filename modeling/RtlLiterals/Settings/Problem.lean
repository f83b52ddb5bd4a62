import RtlLiterals.Strategy
import RtlLiterals.Yaml.Value

/-!
# RtlLiterals.Settings.Problem -- what can be wrong with a settings file

A settings file may not be well formed, it may hold more than one document, or a value may not be
what a setting needs. The last kind is reported with the setting and its place, as far as they are
known.
-/

namespace RtlLiterals.Settings

open RtlLiterals.Yaml

/-- What should have been there. -/
inductive Expected where
  | settings
  | decoration
  | name
  | boolean
  | number
  | text
  /-- Nothing, after the tag that is the name of a strategy. -/
  | nothing
  | null
  /-- The name of a strategy, as a scalar or a tag. -/
  | strategy
  /-- What the tag of the value says. -/
  | tagged (what : String)
deriving DecidableEq, Repr

/-- The wording of what should have been there. -/
def Expected.message : Expected → String
  | settings => "struct HighlightConfig"
  | decoration => "struct DecorationConfig"
  | name => "field identifier"
  | boolean => "a boolean"
  | number => "f64"
  | text => "a string"
  | nothing => "unit"
  | null => "null"
  | strategy => "a YAML tag starting with '!'"
  | tagged what => what

/-- A value is not what a setting needs. -/
inductive Mismatch where
  | wrongType (found : Value) (expected : Expected)
  | wrongText (found : Text) (expected : Expected)
  | unknownStrategy (name : Text)
  | duplicate (name : Text)
deriving DecidableEq, Repr

/-- The wording of a mismatch. -/
def Mismatch.message : Mismatch → Text
  | wrongType found expected =>
    Text.ofString "invalid type: " ++ found.shown ++ Text.ofString ", expected " ++
      Text.ofString expected.message
  | wrongText found expected =>
    Text.ofString "invalid value: string " ++ Text.quoted found ++ Text.ofString ", expected " ++
      Text.ofString expected.message
  | unknownStrategy name =>
    Text.ofString "unknown variant " ++ Value.marked name ++ Text.ofString ", expected " ++
      Value.marked StrategyKind.lexical.name ++ Text.ofString " or " ++
      Value.marked StrategyKind.syntactic.name
  | duplicate name => Text.ofString "duplicate field " ++ Value.marked name

/-- The way to a setting: the keys of the mappings around it. A key that is a reference is not
known. -/
abbrev KeyPath := List (Option Text)

/-- The way to a setting as messages show it. -/
def KeyPath.shown (path : KeyPath) : Text :=
  List.intercalate ['.'] (path.map fun key => key.getD ['?'])

/-- Where a mismatch is. -/
structure Place where
  path : KeyPath
  mark : Mark
deriving DecidableEq, Repr

/-- What is wrong with a settings file. -/
inductive Problem where
  /-- It cannot be read to its end. -/
  | fault (f : Fault)
  | mismatch (m : Mismatch) (place : Option Place)
  | severalDocuments
deriving DecidableEq, Repr

/-- A place after a message. -/
def placeText (m : Mark) : Text :=
  if m.isOrigin then [] else Text.ofString " at " ++ m.shown

namespace Problem

/-- The problem, with a place if it has none. -/
def placed (path : KeyPath) (m : Mark) : Problem → Problem
  | mismatch what none => mismatch what (some ⟨path, m⟩)
  | p => p

/-- The wording of a problem, without what it is about. -/
def detail : Problem → Text
  | fault (.problem p) => p.message
  | fault (.unknownAnchor m) => Text.ofString "unknown anchor" ++ placeText m
  | mismatch what none => what.message
  | mismatch what (some place) =>
    (if place.path.isEmpty then [] else place.path.shown ++ Text.ofString ": ") ++ what.message ++
      placeText place.mark
  | severalDocuments =>
    Text.ofString "deserializing from YAML containing more than one document is not supported"

/-- The wording of a problem. -/
def message (p : Problem) : Text := Text.ofString "Failed to parse config: " ++ p.detail

end Problem

end RtlLiterals.Settings
