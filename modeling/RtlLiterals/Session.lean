import RtlLiterals.Scan
import RtlLiterals.Settings
import RtlLiterals.Text.Position

/-!
# RtlLiterals.Session -- decorating a document as it is edited

An editor hands over the full text of a document with a revision number whenever it changes, and
gets the ranges to paint. A request for an older revision than one already decorated is stale and
is answered with nothing; the same revision may be decorated again.
-/

namespace RtlLiterals

/-- A document as the editor has it at one revision. -/
structure Snapshot where
  revision : Nat
  language : Language
  text : Text
deriving DecidableEq, Repr

/-- The place of one literal, delimiters included. -/
structure Range where
  start : Position
  /-- The place one past the last character. -/
  stop : Position
deriving DecidableEq, Repr

/-- What the editor needs to paint one revision. -/
structure Decorations where
  revision : Nat
  style : Style
  /-- The literals, in source order. -/
  ranges : List Range
deriving DecidableEq, Repr

/-- The state kept between requests. -/
structure Session where
  settings : Settings
  style : Style
  /-- The revision decorated last, if any. -/
  latest : Option Nat
deriving DecidableEq, Repr

namespace Session

/-- A session with the given settings that has decorated nothing yet. -/
def new (settings : Settings) : Session := ⟨settings, .ofSettings settings.decoration, none⟩

/-- Replaces the settings and rebuilds the style from them. -/
def applySettings (s : Session) (settings : Settings) : Session :=
  ⟨settings, .ofSettings settings.decoration, s.latest⟩

/-- The Arabic literals of a snapshot, located as the settings say. -/
def find (s : Session) (snap : Snapshot) : List Match :=
  scanWith (.resolve s.settings.strategy snap.language) snap.text

/-- The range of a match in a text. -/
def rangeOf (t : Text) (m : Match) : Range := ⟨.ofOffset t m.start, .ofOffset t m.stop⟩

/-- The request is older than a revision already decorated. -/
def isStale (s : Session) (snap : Snapshot) : Bool :=
  match s.latest with
  | some latest => snap.revision < latest
  | none => false

/-- The decorations of a snapshot under the settings in effect. -/
def decorations (s : Session) (snap : Snapshot) : Decorations where
  revision := snap.revision
  style := s.style
  ranges := if s.settings.enabled then (s.find snap).map (rangeOf snap.text) else []

/-- Decorates a snapshot, unless the request is stale; a stale request changes nothing. -/
def decorate (s : Session) (snap : Snapshot) : Session × Option Decorations :=
  if s.isStale snap then (s, none)
  else ({ s with latest := some snap.revision }, some (s.decorations snap))

end Session

end RtlLiterals
