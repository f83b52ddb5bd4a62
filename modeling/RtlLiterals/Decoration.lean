import RtlLiterals.Color
import RtlLiterals.Number.Shortest

/-!
# RtlLiterals.Decoration -- how matched literals are painted

Settings say what the user wants; a style is what the editor is handed. A background written in
hexadecimal takes the opacity from the settings; any other background text is handed on as it is.
-/

namespace RtlLiterals

/-- What the user wants matched literals to look like. -/
structure DecorationSettings where
  enableBackground : Bool
  /-- A hexadecimal colour, or any colour text the editor understands. -/
  backgroundColor : Text
  backgroundOpacity : Binary64
  /-- The colour of the text; empty keeps the editor's. -/
  textColor : Text
deriving DecidableEq, Repr

/-- The decoration when nothing is set: a white background, nearly transparent. -/
def DecorationSettings.default : DecorationSettings :=
  ⟨true, Text.ofString "#ffffff", .ofQuotient false 1 20 (by decide), []⟩

/-- What the editor is handed. -/
structure Style where
  background : Option Text
  color : Option Text
  /-- The text decoration, the same for all settings. -/
  textDecoration : Text
deriving DecidableEq, Repr

/-- Right-to-left, isolated rendering. -/
def rtlTextDecoration : Text := Text.ofString "none; direction: rtl; unicode-bidi: isolate;"

/-- The colour with an opacity, as style sheets write it. -/
def Color.rgba (c : Color) (alpha : Binary64) : Text :=
  Text.ofString "rgba(" ++ Text.ofNat c.red.toNat ++ Text.ofString ", " ++
    Text.ofNat c.green.toNat ++ Text.ofString ", " ++ Text.ofNat c.blue.toNat ++
    Text.ofString ", " ++ alpha.positional ++ [')']

/-- The background text: a hexadecimal colour takes the opacity, other text is kept. -/
def backgroundText (color : Text) (opacity : Binary64) : Text :=
  match Color.ofHex? color with
  | some c => c.rgba opacity
  | none => color

/-- The style of some settings. -/
def Style.ofSettings (s : DecorationSettings) : Style where
  background :=
    if s.enableBackground then some (backgroundText s.backgroundColor s.backgroundOpacity) else none
  color := if s.textColor = [] then none else some s.textColor
  textDecoration := rtlTextDecoration

end RtlLiterals
