import RtlLiterals.Decoration
import RtlLiterals.Strategy

/-!
# RtlLiterals.Settings -- what a user may set

The settings say whether literals are decorated at all, how they are located and what they look
like. Every setting has a default.
-/

namespace RtlLiterals

/-- The settings of the highlighter. -/
structure Settings where
  /-- Decorate matches at all. -/
  enabled : Bool
  strategy : StrategyKind
  decoration : DecorationSettings
deriving DecidableEq, Repr

namespace Settings

/-- The settings when nothing is set. -/
def default : Settings := ⟨true, .lexical, .default⟩

/-- Equality as settings are compared: opacities compare as numbers do, so `nan` differs from
itself. -/
def same (a b : Settings) : Bool :=
  a.enabled == b.enabled && a.strategy == b.strategy &&
    a.decoration.enableBackground == b.decoration.enableBackground &&
    a.decoration.backgroundColor == b.decoration.backgroundColor &&
    a.decoration.backgroundOpacity.numEq b.decoration.backgroundOpacity &&
    a.decoration.textColor == b.decoration.textColor

end Settings

end RtlLiterals
