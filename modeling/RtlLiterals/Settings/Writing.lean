import RtlLiterals.Settings
import RtlLiterals.Yaml.Writing

/-!
# RtlLiterals.Settings.Writing -- settings as a file

All settings are written, each on a line of its own unless its text takes more, those of the
decoration in a mapping of their own.
-/

namespace RtlLiterals

open RtlLiterals.Yaml

/-- The settings of the decoration as the lines of a mapping. -/
def DecorationSettings.toText (s : DecorationSettings) : Text :=
  let entry (key : String) (value : Text) := writeEntry indentStep (Text.ofString key) value
  entry "enable_background" (writeBoolean s.enableBackground) ++
    entry "background_color" (writeText (2 * indentStep) s.backgroundColor) ++
    entry "background_opacity" (writeNumber s.backgroundOpacity) ++
    entry "text_color" (writeText (2 * indentStep) s.textColor)

/-- The settings as the text of a file. -/
def Settings.toText (s : Settings) : Text :=
  writeEntry 0 (Text.ofString "enabled") (writeBoolean s.enabled) ++
    writeEntry 0 (Text.ofString "strategy") (writeText indentStep s.strategy.name) ++
    Text.ofString "decoration:" ++ '\n' :: s.decoration.toText

end RtlLiterals
