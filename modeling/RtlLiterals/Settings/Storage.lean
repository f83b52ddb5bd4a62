import RtlLiterals.Location
import RtlLiterals.Settings.Reading
import RtlLiterals.Settings.Writing

/-!
# RtlLiterals.Settings.Storage -- settings kept in files

Settings that cannot be read, for whatever reason, count as the defaults. Saving makes the
directories on the way to the file.
-/

namespace RtlLiterals

namespace Settings

variable {m : Type → Type} [Monad m]

/-- The settings in the bytes of a file, or the defaults. -/
def ofFile (text : Except FileError Text) : Settings :=
  match text with
  | .error _ => default
  | .ok t =>
    match ofText t with
    | .error _ => default
    | .ok s => s

/-- The settings in a file. -/
def loadFrom (w : World m) (p : Path) : m Settings := do
  return ofFile (← w.readText p)

/-- The settings in the settings file of the user. -/
def load (w : World m) : m Settings :=
  match w.environment.settingsFile? with
  | none => return default
  | some p => loadFrom w p

/-- Saves settings to a file. -/
def saveTo (w : World m) (p : Path) (s : Settings) : m (Except LocationError Unit) := do
  let made ← match p.parent? with
    | none => pure (.ok ())
    | some dir => w.makeDirectories dir
  match made with
  | .error e => return .error (.settingsDirectory e)
  | .ok () =>
    match ← w.write p (Text.toBytes s.toText) with
    | .error e => return .error (.settingsFile p e)
    | .ok () => return .ok ()

/-- Saves settings to the settings file of the user. -/
def save (w : World m) (s : Settings) : m (Except LocationError Unit) :=
  match w.environment.settingsFile? with
  | none => return .error .noDirectory
  | some p => saveTo w p s

end Settings

end RtlLiterals
