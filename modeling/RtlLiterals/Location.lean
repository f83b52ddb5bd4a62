import RtlLiterals.File.World

/-!
# RtlLiterals.Location -- where settings and logs are kept

One directory of the user holds the settings file and a directory for logs. It is found from the
environment; without a home there is none.
-/

namespace RtlLiterals

namespace Environment

/-- The name of the program, and of its directory. -/
def programName : String := "arabic-rtl"

/-- The directory of the program. -/
def programDirectory? (env : Environment) : Option Path :=
  (env.configHome.orElse fun _ =>
    (env.home.filter (· ≠ [])).map fun home => Path.join home (Text.ofString ".config")).map
      fun config => Path.join config (Text.ofString programName)

/-- The settings file. -/
def settingsFile? (env : Environment) : Option Path :=
  env.programDirectory?.map fun dir => Path.join dir (Text.ofString "config.yaml")

/-- The directory for logs. -/
def logDirectory? (env : Environment) : Option Path :=
  env.programDirectory?.map fun dir => Path.join dir (Text.ofString "logs")

end Environment

/-- Why a place for settings or logs cannot be had. -/
inductive LocationError where
  | noDirectory
  | logs (p : Path) (cause : FileError)
  | settingsDirectory (cause : FileError)
  | settingsFile (p : Path) (cause : FileError)
deriving DecidableEq, Repr

/-- The wording of the reason. -/
def LocationError.message : LocationError → Text
  | noDirectory => Text.ofString "No config directory available"
  | logs p cause =>
    Text.ofString "Failed to create directory " ++ p ++ Text.ofString ": " ++ cause.message
  | settingsDirectory cause =>
    Text.ofString "Failed to create config directory: " ++ cause.message
  | settingsFile p cause =>
    Text.ofString "Failed to write config to " ++ p ++ Text.ofString ": " ++ cause.message

namespace World

variable {m : Type → Type} [Monad m]

/-- Makes the directory for logs and gives the path to it. -/
def ensureLogs (w : World m) : m (Except LocationError Path) := do
  match w.environment.logDirectory? with
  | none => return .error .noDirectory
  | some p =>
    match ← w.makeDirectories p with
    | .ok () => return .ok p
    | .error e => return .error (.logs p e)

end World

end RtlLiterals
