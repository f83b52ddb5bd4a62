import RtlLiterals.Command.Help
import RtlLiterals.Scan
import RtlLiterals.Settings.Storage

/-!
# RtlLiterals.Command.Run -- a run of the program

A run makes the directory for logs, reads its command line, its settings and its source, in this
order, and reports the Arabic literals of the source. If no directory for logs can be made there is
a warning; nothing else is reported before the whole source was scanned.
-/

namespace RtlLiterals

/-- Where the source comes from. -/
inductive Source where
  | standardInput
  | file (p : Path)
deriving DecidableEq, Repr

/-- What a run has to do. -/
structure Plan where
  source : Source
  /-- How literals are located, if the settings do not decide. -/
  strategy : Option StrategyKind
  language : Language
  format : Report.Format
  /-- The settings file, if it is not the one of the user. -/
  settings : Option Path
deriving DecidableEq, Repr

/-- Why a run fails. -/
inductive RunError where
  | isDirectory (p : Path)
  | unknownStrategy (name : Text)
  | unknownLanguage (name : Text)
  | unreadable (s : Source) (cause : FileError)
deriving DecidableEq, Repr

namespace RunError

/-- The wording of an error. -/
def message : RunError → Text
  | isDirectory p => p ++ Text.ofString " is a directory; pass a single file"
  | unknownStrategy name => Text.ofString "Unknown strategy: " ++ name
  | unknownLanguage name => Text.ofString "Unknown language: " ++ name
  | unreadable .standardInput _ => Text.ofString "Failed to read stdin"
  | unreadable (.file p) _ => Text.ofString "Failed to read " ++ p

/-- What lies behind an error. -/
def cause? : RunError → Option FileError
  | unreadable _ e => some e
  | _ => none

/-- The report of an error. -/
def report (e : RunError) : Text :=
  Text.ofString "Error: " ++ e.message ++ '\n' ::
    match e.cause? with
    | none => []
    | some cause => Text.ofString "\nCaused by:\n    " ++ cause.message ++ ['\n']

end RunError

/-- The end of a run. -/
structure Outcome where
  exitCode : Nat
  output : Text
  diagnostics : Text
deriving DecidableEq, Repr

namespace Outcome

/-- The run succeeds. -/
def success (output : Text) : Outcome := ⟨0, output, []⟩

/-- The run fails. -/
def failure (e : RunError) : Outcome := ⟨1, [], e.report⟩

/-- The run stops at the command line. -/
def halted : Halt → Outcome
  | .help detailed => success (if detailed then detailedHelp else briefHelp)
  | .version => success versionText
  | .misuse m => ⟨2, [], Text.ofString "error: " ++ m.message ++ ['\n']⟩

/-- The outcome with a warning before it. -/
def after (warning : Text) (o : Outcome) : Outcome :=
  { o with diagnostics := warning ++ o.diagnostics }

end Outcome

variable {m : Type → Type} [Monad m]

namespace Arguments

/-- The strategy that the arguments name. -/
def namedStrategy (a : Arguments) : Except RunError (Option StrategyKind) :=
  match a.strategy with
  | none => .ok none
  | some name =>
    match StrategyKind.ofName? name with
    | some kind => .ok (some kind)
    | none => .error (.unknownStrategy name)

/-- The language that the arguments name, or else the one of the source. -/
def languageFor (a : Arguments) (s : Source) : Except RunError Language :=
  match a.language, s with
  | some name, _ =>
    match Language.ofName? name with
    | some l => .ok l
    | none => .error (.unknownLanguage name)
  | none, .file p => .ok (.ofPath p)
  | none, .standardInput => .ok .plainText

/-- The plan of a run that reads the source. -/
def planFor (a : Arguments) (s : Source) : Except RunError Plan := do
  let strategy ← a.namedStrategy
  let language ← a.languageFor s
  .ok ⟨s, strategy, language, a.format.getD .text, a.settings⟩

/-- The plan of a run. A path that is a single dash stands for the standard input. -/
def plan (w : World m) (a : Arguments) : m (Except RunError Plan) := do
  match a.path with
  | none => return a.planFor .standardInput
  | some p =>
    if p = ['-'] then return a.planFor .standardInput
    else if ← w.isDirectory p then return .error (.isDirectory p)
    else return a.planFor (.file p)

end Arguments

namespace World

/-- The text of a source. -/
def readSource (w : World m) (s : Source) : m (Except RunError Text) := do
  let text ← match s with
    | .standardInput => w.inputText
    | .file p => w.readText p
  return text.mapError (.unreadable s)

/-- The report on a source. -/
def reportOn (p : Plan) (settings : Settings) (source : Text) : Text :=
  Report.render p.format
    (scanWith (.resolve (p.strategy.getD settings.strategy) p.language) source)

/-- Carries out a plan. -/
def carryOut (w : World m) (p : Plan) : m Outcome := do
  let settings ← match p.settings with
    | some file => Settings.loadFrom w file
    | none => Settings.load w
  match ← w.readSource p.source with
  | .error e => return .failure e
  | .ok source => return .success (reportOn p settings source)

/-- The warning when there is no directory for logs. -/
def logWarning : Except LocationError Path → Text
  | .ok _ => []
  | .error e =>
    Text.ofString "Warning: Could not initialize file logging: " ++ e.message ++ ['\n']

/-- Runs the program with a command line. -/
def run (w : World m) (args : List Text) : m Outcome := do
  let warning := logWarning (← w.ensureLogs)
  match Arguments.parse args with
  | .error halt => return (Outcome.halted halt).after warning
  | .ok a =>
    match ← a.plan w with
    | .error e => return (Outcome.failure e).after warning
    | .ok p => return (← w.carryOut p).after warning

end World

end RtlLiterals
