import RtlLiterals.Proofs.Command.Files

/-!
# RtlLiterals.Proofs.Command.Runs -- a run of the program over a tree of files

A run is a program in the monad of its world. Over a finite tree of files it is a function: making
the directory for logs may change the tree, and everything after it only reads what is there then.
This module takes the run apart into functions of that tree and states what is scanned.

## §A What is stated

* `Invocation.run_eq`: the outcome of a run as a function of its environment, its input, its tree
  and its command line.
* `Invocation.outcome_of_scans`: a run that gets as far as a source ends well, and its output is the
  report on the matches of that source.
-/

namespace RtlLiterals

/-- A run of the program: what it has around it, and its command line. -/
structure Invocation where
  environment : Environment
  input : ByteArray
  tree : FileTree
  args : List Text

/-! ## §B Reading a tree -/

/-- The plan of a run with a tree of files. -/
def Arguments.planIn (a : Arguments) (t : FileTree) : Except RunError Plan :=
  match a.path with
  | none => a.planFor .standardInput
  | some p =>
    if p = ['-'] then a.planFor .standardInput
    else if t.isDirectory p then .error (.isDirectory p)
    else a.planFor (.file p)

/-- The settings of a plan, read in a tree of files. -/
def Plan.settingsIn (p : Plan) (environment : Environment) (t : FileTree) : Settings :=
  match p.settingsFile? environment with
  | some file => Settings.ofFile (World.textOf (t.read file))
  | none => .default

/-- The text of a source, read in a tree of files or from the input. -/
def Source.textIn (s : Source) (input : ByteArray) (t : FileTree) : Except FileError Text :=
  match s with
  | .standardInput => World.textOf (.ok input)
  | .file p => World.textOf (t.read p)

/-! ## §C A run -/

namespace Invocation

/-- What the attempt to make the directory for logs gives. -/
def logs (i : Invocation) : Except LocationError Path :=
  ((World.ofTree i.environment i.input).ensureLogs.run i.tree).1

/-- The tree that the run reads: the directory for logs was made, as far as it could be. -/
def treeRead (i : Invocation) : FileTree :=
  ((World.ofTree i.environment i.input).ensureLogs.run i.tree).2

/-- The outcome of the run, and the tree it leaves. -/
def run (i : Invocation) : Outcome × FileTree :=
  ((World.ofTree i.environment i.input).run i.args).run i.tree

/-- The outcome without the warning about logs, as a function of the tree that is read. -/
def quietOutcome (i : Invocation) : Outcome :=
  match Arguments.parse i.args with
  | .error halt => .halted halt
  | .ok a =>
    match a.planIn i.treeRead with
    | .error e => .failure e
    | .ok p =>
      match p.source.textIn i.input i.treeRead with
      | .error e => .failure (.unreadable p.source e)
      | .ok source => .success (World.reportOn p (p.settingsIn i.environment i.treeRead) source)

theorem withLogs_eq (i : Invocation) :
    FileTree.files.withLogs i.environment i.tree = (i.logs, i.treeRead) := by
  rw [logs, treeRead, World.ofTree_eq_world, FileSystem.run_ensureLogs]

theorem quietOutcome_eq (i : Invocation) :
    i.quietOutcome = FileTree.files.outcome i.environment (.ok i.input) i.treeRead i.args := by
  unfold quietOutcome FileSystem.outcome
  cases Arguments.parse i.args with
  | error halt => rfl
  | ok a =>
    have hplan : a.planFrom (FileTree.files.isDirectory i.treeRead) = a.planIn i.treeRead := rfl
    simp only [hplan]
    cases a.planIn i.treeRead with
    | error e => rfl
    | ok p =>
      have hsource : World.textOf (p.source.bytesFrom (.ok i.input) i.treeRead.read) =
          p.source.textIn i.input i.treeRead := by
        cases p.source <;> rfl
      show _ = match World.textOf (p.source.bytesFrom (.ok i.input) i.treeRead.read) with
        | .error e => Outcome.failure (.unreadable p.source e)
        | .ok source => .success (World.reportOn p (p.settingsIn i.environment i.treeRead) source)
      rw [hsource]

/-- **A run.** It makes the directory for logs, and everything else is read from the tree it has
then. -/
theorem run_eq (i : Invocation) :
    i.run = (i.quietOutcome.after (World.logWarning i.logs), i.treeRead) := by
  have hworld := FileTree.files.run_world i.environment (.ok i.input) i.tree i.args
  rw [withLogs_eq, ← World.ofTree_eq_world] at hworld
  rw [quietOutcome_eq]
  exact hworld

/-! ## §D What a run scans -/

/-- **`i.Scans kind language source format`** -- the run gets as far as scanning: its command line
can be read and planned, its settings and the plan give the kind of strategy, and the plan gives the
language, the format of the report and the place of the source. -/
def Scans (i : Invocation) (kind : StrategyKind) (language : Language) (source : Text)
    (format : Report.Format) : Prop :=
  ∃ a p, Arguments.parse i.args = .ok a ∧ a.planIn i.treeRead = .ok p ∧
    p.strategy.getD (p.settingsIn i.environment i.treeRead).strategy = kind ∧
    p.language = language ∧ p.source.textIn i.input i.treeRead = .ok source ∧ p.format = format

/-- **A run that scans.** It ends well, and its output is the report on the matches. -/
theorem outcome_of_scans {i : Invocation} {kind : StrategyKind} {language : Language}
    {source : Text} {format : Report.Format} (h : i.Scans kind language source format) :
    i.run.1.exitCode = 0 ∧
      i.run.1.output = Report.render format (scanWith (.resolve kind language) source) := by
  obtain ⟨a, p, hparse, hplan, rfl, rfl, hsource, rfl⟩ := h
  rw [run_eq]
  unfold quietOutcome
  simp only [hparse, hplan, hsource]
  exact ⟨rfl, rfl⟩

end Invocation

end RtlLiterals
