import RtlLiterals.Command.Run

/-!
# RtlLiterals.Proofs.Command.Files -- a run of the program over files of any kind

A run meets its files through a few operations. Nothing is assumed about what these answer: a file
may be there and not be readable, a directory may not be made, the standard input may fail. Only
looking at files leaves them as they are; making a directory and writing may change them in any
way. Over such files a run is a function: the directory for logs is made first, and everything after
that only looks at the files there are then.

## §A What is stated

* `FileSystem.run_world`: the outcome of a run as a function of its files, its environment, its
  input and its command line.
-/

namespace RtlLiterals

/-! ## §B Files -/

/-- A run of two programs, when that of the first is known. -/
theorem run_bind_of_eq {σ α β : Type} {x : StateM σ α} {f : α → StateM σ β} {s s' : σ} {a : α}
    (h : x.run s = (a, s')) : (x >>= f).run s = (f a).run s' := by
  rw [StateT.run_bind, h]
  rfl

/-- Files, as operations on states of any kind. -/
structure FileSystem (σ : Type) where
  isDirectory : σ → Path → Bool
  read : σ → Path → Except FileError ByteArray
  write : σ → Path → ByteArray → Except FileError Unit × σ
  makeDirectories : σ → Path → Except FileError Unit × σ

/-- The world of some files, an environment and what reading the standard input gives. -/
def FileSystem.world {σ : Type} (files : FileSystem σ) (environment : Environment)
    (input : Except FileError ByteArray) : World (StateM σ) where
  environment := environment
  input := return input
  isDirectory p := return files.isDirectory (← get) p
  read p := return files.read (← get) p
  write p bytes := modifyGet fun s => files.write s p bytes
  makeDirectories p := modifyGet fun s => files.makeDirectories s p

/-- A finite tree as files. What cannot be written leaves the tree. -/
def FileTree.files : FileSystem FileTree where
  isDirectory := FileTree.isDirectory
  read := FileTree.read
  write t p bytes :=
    match t.write p bytes with
    | .ok t' => (.ok (), t')
    | .error e => (.error e, t)
  makeDirectories := FileTree.makeDirectories

theorem World.ofTree_eq_world (environment : Environment) (input : ByteArray) :
    ofTree environment input = FileTree.files.world environment (.ok input) := by
  have hwrite : (ofTree environment input).write =
      (FileTree.files.world environment (.ok input)).write := by
    funext p bytes t
    have hget : (get : StateM FileTree FileTree).run t = (t, t) := rfl
    show StateT.run ((ofTree environment input).write p bytes) t = FileTree.files.write t p bytes
    unfold ofTree FileTree.files
    simp only []
    rw [run_bind_of_eq hget]
    cases t.write p bytes <;> rfl
  show { ofTree environment input with write := (ofTree environment input).write } = _
  rw [hwrite]
  rfl

/-! ## §C What a run reads -/

/-- A text that was written as bytes is read back. -/
theorem Text.ofBytes?_toBytes (t : Text) : ofBytes? t.toBytes = some t := by
  have hvalid : t.toBytes.IsValidUTF8 := (String.ofList t).isValidUTF8
  have hstring : String.fromUTF8? t.toBytes = some (String.ofList t) := dif_pos hvalid
  rw [ofBytes?, hstring, Option.map_some, String.toList_ofList]

theorem World.textOf_toBytes (t : Text) : textOf (.ok t.toBytes) = .ok t := by
  show textOf (pure t.toBytes) = _
  rw [textOf, pure_bind, Text.ofBytes?_toBytes]

/-- The bytes of a source. -/
def Source.bytesFrom (s : Source) (input : Except FileError ByteArray)
    (read : Path → Except FileError ByteArray) : Except FileError ByteArray :=
  match s with
  | .standardInput => input
  | .file p => read p

/-- The plan of a run, when it is known which paths lead to directories. -/
def Arguments.planFrom (a : Arguments) (isDirectory : Path → Bool) : Except RunError Plan :=
  match a.path with
  | none => a.planFor .standardInput
  | some p =>
    if p = ['-'] then a.planFor .standardInput
    else if isDirectory p then .error (.isDirectory p)
    else a.planFor (.file p)

/-- The settings file of a plan: the one that the command line names, or else that of the user. -/
def Plan.settingsFile? (p : Plan) (environment : Environment) : Option Path :=
  p.settings.orElse fun _ => environment.settingsFile?

/-- The settings of a plan, when it is known what files hold. -/
def Plan.settingsFrom (p : Plan) (environment : Environment)
    (read : Path → Except FileError ByteArray) : Settings :=
  match p.settingsFile? environment with
  | some file => Settings.ofFile (World.textOf (read file))
  | none => .default

namespace FileSystem

variable {σ : Type} (files : FileSystem σ) (environment : Environment)
  (input : Except FileError ByteArray) (s : σ)

/-- Planning looks at the files and leaves them. -/
theorem run_plan (a : Arguments) :
    (a.plan (files.world environment input)).run s = (a.planFrom (files.isDirectory s), s) := by
  unfold Arguments.plan Arguments.planFrom
  cases a.path with
  | none => rfl
  | some p =>
    have hdirectory : ((files.world environment input).isDirectory p).run s =
        (files.isDirectory s p, s) := rfl
    by_cases hdash : p = ['-']
    · simp only [if_pos hdash]
      rfl
    · simp only [if_neg hdash]
      rw [run_bind_of_eq hdirectory]
      cases files.isDirectory s p <;> rfl

theorem run_loadFrom (file : Path) :
    (Settings.loadFrom (files.world environment input) file).run s =
      (Settings.ofFile (World.textOf (files.read s file)), s) := rfl

theorem run_load :
    (Settings.load (files.world environment input)).run s =
      (match environment.settingsFile? with
        | some file => Settings.ofFile (World.textOf (files.read s file))
        | none => .default, s) := by
  unfold Settings.load
  show StateT.run (match environment.settingsFile? with | none => _ | some p => _) s = _
  cases environment.settingsFile? <;> rfl

theorem run_readSource (source : Source) :
    ((files.world environment input).readSource source).run s =
      ((World.textOf (source.bytesFrom input (files.read s))).mapError (.unreadable source), s) := by
  cases source <;> rfl

/-- Carrying out a plan only looks: at the settings first, then at the source. -/
theorem run_carryOut (p : Plan) :
    ((files.world environment input).carryOut p).run s =
      (match World.textOf (p.source.bytesFrom input (files.read s)) with
        | .error e => Outcome.failure (.unreadable p.source e)
        | .ok source =>
          .success (World.reportOn p (p.settingsFrom environment (files.read s)) source), s) := by
  unfold World.carryOut Plan.settingsFrom Plan.settingsFile?
  -- A file that the command line names is read in place of that of the user.
  cases p.settings with
  | some file =>
    simp only []
    rw [run_bind_of_eq (run_loadFrom files environment input s file),
      run_bind_of_eq (run_readSource files environment input s p.source)]
    cases World.textOf (p.source.bytesFrom input (files.read s)) <;> rfl
  | none =>
    simp only []
    rw [run_bind_of_eq (run_load files environment input s),
      run_bind_of_eq (run_readSource files environment input s p.source)]
    cases World.textOf (p.source.bytesFrom input (files.read s)) <;> rfl

/-! ## §D A run -/

/-- What the attempt to make the directory for logs gives, and the files there are then. -/
def withLogs : Except LocationError Path × σ :=
  match environment.logDirectory? with
  | none => (.error .noDirectory, s)
  | some p =>
    match files.makeDirectories s p with
    | (.ok (), s') => (.ok p, s')
    | (.error e, s') => (.error (.logs p e), s')

theorem run_ensureLogs :
    (files.world environment input).ensureLogs.run s = files.withLogs environment s := by
  unfold World.ensureLogs withLogs
  show StateT.run (match environment.logDirectory? with | none => _ | some p => _) s = _
  cases environment.logDirectory? with
  | none => rfl
  | some p =>
    have hmake : ((files.world environment input).makeDirectories p).run s =
        files.makeDirectories s p := rfl
    simp only []
    rcases hresult : files.makeDirectories s p with ⟨made, s'⟩
    rw [hresult] at hmake
    rw [run_bind_of_eq hmake]
    cases made <;> rfl

/-- The outcome of a run that only looks at the files, without the warning about logs. -/
def outcome (args : List Text) : Outcome :=
  match Arguments.parse args with
  | .error halt => .halted halt
  | .ok a =>
    match a.planFrom (files.isDirectory s) with
    | .error e => .failure e
    | .ok p =>
      match World.textOf (p.source.bytesFrom input (files.read s)) with
      | .error e => .failure (.unreadable p.source e)
      | .ok source =>
        .success (World.reportOn p (p.settingsFrom environment (files.read s)) source)

/-- **A run.** It makes the directory for logs, and then only looks at the files there are. -/
theorem run_world (args : List Text) :
    ((files.world environment input).run args).run s =
      ((files.outcome environment input (files.withLogs environment s).2 args).after
        (World.logWarning (files.withLogs environment s).1), (files.withLogs environment s).2) := by
  have hlogs : (files.world environment input).ensureLogs.run s =
      ((files.withLogs environment s).1, (files.withLogs environment s).2) :=
    run_ensureLogs files environment input s
  unfold World.run outcome
  rw [run_bind_of_eq hlogs]
  cases Arguments.parse args with
  | error halt => rfl
  | ok a =>
    simp only []
    rw [run_bind_of_eq (run_plan ..)]
    cases a.planFrom (files.isDirectory (files.withLogs environment s).2) with
    | error e => rfl
    | ok p =>
      simp only []
      rw [run_bind_of_eq (run_carryOut ..)]
      rfl

end FileSystem

end RtlLiterals
