import RtlLiterals.File.Tree

/-!
# RtlLiterals.File.World -- what the program has around it

The program reads its environment and its input, and works on files, through these operations
alone. A finite tree of files offers them as a pure function of its state, so what the program does
can be stated about trees.
-/

namespace RtlLiterals

/-- The variables of the environment that the program reads. -/
structure Environment where
  configHome : Option Path
  home : Option Path
deriving DecidableEq, Repr

/-- What the program has around it, as operations of a monad. -/
structure World (m : Type → Type) where
  environment : Environment
  input : m (Except FileError ByteArray)
  isDirectory : Path → m Bool
  read : Path → m (Except FileError ByteArray)
  write : Path → ByteArray → m (Except FileError Unit)
  /-- Makes a directory and all directories on the way to it. -/
  makeDirectories : Path → m (Except FileError Unit)

namespace World

variable {m : Type → Type} [Monad m]

/-- The text of bytes that were read. -/
def textOf (bytes : Except FileError ByteArray) : Except FileError Text := do
  match Text.ofBytes? (← bytes) with
  | some t => .ok t
  | none => .error .notText

/-- The text of a file. -/
def readText (w : World m) (p : Path) : m (Except FileError Text) := do
  return textOf (← w.read p)

/-- The text of the standard input. -/
def inputText (w : World m) : m (Except FileError Text) := do
  return textOf (← w.input)

/-- The world of a finite tree of files. -/
def ofTree (environment : Environment) (input : ByteArray) : World (StateM FileTree) where
  environment := environment
  input := return .ok input
  isDirectory p := return (← get).isDirectory p
  read p := return (← get).read p
  write p bytes := do
    match (← get).write p bytes with
    | .ok t => set t; return .ok ()
    | .error e => return .error e
  makeDirectories p := modifyGet fun t => t.makeDirectories p

end World

end RtlLiterals
