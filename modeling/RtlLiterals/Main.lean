import RtlLiterals.Command.Run

/-!
# RtlLiterals.Main -- the program

The operations of the world are those of the operating system here. Nothing else is decided.
-/

namespace RtlLiterals

/-- The cause of an error of the operating system. -/
def FileError.ofSystem : IO.Error → FileError
  | .noFileOrDirectory .. => .notFound
  | .alreadyExists .. => .alreadyExists
  | .inappropriateType _ 20 _ => .notDirectory
  | .inappropriateType _ 21 _ => .isDirectory
  | e => .other (Text.ofString (toString e))

/-- The result of an operation, or the cause of its error. -/
def attempt {α : Type} (action : IO α) : IO (Except FileError α) := do
  try
    return .ok (← action)
  catch e =>
    return .error (.ofSystem e)

/-- All bytes of a stream after those that were read. -/
partial def readAll (stream : IO.FS.Stream) (before : ByteArray) : IO ByteArray := do
  let bytes ← stream.read 65536
  if bytes.isEmpty then return before else readAll stream (before ++ bytes)

/-- The first byte of a file. -/
def probe (name : String) : IO ByteArray := do
  let handle ← IO.FS.Handle.mk name .read
  handle.read 1

/-- The world of the operating system. -/
def systemWorld : IO (World IO) := do
  let configHome ← IO.getEnv "XDG_CONFIG_HOME"
  let home ← IO.getEnv "HOME"
  return {
    environment := ⟨configHome.map Text.ofString, home.map Text.ofString⟩
    input := attempt do readAll (← IO.getStdin) .empty
    isDirectory := fun p => do
      match ← attempt (probe (String.ofList p)) with
      | .error .isDirectory => return true
      | _ => return false
    read := fun p => attempt (IO.FS.readBinFile (String.ofList p))
    write := fun p bytes => attempt (IO.FS.writeBinFile (String.ofList p) bytes)
    makeDirectories := fun p => attempt (IO.FS.createDirAll (String.ofList p)) }

end RtlLiterals

open RtlLiterals in
/-- Runs the program. -/
def main (args : List String) : IO UInt32 := do
  let outcome ← (← systemWorld).run (args.map Text.ofString)
  let output ← IO.getStdout
  let diagnostics ← IO.getStderr
  diagnostics.putStr (String.ofList outcome.diagnostics)
  output.putStr (String.ofList outcome.output)
  output.flush
  return outcome.exitCode.toUInt32
