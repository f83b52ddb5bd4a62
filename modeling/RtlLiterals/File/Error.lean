import RtlLiterals.Text.Basic

/-!
# RtlLiterals.File.Error -- why an operation on files fails

The causes carry the wording and the number that the operating system gives them.
-/

namespace RtlLiterals

/-- Why an operation on files fails. -/
inductive FileError where
  /-- A directory on the way is not there, or the file itself. -/
  | notFound
  | alreadyExists
  /-- Something on the way is no directory. -/
  | notDirectory
  | isDirectory
  | nameTooLong
  | nullCharacter
  | notText
  | other (wording : Text)
deriving DecidableEq, Repr

/-- The wording of a cause. -/
def FileError.message : FileError → Text
  | notFound => Text.ofString "No such file or directory (os error 2)"
  | alreadyExists => Text.ofString "File exists (os error 17)"
  | notDirectory => Text.ofString "Not a directory (os error 20)"
  | isDirectory => Text.ofString "Is a directory (os error 21)"
  | nameTooLong => Text.ofString "File name too long (os error 36)"
  | nullCharacter => Text.ofString "file name contained an unexpected NUL byte"
  | notText => Text.ofString "stream did not contain valid UTF-8"
  | other wording => wording

end RtlLiterals
