import RtlLiterals.File.Error
import RtlLiterals.Path
import RtlLiterals.Text.Utf8

/-!
# RtlLiterals.File.Tree -- a finite tree of directories and files

Everything in the tree is filed under its full name, the names on the way to it from the root.
Paths are followed one component after the other, each of which has to be found in a directory;
`..` leads to the directory above. There are no links, and nobody is denied anything.

## §A Operations

* `resolve`: the full name of what a path leads to.
* `read`, `write`: files. Writing makes a file or replaces what it holds, but makes no directory.
* `makeDirectory`, `makeDirectories`: directories, the second with all that are on the way.
-/

namespace RtlLiterals

/-- What is filed under a name. -/
inductive FileEntry where
  | directory
  | file (bytes : ByteArray)

/-- The entry is a directory. -/
def FileEntry.isDirectory : FileEntry → Bool
  | directory => true
  | file _ => false

/-- The names on the way from the root to an entry. -/
abbrev FullName := List Text

/-- A finite tree of directories and files. -/
structure FileTree where
  /-- The entries below the root. -/
  entries : List (FullName × FileEntry)
  /-- The directory at which relative paths start. -/
  current : FullName

namespace FileTree

/-- The tree with nothing but the current directory and those around it. -/
def empty (current : FullName) : FileTree :=
  ⟨(List.range current.length).map fun n => (current.take (n + 1), .directory), current⟩

/-- The entry with a full name. -/
def find? (t : FileTree) (name : FullName) : Option FileEntry :=
  if name = [] then some .directory else t.entries.lookup name

/-- The tree with an entry added or replaced. -/
def insert (t : FileTree) (name : FullName) (e : FileEntry) : FileTree :=
  { t with entries := (name, e) :: t.entries.filter (·.1 != name) }

/-! ### Following paths -/

/-- The most bytes that a name has. -/
def maxNameBytes : Nat := 255

/-- More bytes than a path has. -/
def pathBytesLimit : Nat := 4096

/-- The directory with a full name is there. -/
def checkDirectory (t : FileTree) (name : FullName) : Except FileError Unit :=
  match t.find? name with
  | some .directory => .ok ()
  | some (.file _) => .error .notDirectory
  | none => .error .notFound

/-- Follows the parts of a path from an entry on. -/
def follow (t : FileTree) : FullName → List Text → Except FileError FullName
  | here, [] => .ok here
  | here, part :: rest => do
    t.checkDirectory here
    if part = [] ∨ part = ['.'] then follow t here rest
    else if part = ['.', '.'] then follow t here.dropLast rest
    else if maxNameBytes < Text.byteLength part then .error .nameTooLong
    else if (t.find? (here ++ [part])).isNone then .error .notFound
    else follow t (here ++ [part]) rest

/-- Where a path starts. -/
def startOf (t : FileTree) (p : Path) : FullName := if p.isAbsolute then [] else t.current

/-- The path is one that can be followed. -/
def checkPath (p : Path) : Except FileError Unit :=
  if p.contains (Char.ofNat 0) then .error .nullCharacter
  else if p = [] then .error .notFound
  else if pathBytesLimit ≤ Text.byteLength p then .error .nameTooLong
  else .ok ()

/-- The full name of the entry that a path leads to. -/
def resolve (t : FileTree) (p : Path) : Except FileError FullName := do
  checkPath p
  let name ← t.follow (t.startOf p) p.split
  if (t.find? name).isSome then .ok name else .error .notFound

/-- A path leads to a directory. -/
def isDirectory (t : FileTree) (p : Path) : Bool :=
  match t.resolve p with
  | .ok name => (t.find? name).any FileEntry.isDirectory
  | .error _ => false

/-- The parts of a path before its last one, the last one, and whether a separator follows it; none
for a path of separators. -/
def lastPart? (p : Path) : Option (List Text × Text × Bool) :=
  let parts := p.split.reverse
  match parts.dropWhile (· == []) with
  | [] => none
  | part :: before => some (before.reverse, part, parts.head? == some [])

/-- The last part of a path is no name: it stands for a directory that has to be there already. -/
def isDots (part : Text) : Bool := part == ['.'] || part == ['.', '.']

/-! ### Files -/

/-- The bytes of the file that a path leads to. -/
def read (t : FileTree) (p : Path) : Except FileError ByteArray := do
  let name ← t.resolve p
  match t.find? name with
  | some (.file bytes) => .ok bytes
  | _ => .error .isDirectory

/-- Where a path would have its file. -/
def fileName (t : FileTree) (p : Path) : Except FileError FullName := do
  checkPath p
  match lastPart? p with
  | none => .error .isDirectory
  | some (before, part, separator) =>
    let here ← t.follow (t.startOf p) before
    t.checkDirectory here
    if isDots part ∨ separator then .error .isDirectory
    else if maxNameBytes < Text.byteLength part then .error .nameTooLong
    else if (t.find? (here ++ [part])).any FileEntry.isDirectory then .error .isDirectory
    else .ok (here ++ [part])

/-- The tree after bytes are written to a file. -/
def write (t : FileTree) (p : Path) (bytes : ByteArray) : Except FileError FileTree :=
  (t.fileName p).map fun name => t.insert name (.file bytes)

/-! ### Directories -/

/-- Where a path would have a new directory. -/
def directoryName (t : FileTree) (p : Path) : Except FileError FullName := do
  checkPath p
  match lastPart? p with
  | none => .error .alreadyExists
  | some (before, part, _) =>
    let here ← t.follow (t.startOf p) before
    t.checkDirectory here
    if isDots part then .error .alreadyExists
    else if maxNameBytes < Text.byteLength part then .error .nameTooLong
    else if (t.find? (here ++ [part])).isSome then .error .alreadyExists
    else .ok (here ++ [part])

/-- The tree after a directory is made. -/
def makeDirectory (t : FileTree) (p : Path) : Except FileError FileTree :=
  (t.directoryName p).map fun name => t.insert name .directory

/-- Makes the first of some directories, and those after it first where it needs them. A directory
that is there already will do. Directories that were made stay even if a later one cannot be. -/
def makeFirst (t : FileTree) : List Path → Except FileError Unit × FileTree
  | [] => (.ok (), t)
  | p :: ps =>
    match t.makeDirectory p with
    | .ok t' => (.ok (), t')
    | .error .notFound =>
      match makeFirst t ps with
      | (.error e, t') => (.error e, t')
      | (.ok (), t') =>
        match t'.makeDirectory p with
        | .ok t'' => (.ok (), t'')
        | .error e => (if t'.isDirectory p then .ok () else .error e, t')
    | .error e => (if t.isDirectory p then .ok () else .error e, t)

/-- Makes a directory and all directories on the way to it. -/
def makeDirectories (t : FileTree) (p : Path) : Except FileError Unit × FileTree :=
  t.makeFirst p.ancestors

end FileTree

end RtlLiterals
