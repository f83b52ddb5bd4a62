import RtlLiterals.Text.Basic

/-!
# RtlLiterals.Path -- paths of a Unix file system

A path is a text; `/` separates its components, and nothing is normalised when paths are joined.
Empty components and components `.` do not count, so trailing separators do not either.
-/

namespace RtlLiterals

/-- A path as it is written. -/
abbrev Path := Text

namespace Path

/-- The parts of a path between separators, empty ones included. -/
def split (p : Path) : List Text :=
  p.foldr (fun c parts =>
    if c = '/' then [] :: parts
    else match parts with
      | [] => [[c]]
      | part :: rest => (c :: part) :: rest) [[]]

/-- The path starts at the root directory. -/
def isAbsolute (p : Path) : Bool := p.head? == some '/'

/-- The components that name a step from one directory to the next: empty parts and `.` are
dropped. -/
def steps (p : Path) : List Text := (split p).filter fun part => part != [] && part != ['.']

/-- The components: those of `steps`, and a `.` at the start of a path that does not start at the
root. -/
def components (p : Path) : List Text :=
  match split p with
  | ['.'] :: rest => ['.'] :: rest.filter fun part => part != [] && part != ['.']
  | _ => steps p

/-- A path with the given components. -/
def ofComponents (absolute : Bool) (parts : List Text) : Path :=
  (if absolute then ['/'] else []) ++ List.intercalate ['/'] parts

/-- The path without its last component; the root and the empty path have none. -/
def parent? (p : Path) : Option Path :=
  match components p with
  | [] => none
  | parts => some (ofComponents (isAbsolute p) parts.dropLast)

/-- The paths to the first components, from the longest path to the one with a single component;
the components are given in reverse. -/
def prefixesOf (absolute : Bool) : List Text → List Path
  | [] => []
  | part :: before => ofComponents absolute (part :: before).reverse :: prefixesOf absolute before

/-- The path and the paths that it goes through, from the longest to the one with a single
component. -/
def ancestors (p : Path) : List Path :=
  match components p with
  | [] => if p = [] then [] else [p]
  | parts => p :: prefixesOf (isAbsolute p) parts.dropLast.reverse

/-- The last component, unless it is `..`. -/
def fileName? (p : Path) : Option Text :=
  match (steps p).getLast? with
  | some name => if name = ['.', '.'] then none else some name
  | none => none

/-- The part of a file name after its last dot. A name whose only dot comes first has none. -/
def extensionOfName (name : Text) : Option Text :=
  let ext := (name.reverse.takeWhile (· != '.')).reverse
  if ext.length + 1 < name.length then some ext else none

/-- The extension of the last component. -/
def extension? (p : Path) : Option Text := (fileName? p).bind extensionOfName

/-- The path `q` seen from `p`: an absolute `q` stands for itself. -/
def join (p q : Path) : Path :=
  if isAbsolute q then q
  else if p = [] ∨ p.getLast? = some '/' then p ++ q
  else p ++ '/' :: q

end Path

end RtlLiterals
