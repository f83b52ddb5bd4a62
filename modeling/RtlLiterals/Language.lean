import RtlLiterals.Path
import RtlLiterals.Text.Case

/-!
# RtlLiterals.Language -- languages and how they are recognised

A source text is in one of five languages; plain text is the one without a grammar. A language is
recognised by its short name or by the extension of a file name, in either case without regard
to case.
-/

namespace RtlLiterals

/-- The language of a source text. -/
inductive Language where
  | plainText
  /-- JavaScript, with JSX. -/
  | javaScript
  /-- TypeScript without JSX. -/
  | typeScript
  /-- TypeScript with JSX. -/
  | tsx
  | rust
deriving DecidableEq, Repr

namespace Language

/-- All languages, plain text first. -/
def all : List Language := [.plainText, .javaScript, .typeScript, .tsx, .rust]

/-- The short name, in lower case. -/
def name : Language → Text
  | .plainText => Text.ofString "plaintext"
  | .javaScript => Text.ofString "javascript"
  | .typeScript => Text.ofString "typescript"
  | .tsx => Text.ofString "tsx"
  | .rust => Text.ofString "rust"

/-- The name shown to people. -/
def displayName : Language → Text
  | .plainText => Text.ofString "Plain Text"
  | .javaScript => Text.ofString "JavaScript"
  | .typeScript => Text.ofString "TypeScript"
  | .tsx => Text.ofString "TSX"
  | .rust => Text.ofString "Rust"

/-- The file name extensions of the language. -/
def extensions : Language → List Text
  | .plainText => []
  | .javaScript => ["js", "mjs", "cjs", "jsx"].map Text.ofString
  | .typeScript => ["ts", "mts", "cts"].map Text.ofString
  | .tsx => ["tsx"].map Text.ofString
  | .rust => ["rs"].map Text.ofString

/-- The language can be parsed into a syntax tree. -/
def hasGrammar : Language → Bool
  | .plainText => false
  | _ => true

/-- The language of a file name extension; plain text for one that no language has. -/
def ofExtension (ext : Text) : Language :=
  (all.find? fun l => l.extensions.contains (Text.lower ext)).getD .plainText

/-- The language of a path, by the extension of its last component. -/
def ofPath (p : Path) : Language :=
  match Path.extension? p with
  | some ext => ofExtension ext
  | none => .plainText

/-- The language with the given short name. -/
def ofName? (name : Text) : Option Language := all.find? fun l => l.name = Text.lower name

end Language

end RtlLiterals
