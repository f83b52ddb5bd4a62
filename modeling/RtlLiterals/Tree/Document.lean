import RtlLiterals.Grammar.Rust
import RtlLiterals.Grammar.TypeScript
import RtlLiterals.Tree.Build
import RtlLiterals.Tree.Literals

/-!
# RtlLiterals.Tree.Document -- the syntax tree of a source

Each language with a grammar has its tables, its first parser states and its reader of tokens by
hand. They are made when a document of the language is first parsed.
-/

namespace RtlLiterals

open RtlLiterals.Grammar
open RtlLiterals.Parse

/-- What it takes to parse a language. -/
structure Syntaxis where
  tables : Tables
  /-- The parser states to start with. -/
  automaton : Automaton
  reader : HandReader

/-- Prepares a grammar for parsing. -/
def Syntaxis.of (grammar : Source) (reader : HandReader) : Syntaxis :=
  let tables := Tables.ofFlat grammar.flatten
  ⟨tables, .initial tables, reader⟩

/-- The syntax of JavaScript. -/
def javaScriptSyntax : Thunk Syntaxis := .mk fun _ => .of JavaScript.grammar HandReader.script

/-- The syntax of TypeScript without markup. -/
def typeScriptSyntax : Thunk Syntaxis :=
  .mk fun _ => .of (TypeScript.grammar false) HandReader.typedScript

/-- The syntax of TypeScript with markup. -/
def tsxSyntax : Thunk Syntaxis := .mk fun _ => .of (TypeScript.grammar true) HandReader.typedScript

/-- The syntax of Rust. -/
def rustSyntax : Thunk Syntaxis := .mk fun _ => .of Rust.grammar HandReader.rawStrings

/-- The syntax of a language, if it has a grammar. -/
def Language.syntaxis? : Language → Option (Thunk Syntaxis)
  | .plainText => none
  | .javaScript => some javaScriptSyntax
  | .typeScript => some typeScriptSyntax
  | .tsx => some tsxSyntax
  | .rust => some rustSyntax

/-- The syntax tree of a source in a language with a grammar. -/
def Syntaxis.treeOf (s : Syntaxis) (source : Text) : Option Tree.Node :=
  (parse s.tables s.automaton s.reader source).bind (Tree.ofDocument s.tables source)

/-- A reader of syntax trees: for each language with a grammar, the tree of a source if there is
one. -/
abbrev TreeReader := Language → Option (Text → Option Tree.Node)

/-- The reader by the grammars of this library. -/
def TreeReader.builtin : TreeReader := fun language => language.syntaxis?.map fun s => s.get.treeOf

end RtlLiterals
