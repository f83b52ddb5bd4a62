import RtlLiterals.Literal.Lexical
import RtlLiterals.Match
import RtlLiterals.Strategy
import RtlLiterals.Tree.Document

/-!
# RtlLiterals.Scan -- the Arabic literals of a document

A scan locates the literals of a source with a strategy and keeps those that hold Arabic script.
-/

namespace RtlLiterals

/-- The literals of a source, located in the syntax tree that a reader has of it; those of a
language without a grammar are located in the plain text. -/
def syntacticSpansBy (reader : TreeReader) (language : Language) (source : Text) : List Span :=
  match reader language with
  | none => lexicalSpans source
  | some treeOf =>
    match treeOf source with
    | some root => Tree.literals language source root
    | none => []

/-- The literals of a source, located by a strategy with the trees of a reader. -/
def Strategy.spansBy (reader : TreeReader) (strategy : Strategy) (source : Text) : List Span :=
  match strategy with
  | .lexical => lexicalSpans source
  | .grammar language => syntacticSpansBy reader language source

/-- The Arabic literals of a source, with the trees of a reader. -/
def scanBy (reader : TreeReader) (strategy : Strategy) (source : Text) : List Match :=
  classify source (strategy.spansBy reader source)

/-! ### With the grammars of this library -/

/-- The literals of a source, located by a strategy. -/
def Strategy.spans (strategy : Strategy) (source : Text) : List Span :=
  strategy.spansBy .builtin source

/-- The Arabic literals of a source. -/
def scanWith (strategy : Strategy) (source : Text) : List Match := scanBy .builtin strategy source

/-- The Arabic literals of a source read as plain text. -/
def scan (source : Text) : List Match := scanWith .lexical source

end RtlLiterals
