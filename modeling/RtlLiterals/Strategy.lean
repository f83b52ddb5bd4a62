import RtlLiterals.Language

/-!
# RtlLiterals.Strategy -- how literals are located

Literals are located either by reading the source as plain text or by walking its syntax tree.
Settings and the command line choose the kind; the language of the document then decides whether
there is a grammar to walk.
-/

namespace RtlLiterals

/-- The choice made in settings and on the command line. -/
inductive StrategyKind where
  | lexical
  | syntactic
deriving DecidableEq, Repr

namespace StrategyKind

/-- The name of a strategy in settings. -/
def name : StrategyKind → Text
  | .lexical => Text.ofString "lexical"
  | .syntactic => Text.ofString "syntax"

/-- The strategy with the given name or alias, without regard to case. -/
def ofName? (t : Text) : Option StrategyKind :=
  let word := Text.lower t
  if word = Text.ofString "lexical" ∨ word = Text.ofString "regex" then some .lexical
  else if word = Text.ofString "syntax" ∨ word = Text.ofString "ast" then some .syntactic
  else none

end StrategyKind

/-- How the literals of one document are located. -/
inductive Strategy where
  | lexical
  | grammar (language : Language)
deriving DecidableEq, Repr

namespace Strategy

/-- The strategy for a document: without a grammar the source is read as plain text. -/
def resolve (kind : StrategyKind) (language : Language) : Strategy :=
  match kind with
  | .lexical => .lexical
  | .syntactic => if language.hasGrammar then .grammar language else .lexical

end Strategy

end RtlLiterals
