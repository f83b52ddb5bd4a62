import RtlLiterals.Parse.Document
import RtlLiterals.Text.Utf8
import RtlLiterals.Tree.Node

/-!
# RtlLiterals.Tree.Build -- from what was parsed to a syntax tree

A parsed subtree keeps everything the parser needs. The syntax tree keeps what can be seen: nodes
with a name of their own, or with one that a production gives them; the children of other nodes
take their place. Ranges in characters become ranges in bytes.
-/

namespace RtlLiterals.Tree

open RtlLiterals.Grammar
open RtlLiterals.Parse

/-- The name of a kind of subtree. -/
def nameOf (tb : Tables) : Kind → String
  | .symbol s => (tb.flat.symbols[s]?.map (·.name)).getD ""
  | .error | .skipped => "ERROR"

mutual
/-- The visible nodes of a subtree whose blanks start at character `pos`, where the production
above gives it the name `label`. -/
def visible (tb : Tables) (source : Text) (label : Option Alias) (pos : Nat) : Subtree → List Node
  | .mk info children =>
    let inner := visibleAll tb source info.production 0 pos children
    let name? := match label with
      | some a => some a.name
      | none => if info.visible then some (nameOf tb info.kind) else none
    match name? with
    | some name =>
      let start := pos + info.padding.chars
      let stop := start + info.size.chars
      let broken := (Subtree.mk info []).cost != 0
      [.mk name (source.byteOffset start) (source.byteOffset stop) broken info.missing inner]
    | none => inner

/-- The visible nodes of subtrees that stand one after the other; `index` counts the steps of the
production above. -/
def visibleAll (tb : Tables) (source : Text) (production : Option Nat) (index pos : Nat) :
    List Subtree → List Node
  | [] => []
  | t :: ts =>
    let label := if t.info.extra then none else Subtree.labelAt tb production index
    visible tb source label pos t ++
      visibleAll tb source production (if t.info.extra then index else index + 1)
        (pos + t.total.chars) ts
end

/-- The syntax tree of a parsed document. -/
def ofDocument (tb : Tables) (source : Text) (document : Subtree) : Option Node :=
  (visible tb source none 0 document).head?

end RtlLiterals.Tree
