import RtlLiterals.Grammar.Automaton

/-!
# RtlLiterals.Parse.Subtree -- what the parser has read

A subtree is a token or a node over subtrees. Each one is preceded by blanks, its padding. A
subtree that could not be read as the grammar says carries a cost, and a tree without a cost is
free of errors. A token that the parser supplied itself takes no room and is marked as missing.

## §A Costs

Every stretch that was skipped costs by itself, by its bytes, by its lines and by the nodes in
it; every supplied token costs as well. The constants weigh these against each other.
-/

namespace RtlLiterals.Parse

open RtlLiterals.Grammar

/-- A length in characters, bytes and line feeds. -/
structure Extent where
  chars : Nat
  /-- Bytes in UTF-8. -/
  bytes : Nat
  /-- Line feeds. -/
  rows : Nat
deriving BEq, DecidableEq, Inhabited, Repr

namespace Extent

/-- No length. -/
def zero : Extent := ⟨0, 0, 0⟩

/-- One length after the other. -/
def add (a b : Extent) : Extent := ⟨a.chars + b.chars, a.bytes + b.bytes, a.rows + b.rows⟩

/-- The length between two places given by their distance from the start. -/
def sub (a b : Extent) : Extent := ⟨a.chars - b.chars, a.bytes - b.bytes, a.rows - b.rows⟩

end Extent

/-! ### Costs -/

/-- The cost of one stretch of skipped text. -/
def costOfRecovery : Nat := 500

/-- The additional cost of a supplied token. -/
def costOfMissing : Nat := 110

/-- The cost of a skipped node. -/
def costOfSkippedTree : Nat := 100

/-- The cost of a skipped byte. -/
def costOfSkippedByte : Nat := 1

/-- The cost of a skipped line. -/
def costOfSkippedRow : Nat := 30

/-- The cost of skipped text by its length. -/
def costOfLength (e : Extent) : Nat := costOfSkippedByte * e.bytes + costOfSkippedRow * e.rows

/-! ### Subtrees -/

/-- What a token or node is. -/
inductive Kind where
  | symbol (symbol : Nat)
  | error
  /-- Tokens that were skipped, while more may be. -/
  | skipped
deriving BEq, DecidableEq, Inhabited, Repr

/-- What is known of a subtree besides its children. -/
structure Summary where
  kind : Kind
  /-- The production that put it together, if one did. -/
  production : Option Nat
  /-- The blanks before it. -/
  padding : Extent
  size : Extent
  /-- It may stand anywhere and is no part of a production. -/
  extra : Bool
  /-- The parser supplied it. -/
  missing : Bool
  keyword : Bool
  /-- The cost of what could not be read in it. -/
  cost : Nat
  dynamic : Int
  /-- It appears in the tree by its symbol. -/
  visible : Bool
  visibleChildren : Nat
  visibleDescendants : Nat
  arity : Nat
  byHand : Bool
  memory : Option Nat
  /-- Reading it changed what the hand reader remembers. -/
  memoryChanged : Bool
deriving Inhabited

/-- A token or a node over subtrees. -/
inductive Subtree where
  | mk (info : Summary) (children : List Subtree)
deriving Inhabited

namespace Subtree

/-- What is known of the subtree besides its children. -/
def info : Subtree → Summary
  | .mk i _ => i

/-- The children. -/
def children : Subtree → List Subtree
  | .mk _ cs => cs

/-- The length with the blanks before. -/
def total (t : Subtree) : Extent := t.info.padding.add t.info.size

/-- The cost of the subtree, supplied tokens included. -/
def cost (t : Subtree) : Nat :=
  if t.info.missing then costOfMissing + costOfRecovery else t.info.cost

/-- It is text that could not be read. -/
def isError (t : Subtree) : Bool := t.info.kind == .error

/-- It is the end of the text. -/
def isEnd (t : Subtree) : Bool := t.info.kind == .symbol 0

/-- The number of nodes that the parser counts as progress. -/
def nodeCount (t : Subtree) : Nat :=
  t.info.visibleDescendants + (if t.info.visible then 1 else 0) +
    (if t.info.kind == .skipped then 1 else 0)

/-- The symbol as a token number; zero for text that could not be read. -/
def symbol (t : Subtree) : Nat :=
  match t.info.kind with
  | .symbol s => s
  | _ => 0

/-- A symbol appears in the tree. -/
def visibleKind (tb : Tables) : Kind → Bool
  | .symbol s => (tb.flat.symbols[s]?.map (·.visible)).getD false
  | .error => true
  | .skipped => false

/-- A token. -/
def leaf (tb : Tables) (kind : Kind) (padding size : Extent) : Subtree :=
  .mk { kind := kind, production := none, padding := padding, size := size,
        extra := kind == .symbol 0, missing := false, keyword := false, cost := 0, dynamic := 0,
        visible := visibleKind tb kind, visibleChildren := 0, visibleDescendants := 0, arity := 0,
        byHand := false, memory := none, memoryChanged := false } []

/-- A token that the parser supplies. -/
def missingLeaf (tb : Tables) (symbol : Nat) : Subtree :=
  match leaf tb (.symbol symbol) .zero .zero with
  | .mk i cs => .mk { i with missing := true } cs

/-- Changes what is known of a subtree besides its children. -/
def withInfo (f : Summary → Summary) : Subtree → Subtree
  | .mk i cs => .mk (f i) cs

/-- The name that a production gives to its step number `i`. -/
def labelAt (tb : Tables) (production : Option Nat) (i : Nat) : Option Alias :=
  match production with
  | some p => ((tb.productions.getD p default).steps[i]?).bind (·.label)
  | none => none

/-- The part of the cost of a node of skipped text that is due to one child. -/
def skippedChildCost (child : Subtree) : Nat :=
  if child.info.extra || (child.isError && child.info.arity == 0) then 0
  else if child.info.visible then costOfSkippedTree
  else if 0 < child.info.arity then costOfSkippedTree * child.info.visibleChildren
  else 0

/-- Adds a child to the account of a node; `index` counts the children that are no extras. -/
def account (tb : Tables) (acc : Summary × Nat × Bool) (child : Subtree) : Summary × Nat × Bool :=
  let (s, index, isFirst) := acc
  let c := child.info
  let skips := s.kind == .error || s.kind == .skipped
  let named := !c.extra && child.symbol != 0 && (labelAt tb s.production index).isSome
  let shown := named || c.visible
  let s := { s with
    padding := if isFirst then c.padding else s.padding
    size := if isFirst then c.size else s.size.add child.total
    cost := s.cost + (if c.kind == .skipped then 0 else child.cost) +
      (if skips then skippedChildCost child else 0)
    dynamic := s.dynamic + c.dynamic
    visibleDescendants := s.visibleDescendants + c.visibleDescendants + (if shown then 1 else 0)
    visibleChildren := s.visibleChildren +
      (if shown then 1 else if 0 < c.arity then c.visibleChildren else 0)
    byHand := s.byHand || c.byHand
    memory := if c.byHand then c.memory else s.memory
    memoryChanged := s.memoryChanged || c.memoryChanged
    arity := s.arity + 1 }
  (s, if c.extra then index else index + 1, false)

/-- A node over children. -/
def node (tb : Tables) (kind : Kind) (production : Option Nat) (children : List Subtree) : Subtree :=
  let start : Summary :=
    { kind := kind, production := production, padding := .zero, size := .zero, extra := false,
      missing := false, keyword := false, cost := 0, dynamic := 0, visible := visibleKind tb kind,
      visibleChildren := 0, visibleDescendants := 0, arity := 0, byHand := false, memory := none,
      memoryChanged := false }
  let (s, _, _) := children.foldl (account tb) (start, 0, true)
  let skips := kind == .error || kind == .skipped
  .mk { s with cost := s.cost + (if skips then costOfRecovery + costOfLength s.size else 0) } children

/-! ### Choosing between trees -/

mutual
/-- A fixed order of trees, by symbols and numbers of children; earlier trees are preferred. -/
def compare : Nat → Subtree → Subtree → Ordering
  | 0, _, _ => .eq
  | fuel + 1, .mk i cs, .mk j ds =>
    let rank (k : Kind) : Nat :=
      match k with
      | .symbol s => s
      | .skipped => 65534
      | .error => 65535
    if rank i.kind < rank j.kind then .lt
    else if rank j.kind < rank i.kind then .gt
    else if i.arity < j.arity then .lt
    else if j.arity < i.arity then .gt
    else compareAll fuel cs ds

/-- The order of lists of trees. -/
def compareAll : Nat → List Subtree → List Subtree → Ordering
  | fuel + 1, c :: cs, d :: ds =>
    match compare fuel c d with
    | .eq => compareAll fuel cs ds
    | o => o
  | _, _, _ => .eq
end

/-- The second tree is to be taken instead of the first one. -/
def prefersRight (left right : Subtree) : Bool :=
  if right.cost < left.cost then true
  else if left.cost < right.cost then false
  else if left.info.dynamic < right.info.dynamic then true
  else if right.info.dynamic < left.info.dynamic then false
  else if 0 < left.cost then true
  else compare 100000 left right == .gt

/-- Splits off the extras at the end of a list of subtrees. -/
def splitTrailingExtras (ts : List Subtree) : List Subtree × List Subtree :=
  let extras := (ts.reverse.takeWhile (·.info.extra)).reverse
  (ts.take (ts.length - extras.length), extras)

/-- The memory of the hand reader that two tokens are compared by. -/
def leafMemory (t : Subtree) : Option Nat :=
  if t.info.byHand && t.info.arity == 0 then t.info.memory else none

/-- Two subtrees that need not be told apart on the stack. -/
def equivalent : Option Subtree → Option Subtree → Bool
  | none, none => true
  | some a, some b =>
    a.info.kind == b.info.kind &&
      ((0 < a.cost && 0 < b.cost) ||
        (a.info.padding.bytes == b.info.padding.bytes && a.info.size.bytes == b.info.size.bytes &&
          a.info.arity == b.info.arity && a.info.extra == b.info.extra &&
          a.leafMemory == b.leafMemory))
  | _, _ => false

end Subtree

end RtlLiterals.Parse
