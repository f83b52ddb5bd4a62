import RtlLiterals.Parse.Subtree

/-!
# RtlLiterals.Parse.Stack -- several stacks that share their lower parts

The parser follows several readings of a text at once. Each reading is a version: a path of nodes
downward from its head, where every link carries a subtree. Paths that come to the same state at
the same place with the same cost are joined; a joined node has several links downward.

Nodes are kept in one array and refer to each other by number. A link without a subtree marks the
place where an error was found.
-/

namespace RtlLiterals.Parse

open RtlLiterals.Grammar

/-- A step downward: the node below and the subtree between. -/
structure Link where
  node : Nat
  /-- The subtree; none where an error was found. -/
  tree : Option Subtree
deriving Inhabited

/-- A node of the shared stacks. -/
structure Node where
  state : Nat
  position : Extent
  links : Array Link
  /-- The cost of what lies below. -/
  cost : Nat
  /-- The number of nodes that count as progress. -/
  nodeCount : Nat
  dynamic : Int
deriving Inhabited

/-- An earlier state that recovery may go back to. -/
structure Landing where
  position : Extent
  /-- The number of subtrees above it. -/
  depth : Nat
  state : Nat
deriving Inhabited

/-- What becomes of a version. -/
inductive Status where
  | active
  /-- It waits before a token that it cannot read. -/
  | paused (lookahead : Subtree)
  | halted
deriving Inhabited

/-- The head of a version. -/
structure Head where
  node : Nat
  /-- The progress when an error was last found. -/
  countAtError : Nat
  /-- The earlier states noted when an error was found. -/
  landings : Option (Array Landing)
  memory : Option Nat
  status : Status
deriving Inhabited

/-- The shared stacks. -/
structure Stack where
  nodes : Array Node
  heads : Array Head
deriving Inhabited

/-- A popped path: the version below it, and its subtrees from the bottom up. -/
structure Slice where
  /-- The version that ends where the path ends. -/
  version : Nat
  trees : List Subtree
deriving Inhabited

namespace Stack

/-- The greatest number of links of a node. -/
def maxLinks : Nat := 8

/-- The greatest number of paths followed at once. -/
def maxPaths : Nat := 64

/-- One version at the start of a text. -/
def initial : Stack :=
  ⟨#[⟨startState, .zero, #[], 0, 0, 0⟩], #[⟨0, 0, none, none, .active⟩]⟩

/-! ### Looking at versions -/

/-- The head of a version. -/
def head (s : Stack) (v : Nat) : Head := s.heads.getD v default

/-- The topmost node of a version. -/
def top (s : Stack) (v : Nat) : Node := s.nodes.getD (s.head v).node default

/-- The parser state of a version. -/
def state (s : Stack) (v : Nat) : Nat := (s.top v).state

/-- The place of a version in the text. -/
def position (s : Stack) (v : Nat) : Extent := (s.top v).position

/-- The version is followed. -/
def isActive (s : Stack) (v : Nat) : Bool :=
  match (s.head v).status with
  | .active => true
  | _ => false

/-- The version waits before a token that it cannot read. -/
def isPaused (s : Stack) (v : Nat) : Bool :=
  match (s.head v).status with
  | .paused _ => true
  | _ => false

/-- The version is given up. -/
def isHalted (s : Stack) (v : Nat) : Bool :=
  match (s.head v).status with
  | .halted => true
  | _ => false

/-- The number of versions that are given up. -/
def haltedCount (s : Stack) : Nat :=
  (s.heads.filter fun h => match h.status with
    | .halted => true
    | _ => false).size

/-- The cost of a version; one that has just met an error costs a recovery more. -/
def cost (s : Stack) (v : Nat) : Nat :=
  let node := s.top v
  let broken := node.state == errorState && (node.links[0]?.map (·.tree.isNone)).getD false
  if s.isPaused v || broken then node.cost + costOfRecovery else node.cost

/-- The progress of a version since it last met an error. -/
def progress (s : Stack) (v : Nat) : Nat := (s.top v).nodeCount - (s.head v).countAtError

/-! ### Changing versions -/

/-- Changes the head of a version. -/
def modifyHead (s : Stack) (v : Nat) (f : Head → Head) : Stack :=
  { s with heads := s.heads.modify v f }

/-- Gives a version up. -/
def halt (s : Stack) (v : Nat) : Stack := s.modifyHead v fun h => { h with status := .halted }

/-- Makes a version wait before a token. -/
def pause (s : Stack) (v : Nat) (lookahead : Subtree) : Stack :=
  let count := (s.top v).nodeCount
  s.modifyHead v fun h => { h with status := .paused lookahead, countAtError := count }

/-- Lets a version go on. -/
def resume (s : Stack) (v : Nat) : Stack := s.modifyHead v fun h => { h with status := .active }

/-- Removes a version; later versions move down by one. -/
def remove (s : Stack) (v : Nat) : Stack := { s with heads := s.heads.eraseIdxIfInBounds v }

/-- Exchanges two versions. -/
def swap (s : Stack) (v w : Nat) : Stack :=
  { s with heads := s.heads.swapIfInBounds v w }

/-- Puts version `v` in the place of version `w`. -/
def renumber (s : Stack) (v w : Nat) : Stack :=
  if v = w then s
  else
    let source := s.head v
    let landings := match source.landings with
      | some l => some l
      | none => (s.head w).landings
    { s with heads := (s.heads.modify w fun _ => { source with landings := landings }).eraseIdxIfInBounds v }

/-- Adds a copy of a version. -/
def copy (s : Stack) (v : Nat) : Stack × Nat :=
  ({ s with heads := s.heads.push { s.head v with landings := none } }, s.heads.size)

/-- Puts a subtree, or the mark of an error, on top of a version. -/
def push (s : Stack) (v : Nat) (tree : Option Subtree) (state : Nat) : Stack :=
  let below := (s.head v).node
  let prior := s.nodes.getD below default
  let node : Node := match tree with
    | some t =>
      { state := state
        position := prior.position.add t.total
        links := #[⟨below, tree⟩]
        cost := prior.cost + t.cost
        nodeCount := prior.nodeCount + t.nodeCount
        dynamic := prior.dynamic + t.info.dynamic }
    | none => { prior with state := state, links := #[⟨below, none⟩] }
  let number := s.nodes.size
  let s := { s with nodes := s.nodes.push node }
  s.modifyHead v fun h =>
    { h with
      node := number
      countAtError := if tree.isNone then node.nodeCount else h.countAtError }

/-! ### Joining versions -/

/-- Adds a way downward to a node. Ways over equivalent subtrees to the same node are one, and
equivalent subtrees over nodes that can be joined join those nodes. -/
def addLink : Nat → Array Node → Nat → Link → Array Node
  | 0, nodes, _, _ => nodes
  | fuel + 1, nodes, self, link =>
    if link.node = self then nodes
    else
      let node := nodes.getD self default
      let below := nodes.getD link.node default
      let dynamicOver (t : Option Subtree) : Int := (t.map (·.info.dynamic)).getD 0
      let joins (l : Link) : Bool :=
        Subtree.equivalent l.tree link.tree &&
          (l.node == link.node ||
            (let other := nodes.getD l.node default
             other.state == below.state && other.position.bytes == below.position.bytes &&
               other.cost == below.cost))
      match node.links.findIdx? joins with
      | some i =>
        let existing := node.links.getD i default
        if existing.node = link.node then
          if dynamicOver existing.tree < dynamicOver link.tree then
            nodes.modify self fun n =>
              { n with
                links := n.links.modify i fun l => { l with tree := link.tree }
                dynamic := below.dynamic + dynamicOver link.tree }
          else nodes
        else
          let nodes := below.links.foldl (fun nodes l => addLink fuel nodes existing.node l) nodes
          let dynamic := below.dynamic + dynamicOver link.tree
          nodes.modify self fun n => { n with dynamic := max n.dynamic dynamic }
      | none =>
        if maxLinks ≤ node.links.size then nodes
        else
          let count := below.nodeCount + (link.tree.map (·.nodeCount)).getD 0
          let dynamic := below.dynamic + dynamicOver link.tree
          nodes.modify self fun n =>
            { n with
              links := n.links.push link
              nodeCount := max n.nodeCount count
              dynamic := max n.dynamic dynamic }

/-- Two versions have come to the same state at the same place with the same cost. -/
def canMerge (s : Stack) (v w : Nat) : Bool :=
  s.isActive v && s.isActive w && s.state v == s.state w &&
    (s.position v).bytes == (s.position w).bytes && (s.top v).cost == (s.top w).cost &&
    (s.head v).memory == (s.head w).memory

/-- Joins version `w` into version `v` if that is possible, and says whether it was. -/
def merge (s : Stack) (v w : Nat) : Stack × Bool :=
  if s.canMerge v w then
    let self := (s.head v).node
    let nodes := (s.top w).links.foldl (fun nodes l => addLink 200 nodes self l) s.nodes
    let s := { s with nodes := nodes }
    let s :=
      if s.state v = errorState then
        let count := (s.top v).nodeCount
        s.modifyHead v fun h => { h with countAtError := count }
      else s
    (s.remove w, true)
  else (s, false)

/-! ### Following paths downward -/

/-- A path downward from a head. -/
structure Trail where
  node : Nat
  /-- The subtrees passed, from the bottom up. -/
  trees : List Subtree
  /-- The number of subtrees passed, extras not counted. -/
  count : Nat
deriving Inhabited

/-- What to do where a path has come to. -/
structure Verdict where
  take : Bool
  stop : Bool

/-- Goes over a link. -/
def Trail.follow (t : Trail) (l : Link) : Trail :=
  match l.tree with
  | some tree => ⟨l.node, tree :: t.trees, if tree.info.extra then t.count else t.count + 1⟩
  | none => ⟨l.node, t.trees, t.count + 1⟩

/-- Enters a path among the results: paths that end at the same node belong to one version. -/
def addSlice (origin : Nat) (s : Stack) (slices : Array Slice) (t : Trail) : Stack × Array Slice :=
  let sameEnd (sl : Slice) : Bool := (s.head sl.version).node == t.node
  match (slices.toList.zipIdx.filter fun (sl, _) => sameEnd sl).getLast? with
  | some (sl, i) => (s, slices.insertIdxIfInBounds (i + 1) ⟨sl.version, t.trees⟩)
  | none =>
    let from' := s.head origin
    let v := s.heads.size
    ({ s with heads := s.heads.push ⟨t.node, from'.countAtError, none, from'.memory, .active⟩ },
      slices.push ⟨v, t.trees⟩)

/-- The state of following paths: the stack, the results, what the visitor has noted. -/
structure Walk (α : Type) where
  stack : Stack
  slices : Array Slice
  notes : α

/-- Follows all paths by one node. The first link of a node continues its path in place; the
others open paths at the end. -/
def walkRound {α : Type} (origin : Nat) (visit : Stack → Trail → α → Verdict × α) :
    List Trail → Nat → Walk α → List Trail × List Trail × Walk α
  | [], _, w => ([], [], w)
  | t :: ts, size, w =>
    let node := w.stack.nodes.getD t.node default
    let (verdict, notes) := visit w.stack t w.notes
    let w := { w with notes := notes }
    let stop := verdict.stop || node.links.isEmpty
    let w :=
      if verdict.take then
        let (stack, slices) := addSlice origin w.stack w.slices t
        { w with stack := stack, slices := slices }
      else w
    if stop then walkRound origin visit ts (size - 1) w
    else
      let others := (node.links.toList.drop 1).take (maxPaths - size)
      let opened := others.map t.follow
      let (here, later, w) := walkRound origin visit ts (size + opened.length) w
      match node.links[0]? with
      | some l => (t.follow l :: here, opened ++ later, w)
      | none => (here, opened ++ later, w)

/-- Follows all paths until none is left. -/
def walkAll {α : Type} (origin : Nat) (visit : Stack → Trail → α → Verdict × α) :
    Nat → List Trail → Walk α → Walk α
  | 0, _, w => w
  | _ + 1, [], w => w
  | fuel + 1, trails, w =>
    let (here, later, w) := walkRound origin visit trails trails.length w
    walkAll origin visit fuel (here ++ later) w

/-- Follows all paths downward from a version. -/
def walk {α : Type} (s : Stack) (v : Nat) (notes : α)
    (visit : Stack → Trail → α → Verdict × α) : Walk α :=
  walkAll v visit (s.nodes.size + 2) [⟨(s.head v).node, [], 0⟩] ⟨s, #[], notes⟩

/-- Pops `count` subtrees off a version, with the extras among them, along every path. -/
def popCount (s : Stack) (v count : Nat) : Stack × Array Slice :=
  let w := s.walk v () fun _ t _ => (if t.count == count then ⟨true, true⟩ else ⟨false, false⟩, ())
  (w.stack, w.slices)

/-- Pops everything off a version, along every path. -/
def popAll (s : Stack) (v : Nat) : Stack × Array Slice :=
  let w := s.walk v () fun s t _ =>
    (⟨(s.nodes.getD t.node default).links.isEmpty, false⟩, ())
  (w.stack, w.slices)

/-- Pops skipped text off the top of a version, if it lies there. -/
def popError (s : Stack) (v : Nat) : Stack × List Subtree :=
  let hasError := (s.top v).links.any fun l => (l.tree.map (·.isError)).getD false
  if hasError then
    let w := s.walk v false fun _ t found =>
      match t.trees with
      | [] => (⟨false, false⟩, found)
      | tree :: _ => if !found && tree.isError then (⟨true, true⟩, true) else (⟨false, true⟩, found)
    match w.slices[0]? with
    | some sl => (w.stack.renumber sl.version v, sl.trees)
    | none => (w.stack, [])
  else (s, [])

/-- Notes the earlier states of a version down to a depth. -/
def recordLandings (s : Stack) (v maxDepth : Nat) : Stack :=
  let w := s.walk v (#[] : Array Landing) fun s t notes =>
    let node := s.nodes.getD t.node default
    if maxDepth < t.count then (⟨false, true⟩, notes)
    else if notes.any fun l => l.depth == t.count && l.state == node.state then (⟨false, false⟩, notes)
    else (⟨false, false⟩, notes.push ⟨node.position, t.count, node.state⟩)
  s.modifyHead v fun h => { h with landings := some w.notes }

/-- Text was read on the way down from a node to the place of the last error. -/
def advancedBelow (nodes : Array Node) (countAtError : Nat) : Nat → Nat → Bool
  | 0, _ => false
  | fuel + 1, n =>
    let node := nodes.getD n default
    match node.links[0]? with
    | none => false
    | some l =>
      match l.tree with
      | none => false
      | some tree =>
        if 0 < tree.total.bytes then true
        else if countAtError < node.nodeCount && tree.cost == 0 then
          advancedBelow nodes countAtError fuel l.node
        else false

/-- The version has read some text since it last met an error. -/
def hasAdvanced (s : Stack) (v : Nat) : Bool :=
  (s.top v).cost == 0 || advancedBelow s.nodes (s.head v).countAtError s.nodes.size (s.head v).node

/-- Forgets progress that was popped since an error was found. -/
def settleProgress (s : Stack) (v : Nat) : Stack :=
  let count := (s.top v).nodeCount
  if count < (s.head v).countAtError then s.modifyHead v fun h => { h with countAtError := count }
  else s

end Stack

end RtlLiterals.Parse
