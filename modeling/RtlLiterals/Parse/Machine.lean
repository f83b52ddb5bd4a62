import RtlLiterals.Parse.HandReader
import RtlLiterals.Parse.Stack

/-!
# RtlLiterals.Parse.Machine -- reading tokens and putting nodes together

The machine holds the shared stacks, the parser states made so far and the best finished tree.
Its moves are: read the next token of a version, push a token, put a node together from the top of
a version, and finish a document.

## §A Reading a token

A version expects the tokens of its state. If none of them is there, all tokens that recovery looks
for are tried at the same place; if none of those is there either, text is skipped up to a place
where one is.
-/

namespace RtlLiterals.Parse

open RtlLiterals.Grammar

/-- A text to be parsed with a grammar. -/
structure Job where
  tables : Tables
  reader : HandReader
  input : Array Char
  /-- The number of bytes before each place. -/
  bytes : Array Nat
  /-- The number of line feeds before each place. -/
  rows : Array Nat

/-- Prepares a text for parsing. -/
def Job.of (tables : Tables) (reader : HandReader) (text : List Char) : Job :=
  let (bytes, rows) := text.foldl (fun (bytes, rows) c =>
    (bytes.push (bytes.back?.getD 0 + c.utf8Size),
      rows.push (rows.back?.getD 0 + (if c == '\n' then 1 else 0)))) (#[0], #[0])
  ⟨tables, reader, text.toArray, bytes, rows⟩

/-- The length of the text before a place. -/
def Job.extentAt (job : Job) (p : Nat) : Extent := ⟨p, job.bytes.getD p 0, job.rows.getD p 0⟩

/-- The length of the text between two places. -/
def Job.extentBetween (job : Job) (p q : Nat) : Extent := (job.extentAt q).sub (job.extentAt p)

/-- The state of parsing. -/
structure Machine where
  automaton : Automaton
  stack : Stack
  /-- The best finished tree. -/
  finished : Option Subtree
  accepted : Nat
deriving Inhabited

/-- Parsing with a job at hand. -/
abbrev ParseM := ReaderT Job (StateM Machine)

namespace ParseM

/-- The shared stacks. -/
def stack : ParseM Stack := return (← get).stack

/-- Changes the shared stacks. -/
def modifyStack (f : Stack → Stack) : ParseM Unit :=
  modify fun m =>
    let s := m.stack
    let m := { m with stack := default }
    { m with stack := f s }

/-- Changes the shared stacks and gives an answer. -/
def onStack {α : Type} (f : Stack → Stack × α) : ParseM α :=
  modifyGet fun m =>
    let s := m.stack
    let m := { m with stack := default }
    let (s, r) := f s
    (r, { m with stack := s })

/-- Asks the automaton, which may make new states. -/
def onAutomaton {α : Type} (f : Tables → Automaton → Automaton × α) : ParseM α := do
  let tables := (← read).tables
  modifyGet fun m =>
    let a := m.automaton
    let m := { m with automaton := default }
    let (a, r) := f tables a
    (r, { m with automaton := a })

/-- What a state does with a token. -/
def actions (state token : Nat) : ParseM (List Action) :=
  onAutomaton fun tb a => a.actionsOf tb state token

/-- The state after a symbol; zero if there is none. -/
def target (state symbol : Nat) : ParseM Nat := onAutomaton fun tb a => a.target tb state symbol

/-- A parser state. -/
def stateInfo (state : Nat) : ParseM State := return (← get).automaton.states.getD state default

end ParseM

/-! ### Reading a token -/

/-- What was found in the text. -/
inductive Found where
  | token (token start stop : Nat)
  | hand (read : HandRead)
  | error (start stop : Nat)

/-- What a reader of tokens looks for. -/
structure Wanted where
  expected : Expected
  hands : Nat
  memory : Option Nat
  /-- Empty tokens read by hand are taken. -/
  takeEmpty : Bool

/-- Reads a token by hand, unless it would be an empty one that must not be taken. -/
def readByHand (job : Job) (w : Wanted) (pos : Nat) : Option HandRead :=
  if w.hands = 0 then none
  else
    match job.reader job.input pos w.hands.testBit w.memory with
    | none => none
    | some r =>
      let extra := job.tables.extraTokens.contains (job.tables.flat.handTokens.getD r.token 0)
      if r.stop ≤ pos && r.memory == w.memory && (!w.takeEmpty || extra) then none else some r

/-- Reads a token at `pos`. While recovering, `skipped` is the stretch passed over so far; `fuel`
bounds the number of places tried. -/
def lex (job : Job) (normal recovery : Wanted) :
    Nat → (recovering : Bool) → (pos : Nat) → (start : Nat) → Option (Nat × Nat) → Found
  | 0, _, pos, start, _ => .error start pos
  | fuel + 1, recovering, pos, start, skipped =>
    let w := if recovering then recovery else normal
    match readByHand job w pos with
    | some r =>
      match skipped with
      | some (a, b) => .error a b
      | none => .hand { r with start := min r.start r.stop }
    | none =>
      let bom := pos = 0 && job.input[0]? == some '\uFEFF'
      let r := job.tables.lexicon.read w.expected job.input (if bom then 1 else pos)
      match r.token with
      | some (t, stop) =>
        match skipped with
        | some (a, b) => .error a b
        | none => .token t (min r.start stop) stop
      | none =>
        if !recovering then lex job normal recovery fuel true start start none
        else
          let (a, b) := skipped.getD (r.start, r.start)
          if r.reach = b then
            if job.input.size ≤ r.reach then .error a b
            else lex job normal recovery fuel true (r.reach + 1) start (some (a, r.reach + 1))
          else lex job normal recovery fuel true r.reach start (some (a, r.reach))

/-- Reads the next token of a version in a state. Nothing is read where a construct that may stand
anywhere ends. -/
def readToken (version state : Nat) : ParseM (Option Subtree) := do
  let job ← read
  let info ← ParseM.stateInfo state
  if info.endsExtra then return none
  let stack ← ParseM.stack
  let pos := (stack.position version).chars
  let memory := (stack.head version).memory
  let recovery ← ParseM.stateInfo errorState
  let normal : Wanted := ⟨info.expected, info.hands, memory,
    state != errorState && stack.hasAdvanced version⟩
  let allHands := (1 <<< job.tables.flat.handTokens.size) - 1
  let found := lex job normal ⟨recovery.expected, allHands, memory, false⟩
    (2 * job.input.size + 4) (state == errorState) pos pos none
  let leaf (kind : Kind) (start stop : Nat) : Subtree :=
    .leaf job.tables kind (job.extentBetween pos start) (job.extentBetween start stop)
  match found with
  | .error start stop => return some (leaf .error start stop)
  | .hand r =>
    let symbol := job.tables.flat.handTokens.getD r.token 0
    return some ((leaf (.symbol symbol) r.start r.stop).withInfo fun i =>
      { i with byHand := true, memory := r.memory, memoryChanged := r.memory != memory })
  | .token t start stop =>
    if t != 1 then return some (leaf (.symbol t) start stop)
    let text := String.ofList (job.input.extract start stop).toList
    match job.tables.keywords.get? text with
    | none => return some (leaf (.symbol t) start stop)
    | some k =>
      let acts ← ParseM.actions state k
      let symbol := if acts.isEmpty then t else k
      return some ((leaf (.symbol symbol) start stop).withInfo fun i => { i with keyword := true })

/-! ### Comparing versions -/

/-- The standing of a version among the others. -/
structure Standing where
  cost : Nat
  /-- The progress since the last error. -/
  progress : Nat
  dynamic : Int
  /-- The version has met an error and has not yet got over it. -/
  inError : Bool

/-- The outcome of comparing two versions. -/
inductive Preference where
  /-- The first one is clearly better. -/
  | takeLeft
  /-- The first one is better. -/
  | preferLeft
  | neither
  | preferRight
  | takeRight
deriving BEq

/-- How much worse a version may be before it is dropped. -/
def maxCostDifference : Nat := 18 * costOfSkippedTree

/-- Compares two versions: errors first, then costs, weighed by progress, then preferences. -/
def Standing.compare (a b : Standing) : Preference :=
  if !a.inError && b.inError then if a.cost < b.cost then .takeLeft else .preferLeft
  else if a.inError && !b.inError then if b.cost < a.cost then .takeRight else .preferRight
  else if a.cost < b.cost then
    if maxCostDifference < (b.cost - a.cost) * (1 + a.progress) then .takeLeft else .preferLeft
  else if b.cost < a.cost then
    if maxCostDifference < (a.cost - b.cost) * (1 + b.progress) then .takeRight else .preferRight
  else if b.dynamic < a.dynamic then .preferLeft
  else if a.dynamic < b.dynamic then .preferRight
  else .neither

/-- The standing of a version. -/
def Stack.standing (s : Stack) (v : Nat) : Standing :=
  let paused := s.isPaused v
  { cost := s.cost v + (if paused then costOfSkippedTree else 0)
    progress := s.progress v
    dynamic := (s.top v).dynamic
    inError := paused || s.state v == errorState }

/-- Some other version, or a finished tree, makes it pointless to go on with a version at a cost. -/
def betterVersionExists (version : Nat) (inError : Bool) (cost : Nat) : ParseM Bool := do
  let m ← get
  if (m.finished.map fun t => decide (t.cost ≤ cost)).getD false then return true
  ParseM.modifyStack fun s => (List.range s.heads.size).foldl Stack.settleProgress s
  let s ← ParseM.stack
  let own : Standing := ⟨cost, s.progress version, (s.top version).dynamic, inError⟩
  return (List.range s.heads.size).any fun i =>
    if i = version || !s.isActive i || (s.position i).bytes < (s.position version).bytes then false
    else
      match own.compare (s.standing i) with
      | .takeRight => true
      | .preferRight => s.canMerge i version
      | _ => false

/-! ### Putting nodes together -/

/-- The number of versions kept. -/
def maxVersions : Nat := 6

/-- The number of versions by which that may be exceeded for a while. -/
def maxVersionOverflow : Nat := 4

/-- Puts one node together from several lists of children that lead to the same version, and
chooses among them. Gives the node and the extras after it. -/
def chooseNode (tb : Tables) (symbol production : Nat) (slices : List (List Subtree)) :
    Option (Subtree × List Subtree) :=
  slices.foldl (fun best trees =>
    let (children, extras) := Subtree.splitTrailingExtras trees
    let node := Subtree.node tb (.symbol symbol) (some production) children
    match best with
    | none => some (node, extras)
    | some (old, _) => if old.prefersRight node then some (node, extras) else best) none

/-- Groups neighbouring slices of the same version. -/
def groupSlices (slices : List Slice) : List (Nat × List (List Subtree)) :=
  slices.foldr (fun sl groups =>
    match groups with
    | (v, ts) :: rest => if v = sl.version then (v, sl.trees :: ts) :: rest
      else (sl.version, [sl.trees]) :: groups
    | [] => [(sl.version, [sl.trees])]) []

/-- Puts a node together on top of a version, along every path. The results are new versions; gives
the first of them, if any was kept. -/
def reduce (version symbol count production : Nat) (dynamic : Int) (endsExtra : Bool) :
    ParseM (Option Nat) := do
  let tables := (← read).tables
  let initialCount := (← ParseM.stack).heads.size
  let slices ← ParseM.onStack fun s => s.popCount version count
  let halted := (← ParseM.stack).haltedCount
  let mut removed := 0
  for (sliceVersion, treeLists) in groupSlices slices.toList do
    let v := sliceVersion - removed
    if maxVersions + maxVersionOverflow + halted < v then
      ParseM.modifyStack fun s => s.remove v
      removed := removed + 1
    else
      match chooseNode tables symbol production treeLists with
      | none => pure ()
      | some (node, extras) =>
        let state := (← ParseM.stack).state v
        let next ← ParseM.target state symbol
        let node := node.withInfo fun i =>
          { i with
            extra := i.extra || (endsExtra && next == state)
            dynamic := i.dynamic + dynamic }
        ParseM.modifyStack fun s =>
          extras.foldl (fun s e => s.push v (some e) next) (s.push v (some node) next)
        for j in [0:v] do
          if j != version then
            let merged ← ParseM.onStack fun s => s.merge j v
            if merged then
              removed := removed + 1
              break
  let finalCount := (← ParseM.stack).heads.size
  return if initialCount < finalCount then some initialCount else none

/-- Finishes a document: the tree of the version, with everything around it, competes with the
trees finished before. -/
def accept (version : Nat) (lookahead : Subtree) : ParseM Unit := do
  let tables := (← read).tables
  ParseM.modifyStack fun s => s.push version (some lookahead) startState
  let slices ← ParseM.onStack fun s => s.popAll version
  for slice in slices do
    let trees := slice.trees
    let after := (trees.reverse.takeWhile (·.info.extra)).reverse
    let before := trees.take (trees.length - after.length)
    match before.getLast? with
    | none => pure ()
    | some root =>
      let children := before.dropLast ++ root.children ++ after
      let tree := Subtree.node tables root.info.kind root.info.production children
      modify fun m =>
        let better := match m.finished with
          | none => true
          | some old => old.prefersRight tree
        { m with
          accepted := m.accepted + 1
          finished := if better then some tree else m.finished }
  match slices[0]? with
  | some slice => ParseM.modifyStack fun s => s.remove slice.version
  | none => pure ()
  ParseM.modifyStack fun s => s.halt version

end RtlLiterals.Parse
