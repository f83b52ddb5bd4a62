import RtlLiterals.Grammar.Items

/-!
# RtlLiterals.Grammar.Automaton -- parser states, made when they are needed

A parser state is the set of items that fit what has been read. States are made on demand and
kept: the automaton of a grammar is never built as a whole. What a state does with a token is
found from its items, and conflicts between items are settled by precedence and associativity; a
conflict that they do not settle is kept as several actions.

## §A Fixed states

State `0` is the one in which the parser looks for a token to go on with after an error; state
`1` is the start of a document.
-/

namespace RtlLiterals.Grammar

open Std (HashMap)

/-- The items of a state that are not implied by others, with the tokens that may follow. -/
abbrev Kernel := Array (Nat × TokenSet)

/-- A parser state. -/
structure State where
  kernel : Kernel
  /-- For each rule that may start here, the tokens that may follow it; zero for the others. -/
  rules : Array TokenSet
  /-- The tokens for which the state has an action. -/
  tokens : TokenSet
  /-- A construct that may stand anywhere ends here, whatever follows. -/
  endsExtra : Bool
  expected : Expected
  /-- The hand-read tokens expected here, by their order in the grammar. -/
  hands : Nat
deriving Inhabited

/-- What a parser does with a token. -/
inductive Action where
  /-- Reads the token and moves on; not done where a repetition is put together first. -/
  | shift (repetition : Bool)
  /-- Reads the token and stays. -/
  | shiftExtra
  | reduce (production : Nat)
  | accept
  /-- Skips the token while looking for one to go on with. -/
  | recover
deriving Inhabited, BEq, Repr

/-- The states made so far. -/
structure Automaton where
  states : Array State
  numbers : HashMap Kernel Nat
  /-- Moves found, by state and symbol; zero where there is none. -/
  moves : HashMap Nat Nat
  actions : HashMap Nat (List Action)
  /-- The tokens that start a construct that may stand anywhere, with the state after them. -/
  extraStarts : List (Nat × Nat)
deriving Inhabited

/-- The state in which recovery looks for a token. -/
def errorState : Nat := 0

/-- The state at the start of a document. -/
def startState : Nat := 1

namespace Tables

/-- Adds what a rule before which the dot stands brings into a state. -/
def openRule (tb : Tables) (rule : Nat) (follow : TokenSet) (rules : Array TokenSet) :
    Array TokenSet :=
  (tb.closures.getD rule []).foldl (fun rules o =>
    rules.modify o.rule fun set => set ||| o.follow ||| (if o.last then follow else 0)) rules

/-- The tokens that may follow each rule that may start in a state. -/
def closeKernel (tb : Tables) (kernel : Kernel) : Array TokenSet :=
  kernel.foldl (fun rules (i, la) =>
    let item := tb.items.getD i default
    match item.next with
    | some x =>
      if tb.isToken x then rules
      else
        let follow := match item.after with
          | some y => tb.first.getD y 0
          | none => la
        tb.openRule (x - tb.tokenCount) follow rules
    | none => rules) (Array.replicate tb.closures.size 0)

/-- The tokens that the items of a state act on. -/
def itemTokens (tb : Tables) (kernel : Kernel) (rules : Array TokenSet) : TokenSet :=
  let fromKernel := kernel.foldl (fun set (i, la) =>
    match (tb.items.getD i default).next with
    | some x => if tb.isToken x then set ||| TokenSet.single x else set
    | none => set ||| la) 0
  let fromRules := (rules.zip tb.opening).foldl (fun set (la, opening) =>
    if la = 0 then set else set ||| opening) fromKernel
  tb.empty.foldl (fun set p =>
    set ||| rules.getD ((tb.productions.getD p default).head - tb.tokenCount) 0) fromRules

/-- Makes a state. -/
def makeState (tb : Tables) (extraStarts : List (Nat × Nat)) (kernel : Kernel) : State :=
  let rules := tb.closeKernel kernel
  let own := if kernel.isEmpty then tb.recoverable else tb.itemTokens kernel rules
  let endsExtra := !kernel.isEmpty && own.has tb.endOfExtra
  let tokens :=
    if endsExtra then own
    else
      let withExtras := tb.extraTokens.foldl (fun set t => set ||| TokenSet.single t) own
      extraStarts.foldl (fun set (t, _) => set ||| TokenSet.single t) withExtras
  let listed := (tokens &&& ((1 <<< tb.tokenCount) - 1))
  let words := listed &&& tb.keywordSet
  let read := if words = 0 then listed else (listed ^^^ words) ||| TokenSet.single 1
  let hands := tb.flat.handTokens.toList.zipIdx.foldl (fun bits (t, i) =>
    if tokens.has t then bits ||| (1 <<< i) else bits) 0
  { kernel := kernel
    rules := rules
    tokens := tokens
    endsExtra := endsExtra
    expected := tb.lexicon.expect (read.toList tb.tokenCount)
    hands := hands }

end Tables

namespace Automaton

/-- The number of the state with the given items, which is made if it is new. -/
def enter (tb : Tables) (a : Automaton) (kernel : Kernel) : Automaton × Nat :=
  match a.numbers.get? kernel with
  | some n => (a, n)
  | none =>
    let n := a.states.size
    let state := tb.makeState a.extraStarts kernel
    ({ a with states := a.states.push state, numbers := a.numbers.insert kernel n }, n)

/-- Puts the items of a kernel into their order, each once. -/
def normalize (items : List (Nat × TokenSet)) : Kernel :=
  let sorted := items.mergeSort fun a b => a.1 ≤ b.1
  (sorted.foldl (fun (acc : Kernel) (i, la) =>
    match acc.back? with
    | some (j, lb) => if i = j then acc.pop.push (j, la ||| lb) else acc.push (i, la)
    | none => acc.push (i, la)) #[])

/-- The items after reading a symbol in a state. -/
def successor (tb : Tables) (s : State) (x : Nat) : Kernel :=
  let moved := s.kernel.toList.filterMap fun (i, la) =>
    let item := tb.items.getD i default
    if item.next = some x then some (item.advanced, la) else none
  let opened := (tb.starting.getD x #[]).toList.filterMap fun i =>
    let la := s.rules.getD ((tb.items.getD i default).head - tb.tokenCount) 0
    if la = 0 then none else some (i, la)
  normalize (moved ++ opened)

/-- The key of a state and a symbol. -/
def pairKey (tb : Tables) (s x : Nat) : Nat := s * (tb.flat.symbols.size + 1) + x

/-- The state after reading a symbol by its items; zero if no item expects it. -/
def move (tb : Tables) (a : Automaton) (s x : Nat) : Automaton × Nat :=
  let key := pairKey tb s x
  match a.moves.get? key with
  | some n => (a, n)
  | none =>
    let kernel := successor tb (a.states.getD s default) x
    let (a, n) := if kernel.isEmpty then (a, 0) else a.enter tb kernel
    ({ a with moves := a.moves.insert key n }, n)

/-! ### Conflicts -/

/-- An entry of an order stands for a precedence, or for one of some rules. -/
def entryMatches (tb : Tables) (entry : OrderEntry) (level : Level) (heads : List Nat) : Bool :=
  match entry with
  | .named n => level == .named n
  | .rule n => heads.any fun h => (tb.flat.symbols[h]?.map (·.rule)) == some n

/-- How two precedences compare in one order, if it compares them. -/
def compareIn (tb : Tables) (l : Level) (lh : List Nat) (r : Level) (rh : List Nat) :
    List OrderEntry → Bool → Bool → Option Ordering
  | [], _, _ => none
  | e :: es, sawLeft, sawRight =>
    if entryMatches tb e l lh then
      if sawRight then some .lt else compareIn tb l lh r rh es true sawRight
    else if entryMatches tb e r rh then
      if sawLeft then some .gt else compareIn tb l lh r rh es sawLeft true
    else compareIn tb l lh r rh es sawLeft sawRight

/-- How two precedences compare: numbers by size, with nothing said counting as zero, names and
rules by the first order that has both. -/
def compareLevels (tb : Tables) (l : Level) (lh : List Nat) (r : Level) (rh : List Nat) : Ordering :=
  let byOrders := ((tb.flat.orders.findSome? fun order =>
    compareIn tb l lh r rh order false false)).getD .eq
  match l, r with
  | .value m, .value n => if m ≠ 0 ∨ n ≠ 0 then compare m n else byOrders
  | .value m, .none => if m ≠ 0 then compare m 0 else byOrders
  | .none, .value n => if n ≠ 0 then compare 0 n else byOrders
  | _, _ => byOrders

/-- The reductions that a state allows before a token, with what decides conflicts. -/
structure Reductions where
  actions : List Action
  level : Level
  heads : List Nat
  left : Bool
  right : Bool
  /-- Some reduction does not say how it groups. -/
  plain : Bool

/-- Adds a reduction: weaker ones give way to stronger ones. -/
def Reductions.add (tb : Tables) (r : Reductions) (action : Action) (level : Level)
    (assoc : Option Assoc) (head : Nat) : Reductions :=
  let mark (r : Reductions) : Reductions :=
    { r with
      level := level
      heads := if r.heads.contains head then r.heads else r.heads ++ [head]
      left := r.left || assoc == some .left
      right := r.right || assoc == some .right
      plain := r.plain || assoc.isNone }
  if r.actions.isEmpty then mark { r with actions := [action] }
  else
    match compareLevels tb level [head] r.level r.heads with
    | .gt => mark ⟨[action], .none, [], false, false, false⟩
    | .eq => mark { r with actions := r.actions ++ [action] }
    | .lt => r

/-- The reductions that a state allows before a token. -/
def reductions (tb : Tables) (s : State) (t : Nat) : Reductions :=
  let fromEmpty := tb.empty.foldl (fun r p =>
    let production := tb.productions.getD p default
    if (s.rules.getD (production.head - tb.tokenCount) 0).has t then
      r.add tb (.reduce p) .none none production.head
    else r) ⟨[], .none, [], false, false, false⟩
  s.kernel.foldl (fun r (i, la) =>
    let item := tb.items.getD i default
    if item.next.isNone && la.has t then
      let action := if item.head = tb.flat.symbols.size then .accept else .reduce item.production
      r.add tb action item.level item.assoc item.head
    else r) fromEmpty

/-- The symbol was made for a repetition. -/
def isRepetition (tb : Tables) (head : Nat) : Bool :=
  (tb.flat.symbols[head]?.map (·.repeated)).getD false

/-- Settles a conflict between reading a token and reducing before it. -/
def settle (tb : Tables) (s : State) (t : Nat) (r : Reductions) : List Action :=
  let reading := s.kernel.toList.filterMap fun (i, _) =>
    let item := tb.items.getD i default
    match item.next with
    | some x => if 0 < item.dot && (tb.first.getD x 0).has t then some item else none
    | none => none
  let finished := s.kernel.toList.filterMap fun (i, la) =>
    let item := tb.items.getD i default
    if item.next.isNone && la.has t then some item.head else none
  let heads := reading.map (·.head) ++ finished
  match heads with
  | [] => r.actions ++ [.shift false]
  | h :: _ =>
    if isRepetition tb h && heads.all (· == h) then r.actions ++ [.shift true]
    else
      let orders := reading.map fun item => compareLevels tb item.level [item.head] r.level r.heads
      let more := orders.contains .gt
      let less := orders.contains .lt
      if more && !less then [.shift false]
      else if less && !more then r.actions
      else if !more && !less then
        if r.left && !r.plain && !r.right then r.actions
        else if r.right && !r.plain && !r.left then [.shift false]
        else r.actions ++ [.shift false]
      else r.actions ++ [.shift false]

/-- What a state does with a token by its items. -/
def itemActions (tb : Tables) (s : State) (t : Nat) : List Action :=
  let r := reductions tb s t
  let reads := s.kernel.any (fun (i, _) => (tb.items.getD i default).next == some t) ||
    (tb.starting.getD t #[]).any fun i =>
      s.rules.getD ((tb.items.getD i default).head - tb.tokenCount) 0 != 0
  if !reads then r.actions
  else if r.actions.isEmpty then [.shift false]
  else settle tb s t r

/-- What a state does with a token. -/
def computeActions (tb : Tables) (a : Automaton) (n t : Nat) : List Action :=
  let s := a.states.getD n default
  if !s.tokens.has t then []
  else
    let own := if n = errorState then [] else itemActions tb s t
    if !own.isEmpty then own
    else if s.endsExtra then []
    else if a.extraStarts.any (·.1 == t) then [.shift false]
    else if tb.extraTokens.contains t then [.shiftExtra]
    else if n = errorState then [.recover] else []

/-- What a state does with a token, looked up or computed. -/
def actionsOf (tb : Tables) (a : Automaton) (n t : Nat) : Automaton × List Action :=
  let key := pairKey tb n t
  match a.actions.get? key with
  | some acts => (a, acts)
  | none =>
    let acts := computeActions tb a n t
    ({ a with actions := a.actions.insert key acts }, acts)

/-- The state after a symbol: an extra symbol leaves the state as it is. Zero if the state has no
move. -/
def target (tb : Tables) (a : Automaton) (n x : Nat) : Automaton × Nat :=
  if tb.isToken x then
    let (a, acts) := actionsOf tb a n x
    match acts.getLast? with
    | some (.shift _) =>
      let (a, m) := if n = errorState then (a, 0) else a.move tb n x
      if m ≠ 0 then (a, m)
      else (a, ((a.extraStarts.find? (·.1 == x)).map (·.2)).getD 0)
    | some .shiftExtra => (a, n)
    | _ => (a, 0)
  else if tb.extraRules.contains x then (a, n)
  else a.move tb n x

/-- The automaton with its fixed states and the states after the first token of each construct
that may stand anywhere. -/
def initial (tb : Tables) : Automaton := Id.run do
  -- the items after the first token of each extra construct
  let mut kernels : List (Nat × List (Nat × TokenSet)) := []
  for rule in tb.extraRules do
    for p in tb.productions do
      if p.head = rule then
        match p.steps[0]? with
        | some s =>
          for i in tb.starting.getD s.symbol #[] do
            let item := tb.items.getD i default
            if item.head = rule then
              let entry := (i, TokenSet.single tb.endOfExtra)
              kernels := match kernels.find? (·.1 == s.symbol) with
                | some _ => kernels.map fun (t, es) =>
                  if t == s.symbol && !es.contains entry then (t, es ++ [entry]) else (t, es)
                | none => kernels ++ [(s.symbol, [entry])]
        | none => pure ()
  let starts := kernels.zipIdx.map fun ((t, _), k) => (t, k + 2)
  let origin : Kernel := #[(tb.origin, TokenSet.single 0)]
  let mut a : Automaton := ⟨#[], {}, {}, {}, starts⟩
  a := { a with states := a.states.push (tb.makeState starts #[]) }
  a := (a.enter tb origin).1
  for (_, es) in kernels do
    a := (a.enter tb (normalize es)).1
  return a

end Automaton

end RtlLiterals.Grammar
