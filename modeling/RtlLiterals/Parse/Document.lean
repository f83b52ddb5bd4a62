import RtlLiterals.Parse.Recovery

/-!
# RtlLiterals.Parse.Document -- from a text to a tree

The versions take turns at reading tokens. After each turn they are put in order, versions that
are clearly worse than others are dropped, and when all of them are stuck the best one recovers.
Parsing ends when a finished tree is better than every version left.
-/

namespace RtlLiterals.Parse

open RtlLiterals.Grammar

/-- Lets a version act on its next token until it has read it, met an error or come to an end. -/
def advance (version : Nat) : ParseM Unit := do
  let tables := (← read).tables
  let mut state := (← ParseM.stack).state version
  let mut lookahead ← readToken version state
  for _ in [0:10000] do
    let acts ← match lookahead with
      | some t => if t.isError then pure [] else ParseM.actions state t.symbol
      | none => ParseM.actions state tables.endOfExtra
    let mut lastMade : Option Nat := none
    let mut reduced := false
    for action in acts do
      match action, lookahead with
      | .shift true, _ => pure ()
      | .shift false, some t =>
        let next ← ParseM.target state t.symbol
        ParseM.modifyStack fun s =>
          let s := s.push version (some t) next
          if t.info.byHand then s.modifyHead version fun h => { h with memory := t.info.memory } else s
        return
      | .shiftExtra, some t =>
        let here := state
        ParseM.modifyStack fun s =>
          let s := s.push version (some (t.withInfo fun i => { i with extra := true })) here
          if t.info.byHand then s.modifyHead version fun h => { h with memory := t.info.memory } else s
        return
      | .reduce p, _ =>
        let production := tables.productions.getD p default
        let made ← reduce version production.head production.steps.size p production.dynamic
          lookahead.isNone
        reduced := true
        if made.isSome then lastMade := made
      | .accept, some t =>
        accept version t
        return
      | .recover, some t =>
        recover version t
        return
      | _, none => pure ()
    match lastMade with
    | some v =>
      ParseM.modifyStack fun s => s.renumber v version
      state := (← ParseM.stack).state version
      if lookahead.isNone then lookahead ← readToken version state
      continue
    | none => pure ()
    if reduced then
      ParseM.modifyStack fun s => s.halt version
      return
    match lookahead with
    | none =>
      ParseM.modifyStack fun s => s.halt version
      return
    | some t =>
      let wordActions ← if t.info.keyword && t.symbol != 1 then ParseM.actions state 1 else pure []
      if wordActions.isEmpty then
        ParseM.modifyStack fun s => s.pause version t
        return
      lookahead := some (t.withInfo fun i => { i with kind := .symbol 1 })

/-- Compares each version with those before it, drops the clearly worse ones, joins those that
agree and moves better ones forward. Gives the least cost of a version that is not in error. -/
def orderVersions : ParseM (Option Nat) := do
  let mut least : Option Nat := none
  let mut i := 0
  for _ in [0:1000] do
    let here := i
    if (← ParseM.stack).heads.size ≤ here then break
    if (← ParseM.stack).isHalted here then
      ParseM.modifyStack fun s => s.remove here
      continue
    ParseM.modifyStack fun s => s.settleProgress here
    let standing := (← ParseM.stack).standing here
    if !standing.inError then
      least := match least with
        | some c => some (min c standing.cost)
        | none => some standing.cost
    -- compare with the versions before
    let mut j := 0
    let mut gone := false
    for _ in [0:1000] do
      let (self, other) := (i, j)
      if gone || self ≤ other then break
      ParseM.modifyStack fun s => s.settleProgress other
      let rival := (← ParseM.stack).standing other
      match rival.compare standing with
      | .takeLeft =>
        ParseM.modifyStack fun s => s.remove self
        gone := true
      | .preferLeft | .neither =>
        if ← ParseM.onStack fun s => s.merge other self then gone := true
        else j := j + 1
      | .preferRight =>
        if ← ParseM.onStack fun s => s.merge other self then gone := true
        else
          ParseM.modifyStack fun s => s.swap self other
          j := j + 1
      | .takeRight =>
        ParseM.modifyStack fun s => s.remove other
        i := i - 1
    if !gone then i := i + 1
  return least

/-- Keeps the best versions, in order, and lets the best one recover if it is stuck. Gives the
least cost of a version. -/
def condense : ParseM (Option Nat) := do
  let mut least ← orderVersions
  ParseM.modifyStack fun s => { s with heads := s.heads.extract 0 maxVersions }
  let mut i := 0
  let mut running := false
  let count := (← ParseM.stack).heads.size
  let mut left := count
  for _ in [0:count] do
    let here := i
    if left ≤ here then break
    match ((← ParseM.stack).head here).status with
    | .paused lookahead =>
      if !running && (← get).accepted < maxVersions then
        least := some ((← ParseM.stack).cost here)
        ParseM.modifyStack fun s => s.resume here
        handleError here lookahead
        running := true
        i := i + 1
      else
        ParseM.modifyStack fun s => s.remove here
        left := left - 1
    | _ =>
      running := true
      i := i + 1
  return least

/-- Parses until nothing is left to do; `fuel` bounds the number of turns. -/
def turns : Nat → Nat → ParseM Unit
  | 0, _ => return
  | fuel + 1, last => do
    let mut lastPosition := last
    let mut version := 0
    for _ in [0:1000] do
      let v := version
      if (← ParseM.stack).heads.size ≤ v then break
      for _ in [0:1000] do
        if !(← ParseM.stack).isActive v then break
        advance v
        let position := ((← ParseM.stack).position v).bytes
        if lastPosition < position || (0 < v && position = lastPosition) then
          lastPosition := position
          break
      version := v + 1
    let least ← condense
    let m ← get
    let done := match m.finished, least with
      | some t, some c => decide (t.cost < c)
      | some _, none => true
      | none, _ => false
    if done || version = 0 then return
    turns fuel lastPosition

/-- The tree of a text. -/
def parse (tables : Tables) (automaton : Automaton) (reader : HandReader) (text : List Char) :
    Option Subtree :=
  let job := Job.of tables reader text
  let machine : Machine := ⟨automaton, .initial, none, 0⟩
  ((turns (20 * text.length + 200) 0).run job machine).2.finished

end RtlLiterals.Parse
