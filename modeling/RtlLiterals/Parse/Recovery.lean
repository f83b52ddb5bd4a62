import RtlLiterals.Parse.Machine

/-!
# RtlLiterals.Parse.Recovery -- going on after an error

When no version can read its next token, the best one tries two things. It puts together every
node that it could, whatever comes next, and tries whether one supplied token would let it go on.
And it notes its earlier states, and skips text until a token comes that one of them can read; what
lies between becomes a stretch of skipped text.
-/

namespace RtlLiterals.Parse

open RtlLiterals.Grammar

/-- The greatest depth of the earlier states noted when an error is found. -/
def maxLandingDepth : Nat := 16

/-- Puts together every node that a version could, before the given token or, for zero, before any;
each result is a new version. Says whether some version can read the token then. -/
def reduceAll (start lookahead : Nat) : ParseM Bool := do
  let tables := (← read).tables
  let initialCount := (← ParseM.stack).heads.size
  let mut canShift := false
  let mut version := start
  let tokens := if lookahead = 0 then (List.range (tables.tokenCount - 1)).drop 1 else [lookahead]
  for i in [0:200] do
    let count := (← ParseM.stack).heads.size
    if count ≤ version then break
    let mut merged := false
    for j in [initialCount:version] do
      let joined ← ParseM.onStack fun s => s.merge j version
      if joined then
        merged := true
        break
    if merged then continue
    let state := (← ParseM.stack).state version
    let mut hasShift := false
    let mut reductions : Array (Nat × Nat × Nat × Int) := #[]
    for t in tokens do
      for action in ← ParseM.actions state t do
        match action with
        | .shift false => hasShift := true
        | .recover => hasShift := true
        | .reduce p =>
          let production := tables.productions.getD p default
          let size := production.steps.size
          if 0 < size && !(reductions.any fun (h, n, _, _) => h == production.head && n == size) then
            reductions := reductions.push (production.head, size, p, production.dynamic)
        | _ => pure ()
    let mut made : Option Nat := none
    for (symbol, size, p, dynamic) in reductions do
      made ← reduce version symbol size p dynamic false
    if hasShift then canShift := true
    else
      match made with
      | some v =>
        if i < maxVersions then
          let w := version
          ParseM.modifyStack fun s => s.renumber v w
          continue
        else if lookahead != 0 then
          let w := version
          ParseM.modifyStack fun s => s.remove w
      | none =>
        if lookahead != 0 then
          let w := version
          ParseM.modifyStack fun s => s.remove w
    if version = start then version := count else version := version + 1
  return canShift

/-- Goes back to an earlier state of a version: what was pushed since becomes skipped text. Says
whether that state was found at the given depth. -/
def goBack (version depth goal : Nat) : ParseM Bool := do
  let tables := (← read).tables
  let slices ← ParseM.onStack fun s => s.popCount version depth
  let mut previous : Option Nat := none
  for slice in slices do
    if previous == some slice.version then continue
    if (← ParseM.stack).state slice.version != goal then
      ParseM.modifyStack fun s => s.halt slice.version
    else
      let errors ← ParseM.onStack fun s => s.popError slice.version
      let inner := match errors with
        | [] => []
        | e :: _ => e.children
      let (children, extras) := Subtree.splitTrailingExtras (inner ++ slice.trees)
      if !children.isEmpty then
        let error := (Subtree.node tables .error none children).withInfo fun i =>
          { i with extra := true }
        ParseM.modifyStack fun s => s.push slice.version (some error) goal
      ParseM.modifyStack fun s => extras.foldl (fun s e => s.push slice.version (some e) goal) s
      previous := some slice.version
  return previous.isSome

/-- Looks for an earlier state of a version in which the token can be read, and goes back to it. -/
def tryLandings (version : Nat) (lookahead : Subtree) : ParseM Bool := do
  let stack ← ParseM.stack
  let count := stack.heads.size
  let position := stack.position version
  let progress := stack.progress version
  let cost := stack.cost version
  match (stack.head version).landings, lookahead.isError with
  | some landings, false =>
    for landing in landings do
      if landing.state = errorState then continue
      if landing.position.bytes = position.bytes then continue
      let depth := if 0 < progress then landing.depth + 1 else landing.depth
      let stack ← ParseM.stack
      let wouldMerge := (List.range count).any fun j =>
        stack.state j == landing.state && (stack.position j).bytes == position.bytes
      if wouldMerge then continue
      let newCost := cost + landing.depth * costOfSkippedTree +
        costOfLength (position.sub landing.position)
      if ← betterVersionExists version false newCost then break
      if !(← ParseM.actions landing.state lookahead.symbol).isEmpty then
        if ← goBack version depth landing.state then return true
    return false
  | _, _ => return false

/-- Goes on with a version that is recovering, before the given token: both by going back to an
earlier state that can read it, and by skipping it. -/
def recover (version : Nat) (lookahead : Subtree) : ParseM Unit := do
  let tables := (← read).tables
  ParseM.modifyStack fun s => s.settleProgress version
  let stack ← ParseM.stack
  let previousCount := stack.heads.size
  let progress := stack.progress version
  let cost := stack.cost version
  let wentBack ← tryLandings version lookahead
  -- drop the versions that were given up on the way
  ParseM.modifyStack fun s =>
    { s with heads := s.heads.extract 0 previousCount ++
        (s.heads.extract previousCount s.heads.size).filter fun h =>
          match h.status with
          | .active => true
          | _ => false }
  let tooMany := maxVersions < (← ParseM.stack).heads.size
  if wentBack && (tooMany || lookahead.info.memoryChanged) then
    ParseM.modifyStack fun s => s.halt version
  else if lookahead.isEnd then
    let error := Subtree.node tables .error none []
    ParseM.modifyStack fun s => s.push version (some error) startState
    accept version lookahead
  else
    let newCost := cost + costOfSkippedTree + costOfLength lookahead.total
    if ← betterVersionExists version false newCost then
      ParseM.modifyStack fun s => s.halt version
    else
      let atStart ← ParseM.actions startState lookahead.symbol
      let extra := !lookahead.isError && atStart.getLast? == some .shiftExtra
      let token := if extra then lookahead.withInfo fun i => { i with extra := true } else lookahead
      let skipped := Subtree.node tables .skipped none [token]
      let skipped ←
        if 0 < progress then do
          let slices ← ParseM.onStack fun s => s.popCount version 1
          match slices[0]? with
          | none => pure skipped
          | some slice =>
            if 1 < slices.size then
              ParseM.modifyStack fun s =>
                { s with heads := s.heads.extract 0 (slice.version + 1) }
            ParseM.modifyStack fun s => s.renumber slice.version version
            pure (Subtree.node tables .skipped none (slice.trees ++ [skipped]))
        else pure skipped
      ParseM.modifyStack fun s =>
        let s := s.push version (some skipped) errorState
        if lookahead.info.byHand then
          s.modifyHead version fun h => { h with memory := lookahead.info.memory }
        else s

/-- Tries to supply a token to version `v` such that it can read the given one next. Says whether
that worked; the result is a new version. -/
def trySupply (v : Nat) (lookahead : Subtree) : ParseM Bool := do
  let tables := (← read).tables
  let state := (← ParseM.stack).state v
  for missing in [1:tables.tokenCount - 1] do
    let next ← ParseM.target state missing
    if next = 0 || next = state then continue
    let acts ← if lookahead.isError then pure [] else ParseM.actions next lookahead.symbol
    match acts.head? with
    | some (.reduce _) =>
      let copy ← ParseM.onStack fun s => s.copy v
      ParseM.modifyStack fun s => s.push copy (some (.missingLeaf tables missing)) next
      if ← reduceAll copy lookahead.symbol then return true
    | _ => pure ()
  return false

/-- Handles an error of a version before the given token. -/
def handleError (version : Nat) (lookahead : Subtree) : ParseM Unit := do
  let previousCount := (← ParseM.stack).heads.size
  let _ ← reduceAll version 0
  let count := (← ParseM.stack).heads.size
  let mut supplied := false
  for v in version :: (List.range count).drop previousCount do
    if !supplied then supplied ← trySupply v lookahead
    ParseM.modifyStack fun s => s.push v none errorState
  for _ in [previousCount:count] do
    let _ ← ParseM.onStack fun s => s.merge version previousCount
  ParseM.modifyStack fun s => s.recordLandings version maxLandingDepth
  recover version lookahead

end RtlLiterals.Parse
