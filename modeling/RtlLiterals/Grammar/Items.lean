import RtlLiterals.Grammar.Lexicon

/-!
# RtlLiterals.Grammar.Items -- productions with a dot

An item is a production with a dot in it: the steps before the dot have been read. Items that can
no longer be told apart, because the same steps remain and the same is known of the steps read,
are one item. The tables here depend on the grammar alone.

## §A Closures

Where the dot stands before a rule, all productions of that rule may start, and so on for their
first steps. `Tables.closures` lists, for every rule, the rules that may start with it and the
tokens that may follow them.
-/

namespace RtlLiterals.Grammar

open Std (HashMap)

/-- A set of tokens, one bit for each. -/
abbrev TokenSet := Nat

namespace TokenSet

/-- The token belongs to the set. -/
def has (s : TokenSet) (t : Nat) : Bool := s.testBit t

/-- The set of one token. -/
def single (t : Nat) : TokenSet := 1 <<< t

/-- The tokens of a set below a bound, in ascending order. -/
def toList (s : TokenSet) (bound : Nat) : List Nat := (List.range bound).filter s.testBit

end TokenSet

/-- An item with at least one step read, or the item of a whole document. -/
structure Item where
  production : Nat
  /-- The number of steps read. -/
  dot : Nat
  head : Nat
  /-- The symbol after the dot. -/
  next : Option Nat
  /-- The symbol after that one. -/
  after : Option Nat
  /-- The item with one more step read. -/
  advanced : Nat
  /-- The precedence of the last step read. -/
  level : Level
  assoc : Option Assoc
deriving Inhabited

/-- What tells items apart. -/
structure ItemKey where
  dot : Nat
  head : Nat
  dynamic : Int
  level : Level
  assoc : Option Assoc
  labels : List (Option Alias)
  remaining : List (Step Nat)
deriving BEq, Hashable

/-- A rule that may start where another one is expected: its number, the tokens that may follow
it within, and whether what follows the other one may follow it as well. -/
structure Opening where
  /-- The rule, counted from the first rule. -/
  rule : Nat
  follow : TokenSet
  /-- What follows the whole may follow it. -/
  last : Bool
deriving Inhabited, BEq

/-- What can be computed from a grammar before any text is read. -/
structure Tables where
  flat : Flat
  lexicon : Lexicon
  /-- All productions; the last one is the whole document. -/
  productions : Array Production
  items : Array Item
  /-- For each symbol, the items reached by reading it as the first step of a production. -/
  starting : Array (Array Nat)
  /-- For each symbol, the tokens it may begin with. -/
  first : Array TokenSet
  /-- For each rule, the rules that may start with it. -/
  closures : Array (List Opening)
  /-- For each rule, the tokens that begin one of its productions. -/
  opening : Array TokenSet
  /-- The productions without steps. -/
  empty : List Nat
  /-- The item of a whole document with nothing read. -/
  origin : Nat
  /-- The tokens that look like the word token, by their text. -/
  keywords : HashMap String Nat
  keywordSet : TokenSet
  recoverable : TokenSet
  extraTokens : List Nat
  extraRules : List Nat
deriving Inhabited

namespace Tables

/-- The number of tokens. -/
def tokenCount (tb : Tables) : Nat := tb.flat.tokenCount

/-- The symbol is a token. -/
def isToken (tb : Tables) (x : Nat) : Bool := x < tb.flat.tokenCount

/-- The token that marks the end of a construct that may stand anywhere. -/
def endOfExtra (tb : Tables) : Nat := tb.flat.tokenCount - 1

end Tables

/-! ### Tokens a symbol may begin with -/

/-- One round of the computation of first tokens. -/
def firstRound (productions : Array Production) (first : Array TokenSet) : Array TokenSet :=
  productions.foldl (fun first p =>
    match p.steps[0]? with
    | some s => first.modify p.head fun set => set ||| first.getD s.symbol 0
    | none => first) first

/-- Repeats the rounds until nothing changes. -/
def firstRounds (productions : Array Production) : Nat → Array TokenSet → Array TokenSet
  | 0, first => first
  | n + 1, first =>
    let next := firstRound productions first
    if next == first then first else firstRounds productions n next

/-! ### Closures -/

/-- Adds an opening to a list of openings, at most one for each rule. -/
def addOpening (o : Opening) : List Opening → List Opening × Bool
  | [] => ([o], true)
  | p :: ps =>
    if p.rule = o.rule then
      let joined : Opening := ⟨p.rule, p.follow ||| o.follow, p.last || o.last⟩
      (joined :: ps, joined != p)
    else
      let (ps, changed) := addOpening o ps
      (p :: ps, changed)

/-- The openings of each rule by one step: the rules that its productions begin with. -/
def directOpenings (tokenCount ruleCount : Nat) (productions : Array Production)
    (first : Array TokenSet) : Array (List Opening) :=
  productions.foldl (fun acc p =>
    match p.steps[0]? with
    | some s =>
      if s.symbol < tokenCount then acc
      else
        let o : Opening := match p.steps[1]? with
          | some t => ⟨s.symbol - tokenCount, first.getD t.symbol 0, false⟩
          | none => ⟨s.symbol - tokenCount, 0, true⟩
        acc.modify (p.head - tokenCount) fun os => (addOpening o os).1
    | none => acc) (Array.replicate (ruleCount + 1) [])

/-- Follows openings until nothing changes: `queue` holds the openings still to be followed. -/
def closeOpenings (direct : Array (List Opening)) :
    Nat → List Nat → Array (Option Opening) → Array (Option Opening)
  | 0, _, found => found
  | _ + 1, [], found => found
  | n + 1, rule :: queue, found =>
    match found.getD rule none with
    | none => closeOpenings direct n queue found
    | some here =>
      let (queue, found) := (direct.getD rule []).foldl (fun (queue, found) o =>
        let seen : Opening :=
          ⟨o.rule, o.follow ||| (if o.last then here.follow else 0), o.last && here.last⟩
        match found.getD o.rule none with
        | none => (queue ++ [o.rule], found.set! o.rule (some seen))
        | some old =>
          let joined : Opening := ⟨o.rule, old.follow ||| seen.follow, old.last || seen.last⟩
          if joined == old then (queue, found)
          else (if queue.contains o.rule then queue else queue ++ [o.rule],
            found.set! o.rule (some joined))) (queue, found)
      closeOpenings direct n queue found

/-! ### Items -/

/-- The key of an item. -/
def itemKey (p : Production) (dot : Nat) : ItemKey :=
  let before := p.steps[dot - 1]?
  { dot := dot
    head := p.head
    dynamic := p.dynamic
    level := (before.map (·.level)).getD .none
    assoc := before.bind (·.assoc)
    labels := (p.steps.toList.take dot).map (·.label)
    remaining := p.steps.toList.drop dot }

/-- The order of items: by the steps read, then by rule. -/
def itemBefore (a b : Nat × Production × Nat) : Bool :=
  let (dot, p, i) := a
  let (dot', p', i') := b
  if dot ≠ dot' then dot < dot'
  else if p.head ≠ p'.head then p.head < p'.head
  else if p.dynamic ≠ p'.dynamic then p.dynamic < p'.dynamic
  else if p.steps.size ≠ p'.steps.size then p.steps.size < p'.steps.size
  else i < i'

/-- A token whose text the word token takes as well. -/
def isKeywordText (s : String) : Bool :=
  match s.toList with
  | [] => false
  | c :: cs => (c.isAlpha || c == '_') && cs.all fun c => c.isAlphanum || c == '_'

/-- Computes the tables of a grammar. -/
def Tables.ofFlat (g : Flat) : Tables := Id.run do
  let ruleCount := g.symbols.size - g.tokenCount
  let documentHead := g.symbols.size
  let productions := g.productions.push ⟨documentHead, #[⟨g.root, .none, none, none⟩], 0⟩
  -- first tokens
  let start : Array TokenSet :=
    (Array.range (g.symbols.size + 1)).map fun x => if x < g.tokenCount then TokenSet.single x else 0
  let first := firstRounds productions 200 start
  -- closures
  let direct := directOpenings g.tokenCount ruleCount productions first
  let closures := (Array.range ruleCount).map fun r =>
    let found := closeOpenings direct 100000 [r]
      ((Array.replicate (ruleCount + 1) none).set! r (some ⟨r, 0, true⟩))
    found.toList.filterMap id
  let mut opening : Array TokenSet := Array.replicate (ruleCount + 1) 0
  let mut empty : List Nat := []
  for h : i in [0:productions.size] do
    let p := productions[i]
    match p.steps[0]? with
    | some s =>
      if s.symbol < g.tokenCount then
        opening := opening.modify (p.head - g.tokenCount) fun set => set ||| TokenSet.single s.symbol
    | none => empty := empty ++ [i]
  -- items
  let mut seen : HashMap ItemKey Unit := {}
  let mut sorted : Array (Nat × Production × Nat) := #[(0, productions.getD g.productions.size default, g.productions.size)]
  for h : i in [0:productions.size] do
    let p := productions[i]
    for dot in [1:p.steps.size + 1] do
      let key := itemKey p dot
      if !seen.contains key then
        seen := seen.insert key ()
        sorted := sorted.push (dot, p, i)
  let ordered := (sorted.toList.mergeSort itemBefore).toArray
  let mut number : HashMap ItemKey Nat := {}
  for h : k in [0:ordered.size] do
    let (dot, p, _) := ordered[k]
    number := number.insert (itemKey p dot) k
  let items := ordered.map fun (dot, p, i) =>
    let before := if dot = 0 then none else p.steps[dot - 1]?
    ({ production := i
       dot := dot
       head := p.head
       next := (p.steps[dot]?).map (·.symbol)
       after := (p.steps[dot + 1]?).map (·.symbol)
       advanced := number.getD (itemKey p (dot + 1)) 0
       level := (before.map (·.level)).getD .none
       assoc := before.bind (·.assoc) } : Item)
  let mut starting : Array (Array Nat) := Array.replicate (g.symbols.size + 1) #[]
  for p in g.productions do
    match p.steps[0]? with
    | some s =>
      let k := number.getD (itemKey p 1) 0
      if !(starting.getD s.symbol #[]).contains k then
        starting := starting.modify s.symbol fun ks => ks.push k
    | none => pure ()
  -- keywords
  let mut keywords : HashMap String Nat := {}
  let mut keywordSet : TokenSet := 0
  for (t, shape) in g.shapes do
    match shape.text with
    | some s =>
      if isKeywordText s && !shape.immediate && t ≠ 1 then
        keywords := keywords.insert s t
        keywordSet := keywordSet ||| TokenSet.single t
    | none => pure ()
  -- recovery
  let mut recoverable : TokenSet := 0
  for t in [0:g.tokenCount - 1] do
    if !g.notInRecovery.contains t then recoverable := recoverable ||| TokenSet.single t
  return {
    flat := g
    lexicon := .ofFlat g
    productions := productions
    items := items
    starting := starting
    first := first
    closures := closures
    opening := opening
    empty := empty
    origin := 0
    keywords := keywords
    keywordSet := keywordSet
    recoverable := recoverable
    extraTokens := g.extras.filter (· < g.tokenCount)
    extraRules := g.extras.filter (g.tokenCount ≤ ·) }

end RtlLiterals.Grammar
