import RtlLiterals.Grammar.Flat

/-!
# RtlLiterals.Grammar.Lexicon -- reading one token

The patterns of all tokens are compiled into one table of places: a place is an occurrence of a
character set in a pattern, and it knows the places that may come after it. Reading a token keeps
the set of places that may take the next character, for all expected tokens at once.

## §A Which token wins

* Reading goes on as long as a place takes the next character, unless a token is complete here
  and going on would only serve weaker tokens.
* Of several tokens complete at the same place the one with the greater precedence wins, then
  fixed texts before patterns and tokens without blanks before them first, then the earlier one.
* Blanks before a token are skipped; tokens that admit no blanks start at once or not at all.
-/

namespace RtlLiterals.Grammar

/-- A character set with its first 128 members tabulated. -/
structure FastSet where
  /-- The members below 64. -/
  low : UInt64
  /-- The members from 64 to 127. -/
  high : UInt64
  set : CharSet
deriving Inhabited

/-- The bits of the members of a set among the 64 code points from `base` on. -/
def tabulate (s : CharSet) (base : Nat) : UInt64 :=
  (List.range 64).foldl (fun bits i =>
    if s.contains (Char.ofNat (base + i)) then bits ||| ((1 : UInt64) <<< UInt64.ofNat i) else bits) 0

/-- Tabulates a set. -/
def FastSet.ofSet (s : CharSet) : FastSet := ⟨tabulate s 0, tabulate s 64, s⟩

/-- The character belongs to the set. -/
def FastSet.contains (s : FastSet) (c : Char) : Bool :=
  let code := c.val.toUInt64
  if code < 64 then (s.low >>> code) &&& 1 == 1
  else if code < 128 then (s.high >>> (code - 64)) &&& 1 == 1
  else s.set.contains c

/-- An occurrence of a character set in the pattern of a token. -/
structure Place where
  set : FastSet
  token : Nat
  final : Bool
  /-- The places that may take the next character. -/
  next : Array Nat
deriving Inhabited

/-- The ends of a compiled pattern. -/
structure Fragment where
  /-- The pattern takes the empty text. -/
  nullable : Bool
  first : List Nat
  last : List Nat
deriving Inhabited

/-- Lets the target places follow each of the source places. -/
def link (sources targets : List Nat) (places : Array Place) : Array Place :=
  sources.foldl (fun ps i => ps.modify i fun p =>
    { p with next := targets.foldl (fun next t => if next.contains t then next else next.push t) p.next })
    places

mutual
/-- Compiles a pattern of a token. -/
def compile (token : Nat) : Pattern → StateM (Array Place) Fragment
  | .one chars => do
    let places ← get
    set (places.push ⟨.ofSet chars, token, false, #[]⟩)
    return ⟨false, [places.size], [places.size]⟩
  | .seq parts => compileSeq token parts
  | .alt parts => compileAlt token parts
  | .star part => do
    let f ← compile token part
    modify (link f.last f.first)
    return ⟨true, f.first, f.last⟩

/-- Compiles patterns that come one after the other. -/
def compileSeq (token : Nat) : List Pattern → StateM (Array Place) Fragment
  | [] => return ⟨true, [], []⟩
  | p :: ps => do
    let a ← compile token p
    let b ← compileSeq token ps
    modify (link a.last b.first)
    return ⟨a.nullable && b.nullable, if a.nullable then a.first ++ b.first else a.first,
      if b.nullable then a.last ++ b.last else b.last⟩

/-- Compiles alternative patterns. -/
def compileAlt (token : Nat) : List Pattern → StateM (Array Place) Fragment
  | [] => return ⟨false, [], []⟩
  | p :: ps => do
    let a ← compile token p
    let b ← compileAlt token ps
    return ⟨a.nullable || b.nullable, a.first ++ b.first, a.last ++ b.last⟩
end

/-- What the reader knows of a token. -/
structure TokenEntry where
  first : Array Nat
  nullable : Bool
  immediate : Bool
  level : Int
  /-- The rank among tokens of equal precedence. -/
  rank : Nat
deriving Inhabited

/-- The compiled tokens of a grammar. -/
structure Lexicon where
  places : Array Place
  /-- The tokens by number; hand-read tokens have no places. -/
  tokens : Array TokenEntry
  blanks : FastSet
deriving Inhabited

/-- Compiles the tokens of a grammar. -/
def Lexicon.ofFlat (g : Flat) : Lexicon := Id.run do
  let mut places : Array Place := #[]
  let mut tokens : Array TokenEntry := Array.replicate g.tokenCount ⟨#[], false, true, 0, 0⟩
  for (number, shape) in g.shapes do
    let (f, ps) := (compile number shape.pattern).run places
    places := f.last.foldl (fun ps i => ps.modify i fun p => { p with final := true }) ps
    let rank := (if shape.text.isSome then 2 else 0) + (if shape.immediate then 1 else 0)
    tokens := tokens.set! number ⟨f.first.toArray, f.nullable, shape.immediate, shape.level, rank⟩
  return ⟨places, tokens, .ofSet g.blanks⟩

/-! ### Expected tokens -/

/-- The tokens expected at some place, prepared for reading. -/
structure Expected where
  /-- First places of the tokens that admit blanks before them. -/
  spaced : Array Nat
  /-- First places of the tokens that admit none. -/
  immediate : Array Nat
  anySpaced : Bool
  /-- The expected tokens that take the empty text. -/
  empty : List Nat
  atEnd : Bool
deriving Inhabited

/-- Prepares a list of expected tokens. -/
def Lexicon.expect (lx : Lexicon) (tokens : List Nat) : Expected :=
  tokens.foldl (fun e t =>
    if t = 0 then { e with atEnd := true }
    else
      let entry := lx.tokens[t]?.getD ⟨#[], false, true, 0, 0⟩
      let e := if entry.nullable then { e with empty := e.empty ++ [t] } else e
      if entry.first.isEmpty then e
      else if entry.immediate then { e with immediate := e.immediate ++ entry.first }
      else { e with spaced := e.spaced ++ entry.first, anySpaced := true }) ⟨#[], #[], false, [], false⟩

/-! ### Reading -/

/-- The state of reading one token. -/
structure Reading where
  pos : Nat
  /-- Where the token starts, after the blanks skipped so far. -/
  start : Nat
  next : Array Nat
  /-- Blanks may still be skipped. -/
  blanks : Bool
  /-- The best token complete here. -/
  complete : Option Nat
  /-- The token found so far and where it ends. -/
  found : Option (Nat × Nat)
deriving Inhabited

/-- What was read: a token with its end, if any, the start after skipped blanks, and how far the
reader went. -/
structure ReadResult where
  token : Option (Nat × Nat)
  start : Nat
  /-- Where the reader stopped. -/
  reach : Nat
deriving Inhabited

namespace Lexicon

/-- The first token wins over the second one when both are complete at the same place. -/
def prefers (lx : Lexicon) (a b : Nat) : Bool :=
  let x := lx.tokens[a]?.getD default
  let y := lx.tokens[b]?.getD default
  y.level < x.level || (x.level == y.level && (y.rank < x.rank || (x.rank == y.rank && a < b)))

/-- Of two complete tokens the one that wins. -/
def better (lx : Lexicon) (best : Option Nat) (t : Nat) : Option Nat :=
  match best with
  | some b => if lx.prefers b t then some b else some t
  | none => some t

/-- Going on is allowed although `complete` is complete here: the tokens that would go on are
stronger, or equally strong and the complete one goes on as well where blanks are still read. -/
def mayGoOn (lx : Lexicon) (matched : Array Nat) (skip blanks : Bool) (complete : Nat) : Bool :=
  let entry := lx.tokens[complete]?.getD default
  let start : Option Int := if skip then some 0 else none
  let strongest := matched.foldl (fun best i =>
    let level := (lx.tokens[(lx.places[i]?.getD default).token]?.getD default).level
    match best with
    | some b => some (max b level)
    | none => some level) start
  match strongest with
  | none => false
  | some s =>
    if s < entry.level then false
    else if entry.level < s then true
    else if matched.isEmpty then false
    else if blanks then
      (skip && !entry.immediate) || matched.any fun i => (lx.places[i]?.getD default).token == complete
    else true

/-- Takes the next character, if that is possible. -/
def step (lx : Lexicon) (e : Expected) (c : Char) (r : Reading) : Option Reading :=
  let matched := r.next.filter fun i => (lx.places[i]?.getD default).set.contains c
  let skip := r.blanks && lx.blanks.contains c
  if matched.isEmpty && !skip then none
  else if (match r.complete with
      | some t => !lx.mayGoOn matched skip r.blanks t
      | none => false) then none
  else
    let next := matched.foldl (fun next i =>
      (lx.places[i]?.getD default).next.foldl
        (fun next t => if next.contains t then next else next.push t) next) #[]
    let complete := matched.foldl (fun best i =>
      let p := lx.places[i]?.getD default
      if p.final then lx.better best p.token else best) none
    let pos := r.pos + 1
    some {
      pos := pos
      start := if matched.isEmpty then pos else r.start
      next := if skip then next ++ e.spaced else next
      blanks := skip
      complete := complete
      found := match complete with
        | some t => some (t, pos)
        | none => r.found }

/-- Reads on for at most `fuel` characters. -/
def run (lx : Lexicon) (e : Expected) (input : Array Char) : Nat → Reading → ReadResult
  | 0, r => ⟨r.found, r.start, r.pos⟩
  | fuel + 1, r =>
    match input[r.pos]? with
    | none => ⟨if e.atEnd && r.start == r.pos then some (0, r.pos) else r.found, r.start, r.pos⟩
    | some c =>
      match lx.step e c r with
      | some r => lx.run e input fuel r
      | none => ⟨r.found, r.start, r.pos⟩

/-- Reads one of the expected tokens at a place of the text. -/
def read (lx : Lexicon) (e : Expected) (input : Array Char) (pos : Nat) : ReadResult :=
  let complete := e.empty.foldl lx.better none
  lx.run e input (input.size + 1 - pos) {
    pos := pos
    start := pos
    next := e.immediate ++ e.spaced
    blanks := e.anySpaced
    complete := complete
    found := complete.map fun t => (t, pos) }

end Lexicon

end RtlLiterals.Grammar
