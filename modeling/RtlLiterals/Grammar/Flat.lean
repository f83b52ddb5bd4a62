import RtlLiterals.Grammar.Rule
import Std.Data.HashMap

/-!
# RtlLiterals.Grammar.Flat -- grammars as lists of productions

A grammar with choices, repetitions and nested precedences is brought into flat form: numbered
symbols and productions that are sequences of steps.

## §A The passes

* Every token of the rules gets a number, in the order of first use; a rule that is nothing but a
  token used once gives that token its name.
* A repetition becomes a rule of its own, `X → X X | part`; equal parts share one rule.
* A choice becomes several productions, and each step keeps the precedence, the associativity and
  the alias in force where it stands.
* Inlined rules are replaced by their productions.

## §B Symbols

A symbol is a number: first the tokens, then the rules. Token `0` is the end of the text, token
`1` the word token, and the last token marks the end of a construct that may stand anywhere.
-/

namespace RtlLiterals.Grammar

open Std (HashMap)

/-- A symbol while the grammar is being flattened. -/
inductive Ref where
  /-- A token, by its order of first use. -/
  | token (index : Nat)
  | rule (index : Nat)
  | hand (index : Nat)
deriving BEq, Hashable, Repr, Inhabited

/-- A rule with its tokens numbered. -/
inductive Form where
  | blank
  | ref (ref : Ref)
  | seq (parts : List Form)
  | choice (parts : List Form)
  | repeat1 (part : Form)
  | level (level : Level) (assoc : Option Assoc) (part : Form)
  /-- The part with a preference among whole parses. -/
  | dynamic (n : Int) (part : Form)
  | renamed (label : Alias) (part : Form)
deriving BEq, Repr, Inhabited

/-- The tokens found so far, each with the number of its uses. -/
abbrev TokenTable := Array (TokenShape × Nat)

/-- The number of a token, which is entered into the table if it is new. -/
def TokenTable.enter (shape : TokenShape) : StateM TokenTable Nat := do
  let table ← get
  match table.findIdx? (·.1 == shape) with
  | some i =>
    set (table.modify i fun (s, n) => (s, n + 1))
    return i
  | none =>
    set (table.push (shape, 1))
    return table.size

mutual
/-- Numbers the tokens of a rule. -/
def numberTokens (names : HashMap String Ref) : Rule → StateM TokenTable Form
  | .blank => return .blank
  | .ref name => return .ref (names.getD name (.rule 0))
  | .token shape => return .ref (.token (← TokenTable.enter shape))
  | .seq parts => return .seq (← numberAll names parts)
  | .choice parts => return .choice (← numberAll names parts)
  | .repeat1 part => return .repeat1 (← numberTokens names part)
  | .level l a part => return .level l a (← numberTokens names part)
  | .dynamic n part => return .dynamic n (← numberTokens names part)
  | .renamed a part => return .renamed a (← numberTokens names part)

/-- Numbers the tokens of several rules, in order. -/
def numberAll (names : HashMap String Ref) : List Rule → StateM TokenTable (List Form)
  | [] => return []
  | r :: rs => return (← numberTokens names r) :: (← numberAll names rs)
end

/-- Applies a change of symbols throughout a form. -/
def Form.mapRefs (f : Ref → Ref) : Form → Form
  | .blank => .blank
  | .ref r => .ref (f r)
  | .seq parts => .seq (parts.map (mapRefs f))
  | .choice parts => .choice (parts.map (mapRefs f))
  | .repeat1 part => .repeat1 (part.mapRefs f)
  | .level l a part => .level l a (part.mapRefs f)
  | .dynamic n part => .dynamic n (part.mapRefs f)
  | .renamed a part => .renamed a (part.mapRefs f)

/-! ### Repetitions -/

/-- The rules made for repetitions: their parts, in order; the first gets the number `base`. -/
structure Repeats where
  /-- The number of the first rule made. -/
  base : Nat
  /-- The repeated parts. -/
  parts : Array Form

mutual
/-- Replaces repetitions by rules of their own. -/
def expandRepeats : Form → StateM Repeats Form
  | .blank => return .blank
  | .ref r => return .ref r
  | .seq parts => return .seq (← expandAll parts)
  | .choice parts => return .choice (← expandAll parts)
  | .repeat1 part => do
    let part ← expandRepeats part
    let made ← get
    match made.parts.findIdx? (· == part) with
    | some i => return .ref (.rule (made.base + i))
    | none =>
      set { made with parts := made.parts.push part }
      return .ref (.rule (made.base + made.parts.size))
  | .level l a part => return .level l a (← expandRepeats part)
  | .dynamic n part => return .dynamic n (← expandRepeats part)
  | .renamed a part => return .renamed a (← expandRepeats part)

/-- Replaces the repetitions of several forms, in order. -/
def expandAll : List Form → StateM Repeats (List Form)
  | [] => return []
  | f :: fs => return (← expandRepeats f) :: (← expandAll fs)
end

/-- The rule number `self` for a repeated part. -/
def repetition (self : Nat) (part : Form) : Form :=
  .choice [.seq [.ref (.rule self), .ref (.rule self)], part]

/-! ### Productions -/

/-- One step of a production, with a symbol of type `σ`. -/
structure Step (σ : Type) where
  symbol : σ
  level : Level
  assoc : Option Assoc
  /-- The name of the step in the tree, if it is not that of its symbol. -/
  label : Option Alias
deriving BEq, Hashable, Repr, Inhabited

/-- A sequence of steps with its preference among whole parses. -/
structure Sequence (σ : Type) where
  steps : List (Step σ)
  dynamic : Int
deriving BEq, Hashable, Repr, Inhabited

/-- Of two preferences the one that is further from zero, the first one if they are equally far. -/
def strongest (a b : Int) : Int := if a.natAbs < b.natAbs then b else a

/-- Two sequences one after the other. -/
def Sequence.append {σ : Type} (a b : Sequence σ) : Sequence σ :=
  ⟨a.steps ++ b.steps, strongest a.dynamic b.dynamic⟩

/-- What is in force where a form stands. -/
structure Scope where
  level : Level
  assoc : Option Assoc
  label : Option Alias
  /-- The form is the last of its production. -/
  atEnd : Bool

/-- Changes the last step, if there is one. -/
def modifyLast {α : Type} (f : α → α) : List α → List α
  | [] => []
  | [x] => [f x]
  | x :: y :: xs => x :: modifyLast f (y :: xs)

mutual
/-- The sequences that a form stands for. -/
def sequences (scope : Scope) : Form → List (Sequence Ref)
  | .blank => [⟨[], 0⟩]
  | .ref r => [⟨[⟨r, scope.level, scope.assoc, scope.label⟩], 0⟩]
  | .seq parts => sequencesOfSeq scope parts
  | .choice parts => sequencesOfChoice scope parts
  | .repeat1 part => sequences scope part
  | .level l a part =>
    let inner := { scope with
      level := if l == .none then scope.level else l
      assoc := match a with | some _ => a | none => scope.assoc }
    let restore (step : Step Ref) : Step Ref :=
      { step with
        level := if l == .none then step.level else scope.level
        assoc := if a.isSome then scope.assoc else step.assoc }
    (sequences inner part).map fun s =>
      if scope.atEnd then s else ⟨modifyLast restore s.steps, s.dynamic⟩
  | .dynamic n part => (sequences scope part).map fun s => { s with dynamic := strongest n s.dynamic }
  | .renamed a part => sequences { scope with label := some a } part

/-- The sequences of several forms one after the other. -/
def sequencesOfSeq (scope : Scope) : List Form → List (Sequence Ref)
  | [] => [⟨[], 0⟩]
  | f :: fs =>
    let first := sequences { scope with atEnd := scope.atEnd && fs.isEmpty } f
    let rest := sequencesOfSeq scope fs
    first.flatMap fun a => rest.map fun b => a.append b

/-- The sequences of several forms, any one of them. -/
def sequencesOfChoice (scope : Scope) : List Form → List (Sequence Ref)
  | [] => []
  | f :: fs => sequences scope f ++ sequencesOfChoice scope fs
end

/-- The list without later copies of an element. -/
def distinct {α : Type} [BEq α] (xs : List α) : List α :=
  (xs.foldl (fun acc x => if acc.contains x then acc else acc.push x) #[]).toList

/-- The productions of a rule. -/
def productionsOf (f : Form) : List (Sequence Ref) :=
  distinct (sequences ⟨.none, none, none, true⟩ f)

/-! ### Default aliases -/

/-- How a symbol is named by the steps it occurs in. -/
structure AliasUse where
  /-- The aliases with the number of their uses, in the order of first use. -/
  aliases : List (Alias × Nat)
  /-- The symbol also occurs without an alias. -/
  plain : Bool
deriving Inhabited

/-- Counts one use of a symbol. -/
def AliasUse.count (u : AliasUse) : Option Alias → AliasUse
  | none => { u with plain := true }
  | some a =>
    if u.aliases.any (·.1 == a) then
      { u with aliases := u.aliases.map fun (b, n) => if b == a then (b, n + 1) else (b, n) }
    else { u with aliases := u.aliases ++ [(a, 1)] }

/-- The alias that a symbol goes by when it never occurs without one: the most frequent, of equally
frequent ones the first. -/
def AliasUse.default? (u : AliasUse) : Option Alias :=
  if u.plain then none
  else (u.aliases.foldl (fun best (a, n) =>
    match best with
    | some (_, m) => if m < n then some (a, n) else best
    | none => some (a, n)) none).map (·.1)

/-! ### The flat grammar -/

/-- What is known of a symbol. -/
structure SymbolInfo where
  name : String
  visible : Bool
  /-- Its name as a rule, which orders of precedences refer to. -/
  rule : String
  repeated : Bool
deriving Inhabited, Repr

/-- A production with its rule. -/
structure Production where
  head : Nat
  steps : Array (Step Nat)
  dynamic : Int
deriving Inhabited, BEq, Hashable, Repr

/-- A grammar in flat form. -/
structure Flat where
  symbols : Array SymbolInfo
  /-- The number of tokens; rules are numbered from here on. -/
  tokenCount : Nat
  shapes : Array (Nat × TokenShape)
  /-- The tokens read by hand, by their order in the grammar. -/
  handTokens : Array Nat
  /-- The productions, grouped by rule. -/
  productions : Array Production
  root : Nat
  /-- Symbols that may stand between any two others. -/
  extras : List Nat
  blanks : CharSet
  orders : List (List OrderEntry)
  notInRecovery : List Nat
deriving Inhabited

/-- A rule whose name starts with an underscore leaves no node. -/
def isHiddenName (name : String) : Bool := name.startsWith "_"

/-- Replaces inlined rules in a production; `fuel` bounds the number of replacements. -/
def inlineSteps (inlined : Nat → Bool) (productions : Nat → List (Sequence Ref)) :
    Nat → Sequence Ref → List (Sequence Ref)
  | 0, s => [s]
  | fuel + 1, s =>
    let isInlined (step : Step Ref) : Bool :=
      match step.symbol with
      | .rule i => inlined i
      | _ => false
    match s.steps.findIdx? isInlined with
    | none => [s]
    | some i =>
      match s.steps[i]? with
      | some step =>
        let replacements := match step.symbol with
          | .rule r => productions r
          | _ => []
        replacements.flatMap fun q =>
          let named := q.steps.map fun t =>
            { t with label := match step.label with | some a => some a | none => t.label }
          let settled := modifyLast (fun t =>
            { t with
              level := if t.level == .none then step.level else t.level
              assoc := match t.assoc with | some a => some a | none => step.assoc }) named
          inlineSteps inlined productions fuel
            ⟨s.steps.take i ++ settled ++ s.steps.drop (i + 1), strongest s.dynamic q.dynamic⟩
      | none => [s]

/-- Brings a grammar into flat form. -/
def Source.flatten (src : Source) : Flat := Id.run do
  let ruleNames := (src.rules.map (·.1)).toArray
  -- names of rules and of tokens read by hand
  let mut names : HashMap String Ref := {}
  for h : i in [0:ruleNames.size] do
    names := names.insert ruleNames[i] (.rule i)
  let hands := src.handTokens.toArray
  for h : i in [0:hands.size] do
    match hands[i] with
    | .own name => names := names.insert name (.hand i)
    | _ => pure ()
  -- tokens
  let (forms, table) := (numberAll names (src.rules.map (·.2))).run #[]
  let forms := forms.toArray
  -- rules that are nothing but a token used once
  let mut tokenNames : Array (Option String) := Array.replicate table.size none
  let mut newRef : Array Ref := #[]
  let mut kept : Array Nat := #[]
  for h : i in [0:ruleNames.size] do
    let name := ruleNames[i]
    let tokenOnly := match forms[i]? with
      | some (.ref (.token k)) =>
        match table[k]? with
        | some (shape, uses) =>
          if 0 < i && uses == 1 && (shape.text.isNone || !isHiddenName name) then some k else none
        | none => none
      | _ => none
    match tokenOnly with
    | some k =>
      tokenNames := tokenNames.set! k (some name)
      newRef := newRef.push (.token k)
    | none =>
      newRef := newRef.push (.rule kept.size)
      kept := kept.push i
  let rename : Ref → Ref := fun r =>
    match r with
    | .rule i => newRef.getD i r
    | _ => r
  -- repetitions
  let keptForms := kept.toList.map fun i => (forms.getD i .blank).mapRefs rename
  let (expanded, made) := (expandAll keptForms).run ⟨kept.size, #[]⟩
  let repeated := made.parts.toList.zipIdx.map fun (part, k) => repetition (kept.size + k) part
  let allForms := (expanded ++ repeated).toArray
  -- productions
  let mut productions : Array (List (Sequence Ref)) := allForms.map productionsOf
  let ruleOf (name : String) : Ref := rename (names.getD name (.rule 0))
  let inlinedRefs := src.inlined.map ruleOf
  -- default aliases
  let mut uses : HashMap Ref AliasUse := {}
  for ps in productions do
    for p in ps do
      for step in p.steps do
        if !inlinedRefs.contains step.symbol then
          uses := uses.insert step.symbol ((uses.getD step.symbol ⟨[], false⟩).count step.label)
  for e in src.extras do
    match e with
    | .rule name =>
      uses := uses.insert (ruleOf name) ((uses.getD (ruleOf name) ⟨[], false⟩).count none)
    | .blanks _ => pure ()
  let defaults : Ref → Option Alias := fun r => (uses.get? r).bind AliasUse.default?
  productions := productions.map fun ps => distinct (ps.map fun p =>
    { p with steps := p.steps.map fun step =>
        if step.label.isSome && step.label == defaults step.symbol then { step with label := none }
        else step })
  -- inlining
  let isInlined (i : Nat) : Bool := inlinedRefs.contains (.rule i)
  let original := productions
  productions := productions.map fun ps =>
    distinct (ps.flatMap (inlineSteps isInlined (fun i => original.getD i []) 64))
  -- numbers of tokens
  let wordIndex := match ruleOf src.word with
    | .token k => k
    | _ => 0
  let mut tokenNumber : Array Nat := #[]
  for k in [0:table.size] do
    tokenNumber := tokenNumber.push (if k == wordIndex then 1 else if k < wordIndex then k + 2 else k + 1)
  let mut handNumber : Array Nat := #[]
  let mut ownCount := 0
  for hand in hands do
    match hand with
    | .own _ =>
      handNumber := handNumber.push (1 + table.size + ownCount)
      ownCount := ownCount + 1
    | .rule name =>
      match ruleOf name with
      | .token k => handNumber := handNumber.push (tokenNumber.getD k 0)
      | _ => handNumber := handNumber.push 0
    | .text s =>
      let k := (table.findIdx? fun (shape, _) => shape.text == some s && !shape.immediate).getD 0
      handNumber := handNumber.push (tokenNumber.getD k 0)
  let tokenCount := 2 + table.size + ownCount
  let number : Ref → Nat := fun r =>
    match r with
    | .token k => tokenNumber.getD k 0
    | .hand i => handNumber.getD i 0
    | .rule i => tokenCount + i
  -- what is known of each symbol
  let describe (r : Ref) (name : String) (visible : Bool) (isRepeat : Bool) : SymbolInfo :=
    match defaults r with
    | some a => ⟨a.name, true, name, isRepeat⟩
    | none => ⟨name, visible, name, isRepeat⟩
  let mut symbols : Array SymbolInfo := Array.replicate tokenCount ⟨"end", false, "", false⟩
  for h : k in [0:table.size] do
    let info := match (tokenNames.getD k none), (table[k]).1.text with
      | some name, _ => describe (.token k) name (!isHiddenName name) false
      | none, some s => describe (.token k) s true false
      | none, none => describe (.token k) "" false false
    symbols := symbols.set! (tokenNumber.getD k 0) info
  for h : i in [0:hands.size] do
    match hands[i] with
    | .own name =>
      symbols := symbols.set! (handNumber.getD i 0) (describe (.hand i) name (!isHiddenName name) false)
    | _ => pure ()
  for i in kept do
    let name := ruleNames.getD i ""
    let visible := !isHiddenName name && !src.categories.contains name
    symbols := symbols.push (describe (newRef.getD i (.rule 0)) name visible false)
  for _ in made.parts do
    symbols := symbols.push ⟨"", false, "", true⟩
  -- the flat productions
  let mut flat : Array Production := #[]
  for h : i in [0:productions.size] do
    for p in productions[i] do
      flat := flat.push ⟨tokenCount + i,
        (p.steps.map fun s => ⟨number s.symbol, s.level, s.assoc, s.label⟩).toArray, p.dynamic⟩
  let numberOf (r : Rule) : List Nat :=
    match r with
    | .ref name => [number (ruleOf name)]
    | .token shape =>
      match table.findIdx? fun (other, _) => other == shape with
      | some k => [tokenNumber.getD k 0]
      | none => []
    | _ => []
  return {
    symbols := symbols
    tokenCount := tokenCount
    shapes := table.mapIdx fun k (shape, _) => (tokenNumber.getD k 0, shape)
    handTokens := handNumber
    productions := flat
    root := tokenCount
    extras := src.extras.filterMap fun e => match e with
      | .rule name => some (number (ruleOf name))
      | .blanks _ => none
    blanks := (src.extras.findSome? fun e => match e with
      | .blanks set => some set
      | .rule _ => none).getD .blanks
    orders := src.orders
    notInRecovery := src.notInRecovery.flatMap numberOf }

end RtlLiterals.Grammar
