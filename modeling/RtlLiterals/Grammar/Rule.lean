import RtlLiterals.Grammar.Pattern

/-!
# RtlLiterals.Grammar.Rule -- grammars as data

A grammar is a list of named rules over tokens. Precedences, associativities and aliases are
written into the rules: a precedence is a number or a name that the grammar orders, and an alias
gives a part of a rule another name in the tree. Rules whose name starts with an underscore, and
the categories named by the grammar, leave no node of their own in the tree.
-/

namespace RtlLiterals.Grammar

/-- How strongly a step of a rule binds. -/
inductive Level where
  | none
  /-- A number; greater binds more strongly. -/
  | value (n : Int)
  /-- A name that the grammar's orders compare. -/
  | named (name : String)
deriving BEq, Hashable, DecidableEq, Repr, Inhabited

/-- How operators of equal precedence group. -/
inductive Assoc where
  | left
  | right
deriving BEq, Hashable, DecidableEq, Repr

/-- Another name for a part of a rule, as a named node or as a bare token. -/
structure Alias where
  name : String
  named : Bool
deriving BEq, Hashable, DecidableEq, Repr

/-- A token of a grammar. -/
structure TokenShape where
  /-- The exact text, for a token that has only one. -/
  text : Option String
  pattern : Pattern
  /-- No blanks may come before the token. -/
  immediate : Bool
  level : Int
deriving BEq, Repr

/-- The right side of a rule. -/
inductive Rule where
  | blank
  /-- Another rule, or a token read by hand, by its name. -/
  | ref (name : String)
  | token (shape : TokenShape)
  | seq (parts : List Rule)
  | choice (parts : List Rule)
  | repeat1 (part : Rule)
  | level (level : Level) (assoc : Option Assoc) (part : Rule)
  | dynamic (n : Int) (part : Rule)
  | renamed (label : Alias) (part : Rule)
deriving BEq, Repr

namespace Rule

/-- The token with exactly the given text. -/
def text (s : String) : Rule := .token ⟨some s, .exactly s, false, 0⟩

/-- The token of a pattern. -/
def shape (p : Pattern) : Rule := .token ⟨none, p, false, 0⟩

/-- The token of a pattern, with no blanks before it. -/
def immediate (p : Pattern) (level : Int) : Rule := .token ⟨none, p, true, level⟩

/-- The token of a text, with no blanks before it. -/
def immediateText (s : String) (level : Int) : Rule := .token ⟨some s, .exactly s, true, level⟩

/-- The part or nothing. -/
def opt (r : Rule) : Rule := .choice [r, .blank]

/-- The part any number of times. -/
def many (r : Rule) : Rule := .choice [.repeat1 r, .blank]

/-- Parts separated by a token. -/
def sepBy1 (sep r : Rule) : Rule := .seq [r, many (.seq [sep, r])]

/-- Parts separated by commas. -/
def commas1 (r : Rule) : Rule := sepBy1 (text ",") r

/-- Parts separated by commas, or nothing. -/
def commas (r : Rule) : Rule := opt (commas1 r)

/-- Parts between braces. -/
def braced (parts : List Rule) : Rule := .seq ([text "\x7b"] ++ parts ++ [text "\x7d"])

/-- Parts between parentheses. -/
def parenthesized (parts : List Rule) : Rule := .seq ([text "("] ++ parts ++ [text ")"])

/-- Parts between brackets. -/
def bracketed (parts : List Rule) : Rule := .seq ([text "["] ++ parts ++ [text "]"])

/-- Any one of the texts. -/
def texts (ss : List String) : Rule := .choice (ss.map text)

/-- The part under another name, as a named node. -/
def named (r : Rule) (name : String) : Rule := .renamed ⟨name, true⟩ r

/-- The part under the name of a bare token. -/
def asText (r : Rule) (name : String) : Rule := .renamed ⟨name, false⟩ r

/-- The part with a precedence. -/
def prec (level : Level) (r : Rule) : Rule := .level level none r

/-- The part with a precedence, grouping to the left. -/
def precLeft (level : Level) (r : Rule) : Rule := .level level (some .left) r

/-- The part with a precedence, grouping to the right. -/
def precRight (level : Level) (r : Rule) : Rule := .level level (some .right) r

/-- The part with a precedence for grouping to the left only. -/
def groupLeft (r : Rule) : Rule := precLeft (.value 0) r

/-- The part with a precedence for grouping to the right only. -/
def groupRight (r : Rule) : Rule := precRight (.value 0) r

end Rule

/-- Replaces rules by ones made from them; new names come last. A new rule is made from nothing. -/
def extendRules (base : List (String × Rule)) (changes : List (String × (Rule → Rule))) :
    List (String × Rule) :=
  let kept := base.map fun (name, rule) =>
    match changes.find? (·.1 == name) with
    | some (_, change) => (name, change rule)
    | none => (name, rule)
  let added := changes.filterMap fun (name, change) =>
    if base.any (·.1 == name) then none else some (name, change .blank)
  kept ++ added

instance : Coe String Rule := ⟨.ref⟩
instance : Coe String Level := ⟨.named⟩
instance : Coe Int Level := ⟨.value⟩

/-- An entry of an order of precedences: a name, or the rule that carries the precedence. -/
inductive OrderEntry where
  | named (name : String)
  | rule (name : String)
deriving BEq, Repr

/-- A token that is read by hand: one of its own, or one that has a pattern as well, which then
only tells the reader where it is expected. -/
inductive HandToken where
  /-- A token without a pattern. -/
  | own (name : String)
  | rule (name : String)
  | text (s : String)
deriving BEq, Repr

/-- A token that may stand between any two others. -/
inductive Extra where
  | rule (name : String)
  | blanks (set : CharSet)
deriving BEq, Repr

/-- A grammar. -/
structure Source where
  /-- The rules; the first one is the whole document. -/
  rules : List (String × Rule)
  extras : List Extra
  /-- The tokens read by hand, in the order in which the reader knows them. -/
  handTokens : List HandToken
  /-- Rules that are replaced by their right sides. -/
  inlined : List String
  categories : List String
  /-- The orders of precedences, each from the strongest to the weakest. -/
  orders : List (List OrderEntry)
  /-- The token that keywords look like. -/
  word : String
  /-- Tokens that recovery does not look for. -/
  notInRecovery : List Rule

end RtlLiterals.Grammar
