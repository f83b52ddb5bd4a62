import RtlLiterals.Yaml.Event

/-!
# RtlLiterals.Yaml.Node -- a document as a tree

The first document of a stream is built from its events by keeping the open collections on a
stack. A document that cannot be read to its end still has the values up to there; the collections
that were open then are marked as cut off.

An anchor is known by a number: how many names of anchors there were before it, each name counted
once. A reference carries the number that its name had at that point, and means the last value with
that number.
-/

namespace RtlLiterals.Yaml

/-- A value. -/
inductive Node where
  | scalar (mark : Mark) (number : Option Nat) (tag : Option TagText) (style : ScalarStyle)
      (content : Text)
  /-- A collection, the keys and values of a mapping in turn; `cut` says that its end is missing. -/
  | collection (mark : Mark) (number : Option Nat) (tag : Option TagText) (kind : Collection)
      (children : List Node) (cut : Bool)
  | reference (mark : Mark) (number : Nat)
deriving Repr, Inhabited

namespace Node

/-- Where a value starts. -/
def mark : Node → Mark
  | scalar m .. | collection m .. | reference m .. => m

/-- The number of a value with an anchor. -/
def number : Node → Option Nat
  | scalar _ n .. | collection _ n .. => n
  | reference .. => none

mutual

/-- The value and all values in it, in the order in which they start. -/
def all : Node → List Node
  | n@(collection _ _ _ _ children _) => n :: allOf children
  | n => [n]

/-- The values of a list and all values in them. -/
def allOf : List Node → List Node
  | [] => []
  | n :: ns => n.all ++ allOf ns

end

end Node

/-- A collection that is not closed yet. -/
structure OpenNode where
  mark : Mark
  /-- Its number, if it has an anchor. -/
  number : Option Nat
  tag : Option TagText
  kind : Collection
  /-- The values in it so far, the last one first. -/
  children : List Node
deriving Repr

namespace OpenNode

/-- The collection with one more value. -/
def push (o : OpenNode) (n : Node) : OpenNode := { o with children := n :: o.children }

/-- The collection when it closes, or when the document is cut off. -/
def close (o : OpenNode) (cut : Bool) : Node :=
  .collection o.mark o.number o.tag o.kind o.children.reverse cut

end OpenNode

/-- What is known while a document is built. -/
structure Building where
  /-- The open collections, the innermost first. -/
  stack : List OpenNode
  /-- The value of the document, when it is complete. -/
  root : Option Node
  /-- The numbers of names of anchors, the latest first. -/
  names : List (Text × Nat)
deriving Repr

namespace Building

/-- Nothing has been built. -/
def empty : Building := ⟨[], none, []⟩

/-- The next value is complete. -/
def push (b : Building) (n : Node) : Building :=
  match b.stack with
  | [] => { b with root := some n }
  | o :: os => { b with stack := o.push n :: os }

/-- The number of a new anchor, and what is known with it. -/
def nameAnchor (b : Building) : Option Text → Option Nat × Building
  | none => (none, b)
  | some name =>
    let number := b.names.length
    (some number, { b with names := (name, number) :: b.names.filter (·.1 != name) })

/-- Closes the innermost collection. -/
def close (b : Building) (cut : Bool) : Building :=
  match b.stack with
  | [] => b
  | o :: os => { b with stack := os }.push (o.close cut)

/-- The value of a document that ends here, or is cut off. -/
def finish (b : Building) : Option Node :=
  (b.stack.foldl (fun inner o => some ((inner.map o.push).getD o |>.close true)) none).orElse
    fun _ => b.root

end Building

/-- Why a document cannot be read to its end. -/
inductive Fault where
  | problem (p : Problem)
  | unknownAnchor (m : Mark)
deriving DecidableEq, Repr

/-- The first document of a stream. -/
structure Document where
  /-- Its value, as far as it can be read; an empty stream has none. -/
  root : Option Node
  /-- Why it cannot be read to its end. -/
  fault : Option Fault
  /-- Another document follows. -/
  more : Bool
deriving Repr

namespace Document

/-- The stream goes on after a document. -/
def goesOn (es : List Event) : Bool := !es.head?.any (·.kind == .streamEnd)

/-- The document that events spell, when something of it has been built; `problem` says why there
are no more events. -/
def build (problem : Option Problem) : List Event → Building → Document
  | [], b => ⟨b.finish, problem.map .problem, false⟩
  | e :: es, b =>
    match e.kind with
    | .documentStart => build problem es b
    | .documentEnd => ⟨b.finish, none, goesOn es⟩
    | .streamEnd => ⟨b.finish, none, false⟩
    | .reference name =>
      match b.names.lookup name with
      | some n => build problem es (b.push (.reference e.mark n))
      | none => ⟨b.finish, some (.unknownAnchor e.mark), false⟩
    | .scalar p style content =>
      let (n, b) := b.nameAnchor p.anchor
      build problem es (b.push (.scalar e.mark n p.tag style content))
    | .opening p kind =>
      let (n, b) := b.nameAnchor p.anchor
      build problem es { b with stack := ⟨e.mark, n, p.tag, kind, []⟩ :: b.stack }
    | .closing => build problem es (b.close false)

/-- The first document that events spell. -/
def ofEvents (events : Events) : Document := build events.problem events.list .empty

/-- The place of the first character that may not stand in a document. -/
def badCharacter? : Text → Nat → Option Nat
  | [], _ => none
  | c :: t, i => if isAccepted c then badCharacter? t (i + c.utf8Size) else some i

/-- The first document of a text. A byte order mark at the start does not count, except that it has
its bytes. -/
def ofText (t : Text) : Document :=
  let (body, start) := match t with
    | c :: rest => if c = byteOrderMark then (rest, c.utf8Size) else (t, 0)
    | [] => ([], 0)
  match badCharacter? body start with
  | some i => ⟨none, some (.problem ⟨.controlCharacter, ⟨i, 0, 0⟩, none⟩), false⟩
  | none => ofEvents (.ofTokens (.ofText body))

/-- The value that a reference means. -/
def target? (d : Document) (number : Nat) : Option Node :=
  (d.root.map fun n => n.all.filter (·.number == some number)).getD [] |>.getLast?

end Document

end RtlLiterals.Yaml
