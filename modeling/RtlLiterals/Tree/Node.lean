/-!
# RtlLiterals.Tree.Node -- syntax trees

A node of a syntax tree has a kind, a range of bytes of the source, and children in source order.
A node is broken if something in it could not be read as the grammar says, and missing if it was
supplied where the source has nothing.
-/

namespace RtlLiterals.Tree

/-- A node of a syntax tree with everything below it. -/
inductive Node where
  /-- A node from byte `start` to byte `stop` of the source. -/
  | mk (kind : String) (start stop : Nat) (broken missing : Bool) (children : List Node)
deriving Repr, Inhabited

namespace Node

/-- The kind of the node. -/
def kind : Node → String
  | mk k _ _ _ _ _ => k

/-- The first byte of the node. -/
def start : Node → Nat
  | mk _ a _ _ _ _ => a

/-- The byte after the node. -/
def stop : Node → Nat
  | mk _ _ b _ _ _ => b

/-- Something in the node could not be read. -/
def broken : Node → Bool
  | mk _ _ _ e _ _ => e

/-- The node was supplied where the source has nothing. -/
def missing : Node → Bool
  | mk _ _ _ _ m _ => m

/-- The children, in source order. -/
def children : Node → List Node
  | mk _ _ _ _ _ cs => cs

mutual
/-- The number of nodes of a tree. -/
def size : Node → Nat
  | mk _ _ _ _ _ cs => sizes cs + 1

/-- The number of nodes of several trees. -/
def sizes : List Node → Nat
  | [] => 0
  | n :: ns => n.size + sizes ns
end

theorem size_eq (n : Node) : n.size = sizes n.children + 1 := by
  cases n; rfl

end Node

end RtlLiterals.Tree
