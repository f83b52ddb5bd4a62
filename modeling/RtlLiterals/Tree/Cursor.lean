import RtlLiterals.Tree.Node

/-!
# RtlLiterals.Tree.Cursor -- walking over a tree

A cursor stands on a node and moves to its first child, to its next sibling or to its parent. A
walk goes to the first child where there is one, else to the next sibling, else to the next
sibling of the closest parent that has one, until it is back at the root.

## §A Why the walk ends

`Cursor.remaining` counts the nodes not yet reached: those below the cursor, and those of the
later siblings of it and of its parents. Every move of the walk makes it smaller.
-/

namespace RtlLiterals.Tree

/-- A place in a tree: a node, its later siblings, and the same for its parents from the closest
one up. -/
structure Cursor where
  node : Node
  later : List Node
  parents : List (Node × List Node)

namespace Cursor

/-- The cursor at the root of a tree. -/
def root (n : Node) : Cursor := ⟨n, [], []⟩

/-- Moves to the first child. -/
def firstChild? (c : Cursor) : Option Cursor :=
  match c.node.children with
  | [] => none
  | n :: ns => some ⟨n, ns, (c.node, c.later) :: c.parents⟩

/-- Moves to the next sibling. -/
def nextSibling? (c : Cursor) : Option Cursor :=
  match c.later with
  | [] => none
  | n :: ns => some ⟨n, ns, c.parents⟩

/-- Moves to the parent. -/
def parent? (c : Cursor) : Option Cursor :=
  match c.parents with
  | [] => none
  | (n, ns) :: ps => some ⟨n, ns, ps⟩

theorem length_parents_lt {c p : Cursor} (h : c.parent? = some p) :
    p.parents.length < c.parents.length := by
  unfold parent? at h
  split at h
  next => cases h
  next ps hparents =>
    obtain rfl := Option.some.inj h
    rw [hparents]
    exact Nat.lt_succ_self ps.length

/-- Moves to the next sibling of the node or of the closest parent that has one. -/
def leave (c : Cursor) : Option Cursor :=
  match c.nextSibling? with
  | some d => some d
  | none =>
    match _up : c.parent? with
    | some p => p.leave
    | none => none
termination_by c.parents.length
decreasing_by exact length_parents_lt _up

theorem leave_sibling (n m : Node) (ms : List Node) (ps : List (Node × List Node)) :
    leave ⟨n, m :: ms, ps⟩ = some ⟨m, ms, ps⟩ := by
  rw [leave]
  rfl

theorem leave_parent (n p : Node) (above : List Node) (ps : List (Node × List Node)) :
    leave ⟨n, [], (p, above) :: ps⟩ = leave ⟨p, above, ps⟩ := by
  rw [leave]
  rfl

theorem leave_root (n : Node) : leave ⟨n, [], []⟩ = none := by
  rw [leave]
  rfl

/-- The next place of a walk. -/
def next? (c : Cursor) : Option Cursor :=
  match c.firstChild? with
  | some d => some d
  | none => c.leave

/-- The number of nodes beside the parents that were not reached yet. -/
def pending : List (Node × List Node) → Nat
  | [] => 0
  | (_, later) :: ps => Node.sizes later + pending ps

/-- The number of nodes not yet reached, the one under the cursor included. -/
def remaining (c : Cursor) : Nat := c.node.size + Node.sizes c.later + pending c.parents

theorem remaining_leave {n : Node} {later : List Node} {ps : List (Node × List Node)} {d : Cursor}
    (h : leave ⟨n, later, ps⟩ = some d) : d.remaining = Node.sizes later + pending ps := by
  induction ps generalizing n later with
  | nil =>
    cases later with
    | nil =>
      rw [leave_root] at h
      cases h
    | cons m ms =>
      obtain rfl := Option.some.inj ((leave_sibling n m ms []).symm.trans h)
      simp [remaining, Node.sizes, pending]
  | cons p ps ih =>
    obtain ⟨p, above⟩ := p
    cases later with
    | nil =>
      rw [leave_parent] at h
      simp [ih h, Node.sizes, pending]
    | cons m ms =>
      obtain rfl := Option.some.inj ((leave_sibling n m ms _).symm.trans h)
      simp [remaining, Node.sizes, pending]

theorem remaining_next_lt {c d : Cursor} (h : c.next? = some d) : d.remaining < c.remaining := by
  unfold next? firstChild? at h
  have size := c.node.size_eq
  cases children : c.node.children with
  | nil =>
    simp only [children] at h
    rw [children] at size
    rw [remaining_leave h, remaining]
    omega
  | cons n ns =>
    simp only [children, Option.some.injEq] at h
    subst h
    rw [children] at size
    simp only [remaining, pending, Node.sizes] at size ⊢
    omega

/-- Visits the node under the cursor and every node after it, in the order of the walk. -/
def walk {σ : Type} (visit : σ → Node → σ) (state : σ) (c : Cursor) : σ :=
  match _moved : c.next? with
  | some d => walk visit (visit state c.node) d
  | none => visit state c.node
termination_by c.remaining
decreasing_by exact remaining_next_lt _moved

end Cursor

end RtlLiterals.Tree
