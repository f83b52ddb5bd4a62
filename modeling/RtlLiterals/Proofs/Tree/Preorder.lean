import RtlLiterals.Tree.Cursor

/-!
# RtlLiterals.Proofs.Tree.Preorder -- a walk visits every node once, parents first

The walk of a cursor is a loop over three moves. `Node.preorder` lists the nodes of a tree by
recursion on the tree, and the walk visits exactly this list, in this order.

## §A How it goes

`Cursor.ahead` is the part of the list that a cursor has still to visit: what is below it, then
what is below its later siblings, then the later siblings of its parents. One move takes the first
node off this list (`ahead_next`), and the walk ends when nothing is left but the node under the
cursor, so a whole walk is a fold over what is ahead of its first place.
-/

namespace RtlLiterals.Tree

namespace Node

/-! ## §B The nodes of a tree -/

/-- **Induction over a tree.** What holds of a node when it holds of its children holds of all. -/
@[elab_as_elim]
theorem inductionOn {P : Node → Prop} (n : Node) (step : ∀ n, (∀ c ∈ n.children, P c) → P n) :
    P n := by
  refine Node.rec (motive_1 := P) (motive_2 := fun ns => ∀ c ∈ ns, P c) ?_ ?_ ?_ n
  · intro kind start stop broken missing children ih
    exact step _ ih
  · intro c hc
    cases hc
  · intro n ns hn hns c hc
    rcases List.mem_cons.1 hc with rfl | hc
    · exact hn
    · exact hns c hc

mutual
/-- The nodes of a tree, each before the nodes below it. -/
def preorder : Node → List Node
  | .mk kind start stop broken missing children =>
    .mk kind start stop broken missing children :: preorders children

/-- The nodes of several trees, one tree after the other. -/
def preorders : List Node → List Node
  | [] => []
  | n :: ns => n.preorder ++ preorders ns
end

/-- The nodes below a node. -/
def descendants (n : Node) : List Node := preorders n.children

theorem preorder_eq (n : Node) : n.preorder = n :: n.descendants := by
  cases n
  rfl

theorem self_mem_preorder (n : Node) : n ∈ n.preorder := by
  rw [preorder_eq]
  exact List.mem_cons_self ..

theorem preorders_eq_flatMap (ns : List Node) : preorders ns = ns.flatMap preorder := by
  induction ns with
  | nil => rfl
  | cons n ns ih => rw [preorders, ih, List.flatMap_cons]

/-- A node below another one is a child of it or below a child. -/
theorem mem_descendants_iff {n m : Node} :
    m ∈ n.descendants ↔ ∃ c ∈ n.children, m ∈ c.preorder := by
  rw [descendants, preorders_eq_flatMap, List.mem_flatMap]

theorem mem_preorder_of_child {n c m : Node} (hc : c ∈ n.children) (hm : m ∈ c.preorder) :
    m ∈ n.preorder := by
  rw [preorder_eq]
  exact List.mem_cons_of_mem _ (mem_descendants_iff.2 ⟨c, hc, hm⟩)

end Node

namespace Cursor

/-! ## §C The walk -/

open Node (preorders)

/-- The nodes that the parents of a cursor have still to offer: those of their later siblings. -/
def aheadOf : List (Node × List Node) → List Node
  | [] => []
  | (_, later) :: ps => preorders later ++ aheadOf ps

/-- The nodes that a walk visits from a cursor on. -/
def ahead (c : Cursor) : List Node := c.node.preorder ++ (preorders c.later ++ aheadOf c.parents)

theorem ahead_root (n : Node) : (root n).ahead = n.preorder := by
  simp [ahead, root, aheadOf, preorders]

/-- Leaving a node goes to the first of the nodes that are still offered. -/
theorem ahead_leave (n : Node) (later : List Node) (ps : List (Node × List Node)) :
    ((leave ⟨n, later, ps⟩).map ahead).getD [] = preorders later ++ aheadOf ps := by
  induction ps generalizing n later with
  | nil =>
    cases later with
    | nil =>
      rw [leave_root]
      rfl
    | cons m ms => simp [leave_sibling, ahead, aheadOf, preorders]
  | cons p ps ih =>
    obtain ⟨p, above⟩ := p
    cases later with
    | nil =>
      rw [leave_parent, ih]
      rfl
    | cons m ms => simp [leave_sibling, ahead, aheadOf, preorders]

/-- **One move.** It takes the node under the cursor off what is ahead. -/
theorem ahead_next (c : Cursor) : c.ahead = c.node :: ((c.next?.map ahead).getD []) := by
  unfold next? firstChild?
  cases hchildren : c.node.children with
  | nil =>
    have hpre : c.node.preorder = [c.node] := by
      rw [Node.preorder_eq, Node.descendants, hchildren]
      rfl
    simp only []
    rw [ahead_leave, ahead, hpre]
    rfl
  | cons n ns =>
    rw [ahead, Node.preorder_eq, Node.descendants, hchildren]
    simp [ahead, aheadOf, preorders]

/-- A walk is a fold over what is ahead of the cursor. -/
theorem walk_eq_foldl_ahead {σ : Type} (visit : σ → Node → σ) (state : σ) (c : Cursor) :
    c.walk visit state = c.ahead.foldl visit state := by
  fun_induction walk visit state c with
  | case1 state c d hnext ih =>
    rw [ih, ahead_next c, hnext]
    rfl
  | case2 state c hnext =>
    rw [ahead_next c, hnext]
    rfl

/-- **A whole walk.** It visits every node of the tree once, each before the nodes below it. -/
theorem walk_eq_foldl_preorder {σ : Type} (visit : σ → Node → σ) (state : σ) (n : Node) :
    (root n).walk visit state = n.preorder.foldl visit state := by
  rw [walk_eq_foldl_ahead, ahead_root]

end Cursor

end RtlLiterals.Tree
