import RtlLiterals.Proofs.Tree.Preorder

/-!
# RtlLiterals.Proofs.Tree.Paths -- the places of a tree, and the moves of a walk

Equal nodes may stand at several places of a tree. A place is a path: the numbers of the children to
go down to, from the root. The paths of a tree in their lexicographic order are the pre-order of its
places: a place comes before the places below it, and these before those of later siblings.

## §A What is stated

* `isPreorder_preorder`: the nodes listed by `Node.preorder` are the nodes at the paths of the tree,
  each path once and in lexicographic order.
* `Cursor.node_after`: after `i` moves a walk stands on the node that is listed at `i`, and it has
  ended once it has made as many moves as there are nodes.
-/

namespace RtlLiterals.Tree

namespace Node

/-! ## §B Paths -/

/-- The node that a path leads to, if there is one. -/
def at? : Node → List Nat → Option Node
  | n, [] => some n
  | n, i :: path => n.children[i]?.bind fun c => c.at? path

mutual
/-- The paths of a tree, each before the paths to what is below it. -/
def paths : Node → List (List Nat)
  | .mk _ _ _ _ _ children => [] :: pathsFrom 0 children

/-- The paths through several children that are numbered from `i` on. -/
def pathsFrom (i : Nat) : List Node → List (List Nat)
  | [] => []
  | n :: ns => n.paths.map (i :: ·) ++ pathsFrom (i + 1) ns
end

theorem paths_eq (n : Node) : n.paths = [] :: pathsFrom 0 n.children := by
  cases n
  rfl

/-- The paths through children are numbered and go on below the child. -/
theorem mem_pathsFrom_iff {i : Nat} {ns : List Node} {path : List Nat} :
    path ∈ pathsFrom i ns ↔
      ∃ j n rest, ns[j]? = some n ∧ rest ∈ n.paths ∧ path = (i + j) :: rest := by
  induction ns generalizing i with
  | nil => simp [pathsFrom]
  | cons n ns ih =>
    rw [pathsFrom, List.mem_append, List.mem_map, ih]
    constructor
    · rintro (⟨rest, hrest, rfl⟩ | ⟨j, m, rest, hm, hrest, rfl⟩)
      · exact ⟨0, n, rest, rfl, hrest, rfl⟩
      · refine ⟨j + 1, m, rest, hm, hrest, ?_⟩
        rw [Nat.add_assoc, Nat.add_comm 1]
    · rintro ⟨j, m, rest, hm, hrest, rfl⟩
      cases j with
      | zero =>
        obtain rfl : n = m := Option.some.inj hm
        exact .inl ⟨rest, hrest, rfl⟩
      | succ j =>
        refine .inr ⟨j, m, rest, hm, hrest, ?_⟩
        rw [Nat.add_assoc, Nat.add_comm 1]

/-- **The paths are those that lead somewhere.** -/
theorem mem_paths_iff {n : Node} {path : List Nat} :
    path ∈ n.paths ↔ (n.at? path).isSome = true := by
  induction path generalizing n with
  | nil => simp [paths_eq, at?]
  | cons i path ih =>
    have hbelow : i :: path ∈ n.paths ↔ ∃ c, n.children[i]? = some c ∧ path ∈ c.paths := by
      rw [paths_eq, List.mem_cons, mem_pathsFrom_iff]
      constructor
      · rintro (hnil | ⟨j, c, rest, hc, hrest, hpath⟩)
        · cases hnil
        · obtain ⟨rfl, rfl⟩ := List.cons.inj hpath
          exact ⟨c, by simpa using hc, hrest⟩
      · rintro ⟨c, hc, hpath⟩
        exact .inr ⟨i, c, path, hc, hpath, by rw [Nat.zero_add]⟩
    rw [hbelow, at?]
    cases n.children[i]? with
    | none => simp
    | some c => simp [ih]

/-- A path goes on where another one ends. -/
theorem at?_append (n : Node) (path below : List Nat) :
    n.at? (path ++ below) = (n.at? path).bind fun m => m.at? below := by
  induction path generalizing n with
  | nil => rfl
  | cons i path ih =>
    rw [List.cons_append, at?, at?]
    cases n.children[i]? with
    | none => rfl
    | some c => exact ih c

/-- Paths through later children are later. -/
theorem pairwise_pathsFrom (i : Nat) {ns : List Node}
    (h : ∀ c ∈ ns, c.paths.Pairwise (· < ·)) : (pathsFrom i ns).Pairwise (· < ·) := by
  induction ns generalizing i with
  | nil => exact .nil
  | cons c ns ih =>
    rw [pathsFrom]
    refine List.pairwise_append.2 ⟨?_, ih (i + 1) fun d hd => h d (List.mem_cons_of_mem _ hd), ?_⟩
    · apply List.pairwise_map.2
      apply (h c (List.mem_cons_self ..)).imp
      intro path path' hlt
      exact List.cons_lt_cons_iff.2 (.inr ⟨rfl, hlt⟩)
    · intro path hpath path' hpath'
      obtain ⟨rest, _, rfl⟩ := List.mem_map.1 hpath
      obtain ⟨j, _, rest', _, _, rfl⟩ := mem_pathsFrom_iff.1 hpath'
      exact List.cons_lt_cons_iff.2 (.inl (by omega))

/-- **Paths are listed in order.** -/
theorem pairwise_paths (n : Node) : n.paths.Pairwise (· < ·) := by
  induction n using Node.inductionOn with
  | _ n ih =>
    rw [paths_eq]
    refine List.pairwise_cons.2 ⟨?_, pairwise_pathsFrom 0 ih⟩
    intro path hpath
    obtain ⟨j, _, rest, _, _, rfl⟩ := mem_pathsFrom_iff.1 hpath
    exact List.nil_lt_cons ..

/-- The nodes at the paths through the children of `n` from number `i` on. -/
theorem map_at?_pathsFrom {n : Node} {ns : List Node} (i : Nat) (hdrop : n.children.drop i = ns)
    (h : ∀ c ∈ n.children, c.paths.map c.at? = c.preorder.map some) :
    (pathsFrom i ns).map n.at? = (preorders ns).map some := by
  induction ns generalizing i with
  | nil => rfl
  | cons c ns ih =>
    have hget : n.children[i]? = some c := by
      rw [← List.head?_drop, hdrop]
      rfl
    have hrest : n.children.drop (i + 1) = ns := by
      rw [← List.drop_drop, hdrop]
      rfl
    have hfirst : (c.paths.map (i :: ·)).map n.at? = c.preorder.map some := by
      rw [← h c (List.mem_of_getElem? hget), List.map_map]
      apply List.map_congr_left
      intro path _
      show (n.children[i]?.bind fun d => d.at? path) = c.at? path
      rw [hget, Option.bind_some]
    rw [pathsFrom, preorders, List.map_append, List.map_append, hfirst, ih (i + 1) hrest]

/-- The nodes at the paths, in the order of the paths. -/
theorem map_at?_paths (n : Node) : n.paths.map n.at? = n.preorder.map some := by
  induction n using Node.inductionOn with
  | _ n ih =>
    have hbelow : (pathsFrom 0 n.children).map n.at? = n.descendants.map some :=
      map_at?_pathsFrom 0 List.drop_zero ih
    rw [paths_eq, preorder_eq, List.map_cons, List.map_cons, hbelow]
    rfl

/-- The nodes listed are those that paths lead to. -/
theorem mem_preorder_iff {n m : Node} : m ∈ n.preorder ↔ ∃ path, n.at? path = some m := by
  have hsome : m ∈ n.preorder ↔ some m ∈ n.paths.map n.at? := by
    rw [map_at?_paths]
    simp
  rw [hsome, List.mem_map]
  constructor
  · rintro ⟨path, _, hpath⟩
    exact ⟨path, hpath⟩
  · rintro ⟨path, hpath⟩
    exact ⟨path, mem_paths_iff.2 (by rw [hpath]; rfl), hpath⟩

/-- **`root.IsPreorder ns`** -- the nodes are those of the tree in pre-order: at each place of it
one, in the lexicographic order of the paths. -/
def IsPreorder (root : Node) (ns : List Node) : Prop :=
  ∃ places : List (List Nat), places.Pairwise (· < ·) ∧
    (∀ path, path ∈ places ↔ (root.at? path).isSome = true) ∧ places.map root.at? = ns.map some

theorem isPreorder_preorder (root : Node) : root.IsPreorder root.preorder :=
  ⟨root.paths, root.pairwise_paths, fun _ => mem_paths_iff, root.map_at?_paths⟩

end Node

namespace Cursor

/-! ## §C Moves -/

/-- The place after so many moves of a walk, unless the walk has ended before. -/
def after : Nat → Cursor → Option Cursor
  | 0, c => some c
  | i + 1, c => c.next?.bind (after i)

/-- After `i` moves the cursor is on the node that was `i` nodes ahead. -/
theorem node_after_ahead (i : Nat) (c : Cursor) : (c.after i).map node = c.ahead[i]? := by
  induction i generalizing c with
  | zero =>
    rw [ahead_next c]
    rfl
  | succ i ih =>
    rw [ahead_next c, after, List.getElem?_cons_succ]
    cases c.next? with
    | none => rfl
    | some d => exact ih d

/-- **The moves of a walk.** After `i` moves from the root the cursor is on the node that is listed
at `i`; there is no such place once all nodes were visited. -/
theorem node_after (i : Nat) (n : Node) : ((root n).after i).map node = n.preorder[i]? := by
  rw [node_after_ahead, ahead_root]

end Cursor

end RtlLiterals.Tree
