import WebPage.Proofs.Tree.WellFormed

/-!
# Roots

The root of a node is where the links upwards end. A node has the root of its parent, so all nodes
below a node have the root of that node.

## Main results

* `mem_preorder_induction`: what holds of some nodes and passes to children holds of all nodes below
* `WellFormed.treeRoot_of_parent`: a node has the root of its parent
* `WellFormed.treeRoot_of_mem_descendants`: the nodes below a root have that root
-/

namespace WebPage.Tree

variable {t : Tree} {a c p : NodeId} {r : NodeRef}

/-- What holds of the nodes on a stack and passes from each node to its children holds of all nodes
that the walk down meets. -/
theorem mem_preorder_induction {P : NodeId → Prop}
    (hstep : ∀ x, P x → ∀ y ∈ t.childIds (some x), P y) {bound : Nat} {stack : List NodeId}
    (hstack : ∀ x ∈ stack, P x) : ∀ x ∈ t.preorder bound stack, P x := by
  induction bound generalizing stack with
  | zero => simp [preorder]
  | succ bound ih =>
    cases stack with
    | nil => simp [preorder]
    | cons y stack =>
      obtain ⟨hy, hstack⟩ := List.forall_mem_cons.mp hstack
      refine List.forall_mem_cons.mpr ⟨hy, ih fun x hx => ?_⟩
      -- the walk goes on with the children of `y` and then the rest of the stack
      rcases List.mem_append.mp hx with hx | hx
      · exact hstep y hy x hx
      · exact hstack x hx

/-- The root of a node is the last one on the way up, the node itself included. -/
theorem treeRoot_eq_getLast? (t : Tree) (n : NodeId) :
    t.treeRoot (some n) = (n :: t.ancestors (some n)).getLast? := by
  rw [treeRoot, List.getLast?_cons]
  cases (t.ancestors (some n)).getLast? <;> rfl

namespace WellFormed

/-- The ancestors of a node are its parent and the ancestors of that. -/
theorem ancestors_of_parent (h : t.WellFormed) (hp : t.parent r = some p) :
    t.ancestors r = p :: t.ancestors (some p) :=
  (h.path_ancestors r).unique ⟨hp, h.path_ancestors (some p)⟩

/-- A node without parent has no ancestors. -/
theorem ancestors_eq_nil (h : t.WellFormed) (hp : t.parent r = none) : t.ancestors r = [] :=
  (h.path_ancestors r).unique hp

/-- A node with an ancestor has a parent, so it is there. -/
theorem isSome_of_mem_ancestors (h : t.WellFormed) (ha : a ∈ t.ancestors r) :
    (t.kind? r).isSome := by
  cases hp : t.parent r with
  | some p => exact kind?_isSome_of_parent hp
  | none =>
    rw [h.ancestors_eq_nil hp] at ha
    cases ha

/-- **A node has the root of its parent.** -/
theorem treeRoot_of_parent (h : t.WellFormed) (hp : t.parent r = some p) :
    t.treeRoot r = t.treeRoot (some p) := by
  rw [treeRoot_eq_getLast? t p, treeRoot, h.ancestors_of_parent hp, List.getLast?_cons]
  rfl

/-- The root of a node has no parent, so it is its own root. -/
theorem treeRoot_treeRoot (h : t.WellFormed) (r : NodeRef) :
    t.treeRoot (t.treeRoot r) = t.treeRoot r := by
  have hpath := h.path_ancestors r
  rcases List.eq_nil_or_concat (t.ancestors r) with hn | ⟨l, a, hl⟩
  · have hr : t.treeRoot r = r := by rw [treeRoot, hn]; rfl
    rw [hr, hr]
  · rw [List.concat_eq_append] at hl
    have hr : t.treeRoot r = some a := by rw [treeRoot, hl, List.getLast?_concat]; rfl
    rw [hl] at hpath
    have hparent : t.parent (some a) = none := hpath.next_eq_head?
    rw [hr, treeRoot, h.ancestors_eq_nil hparent]
    rfl

/-- **The nodes below a root have that root.** -/
theorem treeRoot_of_mem_descendants (h : t.WellFormed) (hc : c ∈ t.descendants (t.treeRoot r)) :
    t.treeRoot (some c) = t.treeRoot r := by
  have hstep : ∀ x, t.treeRoot (some x) = t.treeRoot r → ∀ y ∈ t.childIds (some x),
      t.treeRoot (some y) = t.treeRoot r := by
    intro x hx y hy
    rw [h.treeRoot_of_parent (h.mem_childIds_iff.mp hy)]
    exact hx
  have hroot := h.treeRoot_treeRoot r
  cases hr : t.treeRoot r with
  | none =>
    -- no node is below no node
    have hchildren : t.childIds none = [] := by
      unfold childIds
      cases t.size <;> rfl
    have hempty : t.descendants none = [] := by
      rw [descendants, hchildren]
      cases t.size <;> rfl
    rw [hr, hempty] at hc
    cases hc
  | some a =>
    rw [hr] at hc hroot hstep
    refine mem_preorder_induction hstep (fun y hy => ?_) c hc
    exact hstep a hroot y hy

end WellFormed

end WebPage.Tree
