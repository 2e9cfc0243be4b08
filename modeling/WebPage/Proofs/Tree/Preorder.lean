import WebPage.Proofs.Tree.Roots

/-!
# The walk down

The walk down from a node visits each node before the nodes below it, and keeps those that are
still to be visited on a stack. In a well-formed tree the subtrees on the stack are apart from one
another, so the walk visits nothing twice and ends by itself before its bound does.

## Main definitions

* `Walk t stack l`: the walk from a stack visits the nodes `l` until the stack is empty
* `Above t a x`: some number of links upwards, one at least, lead from `x` to `a`

## Main results

* `WellFormed.above_iff`: the ancestors of a node are the nodes above it
* `WellFormed.child_induction`: what passes from all children of a node to the node holds of every
  node
* `WellFormed.walk_descendants`: the bounded walk is the whole walk
* `WellFormed.mem_descendants_iff`, `WellFormed.nodup_descendants`: it visits the nodes with the
  start among their ancestors, each of them once
* `WellFormed.descendants_eq_flatMap`: it goes through the subtrees of the children one by one
* `WellFormed.mem_descendants_treeRoot_iff`: the nodes below the root of a tree
-/

namespace WebPage.Tree

variable {t : Tree} {a b c x y : NodeId} {r : NodeRef} {stack stack' l l' : List NodeId}

/-- Taking the first node off a stack and putting its children in its place, again and again,
visits exactly the nodes of a list, in order, until the stack is empty. -/
inductive Walk (t : Tree) : List NodeId → List NodeId → Prop
  | done : Walk t [] []
  | visit {x : NodeId} {stack l : List NodeId} (h : Walk t (t.childIds (some x) ++ stack) l) :
    Walk t (x :: stack) (x :: l)

namespace Walk

theorem append (h : Walk t stack l) (h' : Walk t stack' l') :
    Walk t (stack ++ stack') (l ++ l') := by
  induction h with
  | done => exact h'
  | visit _ ih =>
    rw [List.append_assoc] at ih
    exact .visit ih

/-- The walk from one node goes on with the children of that node. -/
theorem singleton (h : Walk t (t.childIds (some x)) l) : Walk t [x] (x :: l) := by
  refine .visit ?_
  rwa [List.append_nil]

theorem unique (h : Walk t stack l) (h' : Walk t stack l') : l = l' := by
  induction h generalizing l' with
  | done =>
    cases h'
    rfl
  | visit _ ih =>
    cases h' with
    | visit h' => rw [ih h']

/-- A bounded walk with a bound that is large enough is the walk. -/
theorem preorder_eq (h : Walk t stack l) {bound : Nat} (hb : l.length ≤ bound) :
    t.preorder bound stack = l := by
  induction h generalizing bound with
  | done => cases bound <;> rfl
  | visit _ ih =>
    cases bound with
    | zero => simp at hb
    | succ bound => rw [preorder, ih (by simpa using hb)]

theorem subset (h : Walk t stack l) : stack ⊆ l := by
  induction h with
  | done => exact List.Subset.refl _
  | visit _ ih => exact List.cons_subset_cons _ fun x hx => ih (List.mem_append_right _ hx)

/-- The children of a node that is visited are visited. -/
theorem mem_of_mem_childIds (h : Walk t stack l) (hx : x ∈ l) (hy : y ∈ t.childIds (some x)) :
    y ∈ l := by
  induction h with
  | done => cases hx
  | visit h ih =>
    refine List.mem_cons_of_mem _ ?_
    rcases List.mem_cons.mp hx with rfl | hx
    · exact h.subset (List.mem_append_left _ hy)
    · exact ih hx

theorem exists_of_forall (h : ∀ x ∈ stack, ∃ l, Walk t [x] l) : ∃ l, Walk t stack l := by
  induction stack with
  | nil => exact ⟨[], .done⟩
  | cons x stack ih =>
    obtain ⟨⟨l, hx⟩, hstack⟩ := List.forall_mem_cons.mp h
    obtain ⟨l', hl⟩ := ih hstack
    exact ⟨l ++ l', append hx hl⟩

/-- The walks from the nodes of a stack make up the walk from the stack. -/
theorem flatMap {f : NodeId → List NodeId} (h : ∀ x ∈ stack, Walk t [x] (f x)) :
    Walk t stack (stack.flatMap f) := by
  induction stack with
  | nil => exact .done
  | cons x stack ih =>
    obtain ⟨hx, hstack⟩ := List.forall_mem_cons.mp h
    exact append hx (ih hstack)

end Walk

/-! ## Above and below -/

theorem contains_iff_eq_or_mem :
    t.contains (some a) (some x) = true ↔ a = x ∨ a ∈ t.ancestors (some x) := by
  simp [contains]

theorem contains_self (t : Tree) (x : NodeId) : t.contains (some x) (some x) = true :=
  contains_iff_eq_or_mem.mpr (.inl rfl)

/-- The node `a` is the parent of `x`, or the parent of its parent, and so on. -/
def Above (t : Tree) : NodeId → NodeId → Prop :=
  Relation.TransGen fun p c => t.parent (some c) = some p

namespace WellFormed

/-- **The ancestors of a node are the nodes above it.** -/
theorem above_iff (h : t.WellFormed) : t.Above a x ↔ a ∈ t.ancestors (some x) := by
  constructor
  · intro ha
    induction ha with
    | single hp =>
      rw [h.ancestors_of_parent hp]
      exact List.mem_cons_self
    | tail _ hp ih =>
      rw [h.ancestors_of_parent hp]
      exact List.mem_cons_of_mem _ ih
  · intro ha
    -- up the way to `a`, each node is above `x` because its child on the way is
    generalize hl : t.ancestors (some x) = l at ha
    induction l generalizing x with
    | nil => cases ha
    | cons p l ih =>
      have hpath := h.path_ancestors (some x)
      rw [hl] at hpath
      have hp : t.ancestors (some p) = l := (h.path_ancestors (some p)).unique hpath.2
      rcases List.mem_cons.mp ha with rfl | ha
      · exact .single hpath.1
      · exact (ih hp ha).tail hpath.1

theorem ancestors_of_mem (h : t.WellFormed) (ha : a ∈ t.ancestors r) :
    ∃ l, t.ancestors r = l ++ a :: t.ancestors (some a) := by
  obtain ⟨xs, ys, hl⟩ := List.append_of_mem ha
  have hpath := h.path_ancestors r
  rw [hl] at hpath
  obtain ⟨mid, -, rfl, hys⟩ := Path.append_iff.mp hpath
  exact ⟨xs, by rw [hl, hys.unique (h.path_ancestors (some a))]⟩

/-- A node with the nodes above it, as the way up to one of them and what is above that. -/
theorem exists_way_of_contains (h : t.WellFormed) (ha : t.contains (some a) (some x) = true) :
    ∃ l, x :: t.ancestors (some x) = l ++ a :: t.ancestors (some a) := by
  rcases contains_iff_eq_or_mem.mp ha with rfl | ha
  · exact ⟨[], rfl⟩
  · obtain ⟨l, hl⟩ := h.ancestors_of_mem ha
    exact ⟨x :: l, by rw [hl, List.cons_append]⟩

/-- What contains a child contains what the child contains. -/
theorem contains_of_contains_child (h : t.WellFormed) (hc : c ∈ t.childIds (some x))
    (hy : t.contains (some c) (some y) = true) : t.contains (some x) (some y) = true := by
  refine contains_iff_eq_or_mem.mpr (.inr ?_)
  have hx := h.ancestors_of_parent (h.mem_childIds_iff.mp hc)
  rcases contains_iff_eq_or_mem.mp hy with rfl | hy
  · rw [hx]
    exact List.mem_cons_self
  · obtain ⟨l, hl⟩ := h.ancestors_of_mem hy
    rw [hl, hx]
    simp

/-- What contains a node contains its children. -/
theorem contains_child_of_contains (h : t.WellFormed)
    (ha : t.contains (some a) (some x) = true) (hy : y ∈ t.childIds (some x)) :
    t.contains (some a) (some y) = true := by
  have hanc := h.ancestors_of_parent (h.mem_childIds_iff.mp hy)
  refine contains_iff_eq_or_mem.mpr (.inr ?_)
  rw [hanc]
  rcases contains_iff_eq_or_mem.mp ha with rfl | ha
  · exact List.mem_cons_self
  · exact List.mem_cons_of_mem x ha

/-- Two children of a node that contain the same node are one. -/
theorem eq_of_contains_both (h : t.WellFormed) (ha : a ∈ t.childIds (some x))
    (hb : b ∈ t.childIds (some x)) (hay : t.contains (some a) (some y) = true)
    (hby : t.contains (some b) (some y) = true) : a = b := by
  obtain ⟨l, hl⟩ := h.exists_way_of_contains hay
  obtain ⟨l', hl'⟩ := h.exists_way_of_contains hby
  rw [h.ancestors_of_parent (h.mem_childIds_iff.mp ha)] at hl
  rw [h.ancestors_of_parent (h.mem_childIds_iff.mp hb)] at hl'
  -- above both there are the same nodes, so both stand at the same place of the way up
  exact (List.cons.inj (List.append_inj' (hl.symm.trans hl') (by simp)).2).1

/-- A child does not contain its parent. -/
theorem not_contains_parent (h : t.WellFormed) (hc : c ∈ t.childIds (some x)) :
    ¬ t.contains (some c) (some x) = true := by
  intro hx
  obtain ⟨l, hl⟩ := h.exists_way_of_contains hx
  have hlen := congrArg List.length hl
  rw [h.ancestors_of_parent (h.mem_childIds_iff.mp hc)] at hlen
  simp only [List.length_cons, List.length_append] at hlen
  omega

theorem ne_of_mem_childIds (h : t.WellFormed) (hc : c ∈ t.childIds (some x)) : c ≠ x := by
  rintro rfl
  exact h.not_contains_parent hc (contains_self t c)

/-- **Induction from the leaves**: what passes from all children of a node to the node holds of
every node. -/
theorem child_induction (h : t.WellFormed) {P : NodeId → Prop}
    (step : ∀ p, (∀ c ∈ t.childIds (some p), P c) → P p) (p : NodeId) : P p := by
  -- children have more nodes above them, and no node has more than there are nodes
  generalize hk : t.size - (t.ancestors (some p)).length = k
  induction k using Nat.strongRecOn generalizing p with
  | ind k ih =>
    refine step p fun c hc => ih _ ?_ c rfl
    have hlen := h.length_path_parent_le (h.path_ancestors (some c))
    rw [h.ancestors_of_parent (h.mem_childIds_iff.mp hc)] at hlen ⊢
    rw [List.length_cons] at hlen ⊢
    omega

/-! ## The walk in a well-formed tree -/

theorem exists_walk (h : t.WellFormed) (x : NodeId) : ∃ l, Walk t (t.childIds (some x)) l := by
  induction x using h.child_induction with
  | step x ih =>
    refine Walk.exists_of_forall fun c hc => ?_
    obtain ⟨l, hl⟩ := ih c hc
    exact ⟨c :: l, .singleton hl⟩

/-- What is visited lies below the stack. -/
theorem exists_contains_of_walk (h : t.WellFormed) (hw : Walk t stack l) (hy : y ∈ l) :
    ∃ x ∈ stack, t.contains (some x) (some y) = true := by
  induction hw with
  | done => cases hy
  | @visit x stack l _ ih =>
    rcases List.mem_cons.mp hy with rfl | hy
    · exact ⟨y, List.mem_cons_self, contains_self t y⟩
    · obtain ⟨z, hz, hzy⟩ := ih hy
      rcases List.mem_append.mp hz with hz | hz
      · exact ⟨x, List.mem_cons_self, h.contains_of_contains_child hz hzy⟩
      · exact ⟨z, List.mem_cons_of_mem x hz, hzy⟩

/-- **Nothing is visited twice** where the subtrees on the stack are apart from one another. -/
theorem nodup_walk (h : t.WellFormed) (hw : Walk t stack l)
    (hs : stack.Pairwise fun a b =>
      ∀ y, t.contains (some a) (some y) = true → ¬ t.contains (some b) (some y) = true) :
    l.Nodup := by
  induction hw with
  | done => exact List.nodup_nil
  | @visit x stack l hw ih =>
    obtain ⟨hx, hs⟩ := List.pairwise_cons.mp hs
    refine List.nodup_cons.mpr ⟨fun hmem => ?_, ih (List.pairwise_append.mpr ⟨?_, hs, ?_⟩)⟩
    · -- `x` would lie below one of its children or below the rest of the stack
      obtain ⟨z, hz, hzx⟩ := h.exists_contains_of_walk hw hmem
      rcases List.mem_append.mp hz with hz | hz
      · exact h.not_contains_parent hz hzx
      · exact hx z hz x (contains_self t x) hzx
    · refine (h.childList x).nodup.imp_of_mem fun ha hb hne y hay hby => ?_
      exact hne (h.eq_of_contains_both ha hb hay hby)
    · intro c hc b hb y hcy
      exact hx b hb y (h.contains_of_contains_child hc hcy)

/-- **The nodes below a node are those that the walk from its children visits**, and the bound of
the walk is never felt. -/
theorem walk_descendants (h : t.WellFormed) (x : NodeId) :
    Walk t (t.childIds (some x)) (t.descendants (some x)) := by
  obtain ⟨l, hw⟩ := h.exists_walk x
  have hnodup : (x :: l).Nodup :=
    h.nodup_walk (.singleton hw) (List.pairwise_singleton _ x)
  have hlt : ∀ y ∈ l, y < t.size := by
    intro y hy
    obtain ⟨c, hc, hcy⟩ := h.exists_contains_of_walk hw hy
    -- a node below a child is not the start, so it has a parent
    cases hp : t.parent (some y) with
    | some p => exact kind?_isSome_iff.mp (kind?_isSome_of_parent hp)
    | none =>
      have hcy' : c = y := by simpa [contains, h.ancestors_eq_nil hp] using hcy
      have hpc := h.mem_childIds_iff.mp hc
      rw [hcy', hp] at hpc
      cases hpc
  have hlen : l.length ≤ t.size := by
    rw [← List.length_range (n := t.size)]
    exact List.Nodup.length_le_of_subset (List.nodup_cons.mp hnodup).2 fun y hy =>
      List.mem_range.mpr (hlt y hy)
  rw [descendants, hw.preorder_eq hlen]
  exact hw

/-- **The nodes below a node are those that have it as an ancestor.** -/
theorem mem_descendants_iff (h : t.WellFormed) :
    y ∈ t.descendants (some x) ↔ x ∈ t.ancestors (some y) := by
  have hw := h.walk_descendants x
  constructor
  · intro hy
    obtain ⟨c, hc, hcy⟩ := h.exists_contains_of_walk hw hy
    obtain ⟨l, hl⟩ := h.exists_way_of_contains hcy
    rw [h.ancestors_of_parent (h.mem_childIds_iff.mp hc)] at hl
    cases l with
    | nil =>
      rw [(List.cons.inj hl).2]
      exact List.mem_cons_self
    | cons z l =>
      rw [(List.cons.inj hl).2]
      simp
  · intro hx
    -- down the way from `x` to `y`, each node is visited because its parent is
    generalize hl : t.ancestors (some y) = l at hx
    induction l generalizing y with
    | nil => cases hx
    | cons p l ih =>
      have hpath := h.path_ancestors (some y)
      rw [hl] at hpath
      have hy : y ∈ t.childIds (some p) := h.mem_childIds_iff.mpr hpath.1
      have hp : t.ancestors (some p) = l := (h.path_ancestors (some p)).unique hpath.2
      rcases List.mem_cons.mp hx with rfl | hx
      · exact hw.subset hy
      · exact hw.mem_of_mem_childIds (ih hp hx) hy

theorem lt_size_of_mem_descendants (h : t.WellFormed) (hy : y ∈ t.descendants (some x)) :
    y < t.size := by
  cases hp : t.parent (some y) with
  | some p => exact kind?_isSome_iff.mp (kind?_isSome_of_parent hp)
  | none =>
    rw [h.mem_descendants_iff, h.ancestors_eq_nil hp] at hy
    cases hy

/-- A node contains itself and the nodes below it. -/
theorem contains_iff_mem_descendants (h : t.WellFormed) :
    t.contains (some x) (some y) = true ↔ y = x ∨ y ∈ t.descendants (some x) := by
  rw [contains_iff_eq_or_mem, h.mem_descendants_iff, eq_comm]

/-- No node is listed twice below a node, and none below itself. -/
theorem nodup_cons_descendants (h : t.WellFormed) (x : NodeId) :
    (x :: t.descendants (some x)).Nodup :=
  h.nodup_walk (.singleton (h.walk_descendants x)) (List.pairwise_singleton _ x)

theorem nodup_descendants (h : t.WellFormed) (x : NodeId) : (t.descendants (some x)).Nodup :=
  (List.nodup_cons.mp (h.nodup_cons_descendants x)).2

/-- **Below a node there are its children, each with the nodes below it, one after the other.** -/
theorem descendants_eq_flatMap (h : t.WellFormed) (x : NodeId) :
    t.descendants (some x) =
      (t.childIds (some x)).flatMap fun c => c :: t.descendants (some c) :=
  (h.walk_descendants x).unique (Walk.flatMap fun c _ => .singleton (h.walk_descendants c))

/-- **The nodes below the root of a tree are the other nodes of the tree**: those that have the same
root and a parent. -/
theorem mem_descendants_treeRoot_iff (h : t.WellFormed) :
    y ∈ t.descendants (t.treeRoot (some x)) ↔
      t.treeRoot (some y) = t.treeRoot (some x) ∧ t.parent (some y) ≠ none := by
  constructor
  · intro hy
    refine ⟨h.treeRoot_of_mem_descendants hy, fun hp => ?_⟩
    cases hr : t.treeRoot (some x) with
    | none => cases hl : (t.ancestors (some x)).getLast? <;> simp [treeRoot, hl] at hr
    | some a =>
      rw [hr, h.mem_descendants_iff, h.ancestors_eq_nil hp] at hy
      cases hy
  · rintro ⟨hroot, hp⟩
    rw [← hroot, treeRoot]
    cases hl : (t.ancestors (some y)).getLast? with
    | none =>
      have hpath := h.path_ancestors (some y)
      rw [List.getLast?_eq_none_iff.mp hl] at hpath
      exact absurd hpath hp
    | some a => exact h.mem_descendants_iff.mpr (List.mem_of_getLast? hl)

end WellFormed

end WebPage.Tree
