import WebPage.Proofs.Tree.Path

/-!
# Well-formed trees

Each node keeps five links, and they repeat one another: a child names its parent, the parent
names its ends, and the siblings name one another in both directions. A tree is well formed if all
of these agree, and if the links upwards end.

In a well-formed tree the bounded walks are the whole chains of links, so `Tree.childIds` is the
one list that all links of a family are read from.

## Main definitions

* `NodeKind`, `Tree.kind?`: what a node is, its content apart
* `Tree.ChildList t p l`: the nodes `l` are the children of `p`, linked in this order
* `Tree.WellFormed`: the links fit together

## Main results

* `WellFormed.childList`: the children of a node are linked in the order in which they are listed
* `WellFormed.nextSibling_eq_some_iff`, `WellFormed.firstChild_eq_some_iff`,
  `WellFormed.lastChild_eq_some_iff`: a link and the links that answer it
* `WellFormed.path_ancestors`, `WellFormed.contains_iff`: the walk up is the chain of parents
-/

namespace WebPage

/-- What a node is, its content apart. -/
inductive NodeKind where
  | document
  | fragment
  | element
  | text
  | comment
deriving DecidableEq, Repr

/-- Whether nodes of this kind may have children. -/
def NodeKind.isContainer : NodeKind → Bool
  | document | fragment | element => true
  | text | comment => false

/-- Whether nodes of this kind never have a parent. -/
def NodeKind.isRoot : NodeKind → Bool
  | document | fragment => true
  | element | text | comment => false

/-- The kind of a node. -/
def NodeData.kind : NodeData → NodeKind
  | .document => .document
  | .fragment => .fragment
  | .element _ => .element
  | .text _ => .text
  | .comment _ => .comment

theorem Node.isContainer_eq (n : Node) : n.isContainer = n.data.kind.isContainer := by
  unfold Node.isContainer
  cases n.data <;> rfl

namespace Tree

/-- The kind of the node that a reference names. -/
def kind? (t : Tree) (r : NodeRef) : Option NodeKind :=
  (t.node? r).map fun n => n.data.kind

/-- The links of a node. -/
def links (t : Tree) (r : NodeRef) : List NodeRef :=
  [t.parent r, t.firstChild r, t.lastChild r, t.prevSibling r, t.nextSibling r]

/-- The nodes of a list are the children of `p`: the links forward from the first child meet them
in order, those backward from the last child in reverse order, and no other node names `p` as its
parent. -/
structure ChildList (t : Tree) (p : NodeId) (l : List NodeId) : Prop where
  forward : Path t.nextSibling (t.firstChild (some p)) l none
  backward : Path t.prevSibling (t.lastChild (some p)) l.reverse none
  nodup : l.Nodup
  mem_iff : ∀ c, c ∈ l ↔ t.parent (some c) = some p

/-- The links of a tree fit together. -/
structure WellFormed (t : Tree) : Prop where
  /-- The first node is the document node, and no other one is. -/
  document_iff : ∀ id, t.kind? (some id) = some .document ↔ id = documentNode
  /-- Every link names a node. -/
  linked : ∀ r id, some id ∈ t.links r → (t.kind? (some id)).isSome
  /-- Every node has a list of children. -/
  children : ∀ p, ∃ l, t.ChildList p l
  /-- A node without parent has no siblings. -/
  orphan : ∀ c, t.parent (some c) = none →
    t.prevSibling (some c) = none ∧ t.nextSibling (some c) = none
  /-- Texts and comments have no children. -/
  childless : ∀ p k, t.kind? (some p) = some k → k.isContainer = false →
    t.firstChild (some p) = none ∧ t.lastChild (some p) = none
  /-- The document node and fragments have no parent. -/
  rootless : ∀ c k, t.kind? (some c) = some k → k.isRoot = true → t.parent (some c) = none
  /-- The links upwards end. -/
  acyclic : ∀ r, ∃ l, Path t.parent r l none

/-! ## Nodes and their links -/

theorem isSome_kind? {t : Tree} {r : NodeRef} : (t.kind? r).isSome = (t.node? r).isSome :=
  Option.isSome_map

theorem exists_node_of_kind? {t : Tree} {r : NodeRef} (h : (t.kind? r).isSome) :
    ∃ n, t.node? r = some n :=
  Option.isSome_iff_exists.mp (isSome_kind?.symm.trans h)

theorem kind?_isSome_iff {t : Tree} {id : NodeId} : (t.kind? (some id)).isSome ↔ id < t.size := by
  simp [kind?, node?, size]

theorem kind?_isSome_of_parent {t : Tree} {r : NodeRef} {p : NodeId} (h : t.parent r = some p) :
    (t.kind? r).isSome := by
  unfold parent at h
  unfold kind?
  cases hn : t.node? r with
  | none => simp [hn] at h
  | some n => simp

theorem isElement_iff {t : Tree} {r : NodeRef} :
    t.isElement r = true ↔ t.kind? r = some .element := by
  unfold isElement element? kind?
  cases t.node? r with
  | none => simp
  | some n => cases hd : n.data <;> simp [Node.element?, NodeData.kind, hd]

theorem kind?_isSome_of_isElement {t : Tree} {r : NodeRef} (h : t.isElement r = true) :
    (t.kind? r).isSome := by
  rw [isElement_iff.mp h, Option.isSome_some]

namespace ChildList

variable {t : Tree} {p : NodeId} {l xs ys : List NodeId} {c : NodeId}

theorem firstChild_eq (h : t.ChildList p l) : t.firstChild (some p) = l.head? :=
  h.forward.start_eq_head?

theorem lastChild_eq (h : t.ChildList p l) : t.lastChild (some p) = l.getLast? := by
  rw [h.backward.start_eq_head?, List.head?_reverse]

theorem nextSibling_eq (h : t.ChildList p (xs ++ c :: ys)) :
    t.nextSibling (some c) = ys.head? :=
  h.forward.next_eq_head?

theorem prevSibling_eq (h : t.ChildList p (xs ++ c :: ys)) :
    t.prevSibling (some c) = xs.getLast? := by
  have hb := h.backward
  rw [List.reverse_append, List.reverse_cons, List.append_assoc, List.singleton_append] at hb
  rw [hb.next_eq_head?, List.head?_reverse]

/-- Children exist, so there are at most as many as there are nodes. -/
theorem length_le (h : t.ChildList p l) : l.length ≤ t.size := by
  rw [← List.length_range (n := t.size)]
  refine List.Nodup.length_le_of_subset h.nodup fun c hc => ?_
  have hp := kind?_isSome_of_parent ((h.mem_iff c).mp hc)
  exact List.mem_range.mpr (kind?_isSome_iff.mp hp)

theorem childIds_eq (h : t.ChildList p l) : t.childIds (some p) = l :=
  h.forward.chain_eq h.length_le

end ChildList

namespace WellFormed

variable {t : Tree} {p a c d x : NodeId} {l : List NodeId}

/-! ## Children and siblings -/

/-- **The children of a node are linked in the order in which they are listed.** -/
theorem childList (h : t.WellFormed) (p : NodeId) : t.ChildList p (t.childIds (some p)) := by
  obtain ⟨l, hl⟩ := h.children p
  rwa [hl.childIds_eq]

theorem mem_childIds_iff (h : t.WellFormed) :
    c ∈ t.childIds (some p) ↔ t.parent (some c) = some p :=
  (h.childList p).mem_iff c

theorem lt_size_of_mem_childIds (h : t.WellFormed) (hc : c ∈ t.childIds (some p)) : c < t.size :=
  kind?_isSome_iff.mp (kind?_isSome_of_parent (h.mem_childIds_iff.mp hc))

/-- A child splits the list of children into those before it and those after it. -/
theorem exists_split (h : t.WellFormed) (hp : t.parent (some c) = some p) :
    ∃ xs ys, t.childIds (some p) = xs ++ c :: ys ∧ t.prevSibling (some c) = xs.getLast? ∧
      t.nextSibling (some c) = ys.head? := by
  obtain ⟨xs, ys, hl⟩ := List.append_of_mem (h.mem_childIds_iff.mpr hp)
  have hc := h.childList p
  rw [hl] at hc
  exact ⟨xs, ys, hl, hc.prevSibling_eq, hc.nextSibling_eq⟩

theorem parent_ne_none_of_nextSibling (h : t.WellFormed) (hd : t.nextSibling (some c) = some d) :
    ∃ p, t.parent (some c) = some p := by
  cases hp : t.parent (some c) with
  | some p => exact ⟨p, rfl⟩
  | none => simp [(h.orphan c hp).2] at hd

theorem parent_ne_none_of_prevSibling (h : t.WellFormed) (hd : t.prevSibling (some c) = some d) :
    ∃ p, t.parent (some c) = some p := by
  cases hp : t.parent (some c) with
  | some p => exact ⟨p, rfl⟩
  | none => simp [(h.orphan c hp).1] at hd

/-- The link to the next sibling is answered by that sibling, which has the same parent. -/
theorem prevSibling_of_nextSibling (h : t.WellFormed) (hd : t.nextSibling (some c) = some d) :
    t.prevSibling (some d) = some c ∧ t.parent (some d) = t.parent (some c) := by
  obtain ⟨p, hp⟩ := h.parent_ne_none_of_nextSibling hd
  obtain ⟨xs, ys, hl, -, hn⟩ := h.exists_split hp
  have hd' := hn.symm.trans hd
  cases ys with
  | nil => simp at hd'
  | cons y ys =>
    obtain rfl : y = d := by simpa using hd'
    -- the list is split at `y` instead of `c`
    have hc := h.childList p
    rw [hl, List.append_cons] at hc
    refine ⟨by simpa using hc.prevSibling_eq, ?_⟩
    rw [hp]
    exact (hc.mem_iff y).mp (by simp)

theorem nextSibling_of_prevSibling (h : t.WellFormed) (hd : t.prevSibling (some d) = some c) :
    t.nextSibling (some c) = some d ∧ t.parent (some c) = t.parent (some d) := by
  obtain ⟨p, hp⟩ := h.parent_ne_none_of_prevSibling hd
  obtain ⟨xs, ys, hl, hpr, -⟩ := h.exists_split hp
  have hd' := hpr.symm.trans hd
  rcases List.eq_nil_or_concat xs with rfl | ⟨zs, z, rfl⟩
  · simp at hd'
  · rw [List.concat_eq_append] at hd' hl
    obtain rfl : z = c := by simpa using hd'
    -- the list is split at `z` instead of `d`
    have hc := h.childList p
    rw [hl, List.append_assoc, List.singleton_append] at hc
    refine ⟨by simpa using hc.nextSibling_eq, ?_⟩
    rw [hp]
    exact (hc.mem_iff z).mp (by simp)

/-- **The links between siblings answer one another.** -/
theorem nextSibling_eq_some_iff (h : t.WellFormed) :
    t.nextSibling (some c) = some d ↔ t.prevSibling (some d) = some c :=
  ⟨fun hd => (h.prevSibling_of_nextSibling hd).1, fun hd => (h.nextSibling_of_prevSibling hd).1⟩

/-- The first child of a node is its child with no sibling before it. -/
theorem firstChild_eq_some_iff (h : t.WellFormed) :
    t.firstChild (some p) = some c ↔
      t.parent (some c) = some p ∧ t.prevSibling (some c) = none := by
  have hl := h.childList p
  constructor
  · intro hf
    rw [hl.firstChild_eq] at hf
    obtain ⟨l, he⟩ := List.head?_eq_some_iff.mp hf
    rw [he, ← List.nil_append (c :: l)] at hl
    exact ⟨(hl.mem_iff c).mp (by simp), hl.prevSibling_eq⟩
  · rintro ⟨hp, hn⟩
    obtain ⟨xs, ys, he, hpr, -⟩ := h.exists_split hp
    rw [hn] at hpr
    obtain rfl : xs = [] := List.getLast?_eq_none_iff.mp hpr.symm
    rw [hl.firstChild_eq, he, List.nil_append, List.head?_cons]

/-- The last child of a node is its child with no sibling after it. -/
theorem lastChild_eq_some_iff (h : t.WellFormed) :
    t.lastChild (some p) = some c ↔
      t.parent (some c) = some p ∧ t.nextSibling (some c) = none := by
  have hl := h.childList p
  constructor
  · intro hf
    rw [hl.lastChild_eq] at hf
    obtain ⟨l, he⟩ := List.getLast?_eq_some_iff.mp hf
    rw [he] at hl
    exact ⟨(hl.mem_iff c).mp (by simp), hl.nextSibling_eq⟩
  · rintro ⟨hp, hn⟩
    obtain ⟨xs, ys, he, -, hnx⟩ := h.exists_split hp
    rw [hn] at hnx
    obtain rfl : ys = [] := List.head?_eq_none_iff.mp hnx.symm
    rw [hl.lastChild_eq, he, List.getLast?_append, List.getLast?_singleton, Option.some_or]

theorem nextSibling_ne_self (h : t.WellFormed) : t.nextSibling (some c) ≠ some c := by
  intro hc
  obtain ⟨p, hp⟩ := h.parent_ne_none_of_nextSibling hc
  obtain ⟨xs, ys, hl, -, hn⟩ := h.exists_split hp
  have hnd := (h.childList p).nodup
  rw [hl] at hnd
  -- `c` would come again among the children after it
  have hmem : c ∈ ys := List.mem_of_head? (hn.symm.trans hc)
  exact (List.nodup_cons.mp (List.nodup_append.mp hnd).2.1).1 hmem

/-! ## Parents -/

theorem parent_isSome (h : t.WellFormed) (hp : t.parent (some c) = some p) :
    (t.kind? (some p)).isSome :=
  h.linked (some c) p (by simp [links, hp])

/-- Every node on the way up is named by a link. -/
theorem lt_size_of_mem_path (h : t.WellFormed) {r : NodeRef}
    (hl : Path t.parent (t.parent r) l none) (ha : a ∈ l) : a < t.size := by
  induction l generalizing r with
  | nil => cases ha
  | cons b l ih =>
    obtain ⟨hb, hl⟩ := hl
    rcases List.mem_cons.mp ha with rfl | ha
    · exact kind?_isSome_iff.mp (h.linked r a (by simp [links, hb]))
    · exact ih hl ha

/-- The nodes above a node are as many as there are nodes at most. -/
theorem length_path_parent_le (h : t.WellFormed) {r : NodeRef}
    (hl : Path t.parent (t.parent r) l none) : l.length ≤ t.size := by
  rw [← List.length_range (n := t.size)]
  exact List.Nodup.length_le_of_subset hl.nodup fun a ha =>
    List.mem_range.mpr (h.lt_size_of_mem_path hl ha)

/-- **The ancestors of a node are the whole chain of its parents.** -/
theorem path_ancestors (h : t.WellFormed) (r : NodeRef) :
    Path t.parent (t.parent r) (t.ancestors r) none := by
  obtain ⟨l, hl⟩ := h.acyclic (t.parent r)
  have he : t.ancestors r = l := hl.chain_eq (h.length_path_parent_le hl)
  rwa [he]

/-- A node and the nodes above it are as many as there are nodes at most. -/
theorem length_ancestors_lt (h : t.WellFormed) (hx : x < t.size) :
    (t.ancestors (some x)).length < t.size := by
  have hpath := h.path_ancestors (some x)
  have hway : Path t.parent (some x) (x :: t.ancestors (some x)) none := ⟨rfl, hpath⟩
  rw [← List.length_range (n := t.size), Nat.lt_iff_add_one_le, ← List.length_cons]
  refine List.Nodup.length_le_of_subset hway.nodup fun a ha => List.mem_range.mpr ?_
  rcases List.mem_cons.mp ha with rfl | ha
  · exact hx
  · exact h.lt_size_of_mem_path hpath ha

/-- A node contains itself and the nodes that have it as an ancestor. -/
theorem contains_iff (h : t.WellFormed) (hl : Path t.parent (some x) l none) :
    t.contains (some a) (some x) = true ↔ a ∈ l := by
  have he : l = x :: t.ancestors (some x) := hl.unique ⟨rfl, h.path_ancestors (some x)⟩
  simp [contains, he]

end WellFormed

end Tree

end WebPage
