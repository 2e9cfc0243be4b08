import WebPage.Proofs.Tree.Preorder

/-!
# Document order

A node of a document is reached from the document node by going to a child with a certain index,
to a child of that with a certain index, and so on. There is one such path to each node. Document
order is the lexicographic order of these paths, and the walk down goes through the nodes in it.

## Main definitions

* `Tree.nodeAt`: the node that a path of child indices leads to
* `Tree.IsIndexPath`: the path from the document node to a node
* `Tree.Precedes`: document order
* `Tree.HangsFromDocument`: the links upwards lead to the document node

## Main results

* `WellFormed.nodeAt_inj`: a node is reached along one path only
* `WellFormed.mem_descendants_documentNode_iff`: the walk down from the document node visits the
  other nodes that hang from it
* `WellFormed.pairwise_precedes`: the walk down lists the nodes of a document in document order
-/

namespace WebPage.Tree

/-- The node that is reached from `x` along a path of child indices. -/
def nodeAt (t : Tree) (x : NodeId) : List Nat → Option NodeId
  | [] => some x
  | i :: path => (t.childIds (some x))[i]?.bind fun c => t.nodeAt c path

/-- A path of child indices leads from the document node to `n`, and no other one does. -/
def IsIndexPath (t : Tree) (path : List Nat) (n : NodeId) : Prop :=
  ∀ path', t.nodeAt documentNode path' = some n ↔ path' = path

/-- **Document order**: the path to `a` comes before the path to `b` in lexicographic order. -/
def Precedes (t : Tree) (a b : NodeId) : Prop :=
  ∃ path path', t.IsIndexPath path a ∧ t.IsIndexPath path' b ∧ path < path'

/-- The chain of parents of a node, the node itself included, ends in the document node. -/
def HangsFromDocument (t : Tree) (n : NodeId) : Prop :=
  ∃ l, Path t.parent (some n) l none ∧ l.getLast? = some documentNode

variable {t : Tree} {a b x : NodeId} {path path' : List Nat}

namespace WellFormed

/-- A path leads down. -/
theorem contains_of_nodeAt (h : t.WellFormed) (ha : t.nodeAt x path = some a) :
    t.contains (some x) (some a) = true := by
  induction path generalizing x with
  | nil =>
    obtain rfl : x = a := Option.some.inj ha
    exact contains_self t x
  | cons i path ih =>
    obtain ⟨c, hc, ha⟩ := Option.bind_eq_some_iff.mp ha
    exact h.contains_of_contains_child (List.mem_of_getElem? hc) (ih ha)

/-- **A node is reached along one path only.** -/
theorem nodeAt_inj (h : t.WellFormed) (ha : t.nodeAt x path = some a)
    (ha' : t.nodeAt x path' = some a) : path = path' := by
  induction path generalizing x path' with
  | nil =>
    obtain rfl : x = a := Option.some.inj ha
    cases path' with
    | nil => rfl
    | cons i path' =>
      obtain ⟨c, hc, ha'⟩ := Option.bind_eq_some_iff.mp ha'
      exact absurd (h.contains_of_nodeAt ha') (h.not_contains_parent (List.mem_of_getElem? hc))
  | cons i path ih =>
    obtain ⟨c, hc, ha⟩ := Option.bind_eq_some_iff.mp ha
    cases path' with
    | nil =>
      obtain rfl : x = a := Option.some.inj ha'
      exact absurd (h.contains_of_nodeAt ha) (h.not_contains_parent (List.mem_of_getElem? hc))
    | cons j path' =>
      obtain ⟨d, hd, ha'⟩ := Option.bind_eq_some_iff.mp ha'
      obtain rfl : c = d := h.eq_of_contains_both (List.mem_of_getElem? hc)
        (List.mem_of_getElem? hd) (h.contains_of_nodeAt ha) (h.contains_of_nodeAt ha')
      -- a child stands at one index only
      obtain ⟨hi, hci⟩ := List.getElem?_eq_some_iff.mp hc
      have hij : i = j := (List.getElem?_inj hi (h.childList x).nodup).mp (hc.trans hd.symm)
      rw [hij, ih ha ha']

theorem isIndexPath_of_nodeAt (h : t.WellFormed) (ha : t.nodeAt documentNode path = some a) :
    t.IsIndexPath path a := by
  refine fun path' => ⟨fun ha' => h.nodeAt_inj ha' ha, ?_⟩
  rintro rfl
  exact ha

/-- What the walk down from a node visits is reached along some path. -/
theorem exists_nodeAt (h : t.WellFormed) (x : NodeId) :
    ∀ b ∈ x :: t.descendants (some x), ∃ path, t.nodeAt x path = some b := by
  induction x using h.child_induction with
  | step x ih =>
    intro b hb
    rcases List.mem_cons.mp hb with rfl | hb
    · exact ⟨[], rfl⟩
    · rw [h.descendants_eq_flatMap] at hb
      obtain ⟨c, hc, hb⟩ := List.mem_flatMap.mp hb
      obtain ⟨path, hpath⟩ := ih c hc b hb
      obtain ⟨i, hi⟩ := List.getElem?_of_mem hc
      exact ⟨i :: path, by rw [nodeAt, hi, Option.bind_some, hpath]⟩

/-- The walk down from `x` visits nodes in the order of the paths from `x` to them. -/
theorem pairwise_nodeAt (h : t.WellFormed) (x : NodeId) :
    (x :: t.descendants (some x)).Pairwise fun a b =>
      ∃ path path', t.nodeAt x path = some a ∧ t.nodeAt x path' = some b ∧ path < path' := by
  induction x using h.child_induction with
  | step x ih =>
    have hcons : ∀ {i c b path}, (t.childIds (some x))[i]? = some c →
        t.nodeAt c path = some b → t.nodeAt x (i :: path) = some b := by
      intro i c b path hi hb
      rw [nodeAt, hi, Option.bind_some, hb]
    refine List.pairwise_cons.mpr ⟨fun b hb => ?_, ?_⟩
    · -- the empty path comes first
      obtain ⟨path, hpath⟩ := h.exists_nodeAt x b (List.mem_cons_of_mem x hb)
      cases path with
      | nil =>
        obtain rfl : x = b := Option.some.inj hpath
        exact absurd hb (List.nodup_cons.mp (h.nodup_cons_descendants x)).1
      | cons i path => exact ⟨[], i :: path, rfl, hpath, List.nil_lt_cons i path⟩
    · rw [h.descendants_eq_flatMap]
      refine List.pairwise_flatMap.mpr ⟨fun c hc => ?_, List.pairwise_iff_getElem.mpr ?_⟩
      · -- below one child, the paths go on from the same index
        obtain ⟨i, hi⟩ := List.getElem?_of_mem hc
        refine (ih c hc).imp ?_
        rintro a b ⟨path, path', ha, hb, hlt⟩
        exact ⟨i :: path, i :: path', hcons hi ha, hcons hi hb,
          List.cons_lt_cons_iff.mpr (.inr ⟨rfl, hlt⟩)⟩
      · -- below two children, their indices decide
        intro i j hi hj hij a ha b hb
        obtain ⟨path, hpath⟩ := h.exists_nodeAt _ a ha
        obtain ⟨path', hpath'⟩ := h.exists_nodeAt _ b hb
        exact ⟨i :: path, j :: path', hcons (List.getElem?_eq_getElem hi) hpath,
          hcons (List.getElem?_eq_getElem hj) hpath', List.cons_lt_cons_iff.mpr (.inl hij)⟩

/-- **The walk down lists the nodes of a document in document order.** -/
theorem pairwise_precedes (h : t.WellFormed) :
    (t.descendants (some documentNode)).Pairwise t.Precedes := by
  refine (List.pairwise_cons.mp (h.pairwise_nodeAt documentNode)).2.imp ?_
  rintro a b ⟨path, path', ha, hb, hlt⟩
  exact ⟨path, path', h.isIndexPath_of_nodeAt ha, h.isIndexPath_of_nodeAt hb, hlt⟩

/-- **The walk down from the document node visits the other nodes that hang from it.** -/
theorem mem_descendants_documentNode_iff (h : t.WellFormed) :
    a ∈ t.descendants (some documentNode) ↔ a ≠ documentNode ∧ t.HangsFromDocument a := by
  have hdoc : t.ancestors (some documentNode) = [] :=
    h.ancestors_eq_nil (h.rootless _ _ ((h.document_iff documentNode).mpr rfl) rfl)
  rw [h.mem_descendants_iff]
  constructor
  · intro ha
    refine ⟨?_, a :: t.ancestors (some a), ⟨rfl, h.path_ancestors (some a)⟩, ?_⟩
    · rintro rfl
      rw [hdoc] at ha
      cases ha
    · obtain ⟨l, hl⟩ := h.ancestors_of_mem ha
      rw [hl, hdoc, ← List.cons_append, List.getLast?_concat]
  · rintro ⟨hne, l, hpath, hlast⟩
    obtain rfl : l = a :: t.ancestors (some a) := hpath.unique ⟨rfl, h.path_ancestors (some a)⟩
    rcases List.mem_cons.mp (List.mem_of_getLast? hlast) with rfl | ha
    · exact absurd rfl hne
    · exact ha

end WellFormed

end WebPage.Tree
