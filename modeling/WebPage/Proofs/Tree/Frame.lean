import WebPage.Proofs.Tree.Relinking
import WebPage.Tree.Elements

/-!
# Changes that leave the links alone

Most operations on a tree change what a node holds and no link. Two trees with the same nodes, of
the same kinds, linked in the same way, have the same walks, and one is well formed if the other
is. A fresh node is linked to no other, so it changes no link either.

## Main definitions

* `SameFrame t t'`: the trees have the same nodes, of the same kinds, linked in the same way

## Main results

* `SameFrame.childIds_eq`, `SameFrame.descendants_eq`, …: the walks agree
* `SameFrame.wellFormed`: well-formedness is a property of the frame
* `sameFrame_setData`: writing data of the same kind keeps the frame
* `WellFormed.add`: a fresh node keeps a tree well formed
-/

namespace WebPage.Tree

variable {t t' t'' : Tree} {id c p : NodeId} {r : NodeRef} {data : NodeData}

/-- The trees have the same nodes, of the same kinds, linked in the same way. -/
structure SameFrame (t t' : Tree) : Prop where
  kind? : t'.kind? = t.kind?
  parent : t'.parent = t.parent
  firstChild : t'.firstChild = t.firstChild
  lastChild : t'.lastChild = t.lastChild
  prevSibling : t'.prevSibling = t.prevSibling
  nextSibling : t'.nextSibling = t.nextSibling

/-- Trees with the same kinds of nodes are of the same size. -/
theorem size_eq_of_kind? (h : t'.kind? = t.kind?) : t'.size = t.size := by
  have hlt : ∀ id, id < t'.size ↔ id < t.size := fun id => by
    rw [← kind?_isSome_iff, ← kind?_isSome_iff, h]
  exact Nat.le_antisymm (Nat.le_of_not_lt fun hl => Nat.lt_irrefl _ ((hlt t.size).mp hl))
    (Nat.le_of_not_lt fun hl => Nat.lt_irrefl _ ((hlt t'.size).mpr hl))

namespace SameFrame

theorem refl (t : Tree) : SameFrame t t := ⟨rfl, rfl, rfl, rfl, rfl, rfl⟩

theorem trans (h : SameFrame t t') (h' : SameFrame t' t'') : SameFrame t t'' :=
  ⟨h'.kind?.trans h.kind?, h'.parent.trans h.parent, h'.firstChild.trans h.firstChild,
    h'.lastChild.trans h.lastChild, h'.prevSibling.trans h.prevSibling,
    h'.nextSibling.trans h.nextSibling⟩

theorem size_eq (h : SameFrame t t') : t'.size = t.size :=
  size_eq_of_kind? h.kind?

theorem isElement_eq (h : SameFrame t t') : t'.isElement = t.isElement := by
  funext r
  rw [Bool.eq_iff_iff, isElement_iff, isElement_iff, h.kind?]

theorem childIds_eq (h : SameFrame t t') : t'.childIds = t.childIds := by
  funext r
  unfold childIds
  rw [h.nextSibling, h.firstChild, h.size_eq]

theorem preorder_eq (h : SameFrame t t') (bound : Nat) (stack : List NodeId) :
    t'.preorder bound stack = t.preorder bound stack := by
  induction bound generalizing stack with
  | zero => rfl
  | succ bound ih =>
    cases stack with
    | nil => rfl
    | cons id stack => rw [preorder, preorder, ih, h.childIds_eq]

theorem descendants_eq (h : SameFrame t t') : t'.descendants = t.descendants := by
  funext r
  rw [descendants, descendants, h.preorder_eq, h.size_eq, h.childIds_eq]

theorem ancestors_eq (h : SameFrame t t') : t'.ancestors = t.ancestors := by
  funext r
  unfold ancestors
  rw [h.parent, h.size_eq]

theorem treeRoot_eq (h : SameFrame t t') : t'.treeRoot = t.treeRoot := by
  funext r
  rw [treeRoot, treeRoot, h.ancestors_eq]

theorem isConnected_eq (h : SameFrame t t') : t'.isConnected = t.isConnected := by
  funext r
  have hsome : (t'.node? r).isSome = (t.node? r).isSome := by
    rw [← isSome_kind?, ← isSome_kind?, h.kind?]
  rw [isConnected, isConnected, h.treeRoot_eq, hsome]

end SameFrame

theorem ChildList.congr {l : List NodeId} (h : t.ChildList p l) (hp : t'.parent = t.parent)
    (hf : t'.firstChild = t.firstChild) (hl : t'.lastChild = t.lastChild)
    (hs : t'.prevSibling = t.prevSibling) (hn : t'.nextSibling = t.nextSibling) :
    t'.ChildList p l := by
  refine ⟨?_, ?_, h.nodup, fun c => ?_⟩
  · rw [hn, hf]
    exact h.forward
  · rw [hs, hl]
    exact h.backward
  · rw [hp]
    exact h.mem_iff c

/-- **Well-formedness is a property of the frame.** -/
theorem SameFrame.wellFormed (hs : SameFrame t t') (h : t.WellFormed) : t'.WellFormed := by
  refine ⟨?_, ?_, fun p => ?_, ?_, ?_, ?_, ?_⟩
  · rw [hs.kind?]
    exact h.document_iff
  · simp only [links, hs.kind?, hs.parent, hs.firstChild, hs.lastChild, hs.prevSibling,
      hs.nextSibling]
    exact h.linked
  · obtain ⟨l, hl⟩ := h.children p
    exact ⟨l, hl.congr hs.parent hs.firstChild hs.lastChild hs.prevSibling hs.nextSibling⟩
  · rw [hs.parent, hs.prevSibling, hs.nextSibling]
    exact h.orphan
  · rw [hs.kind?, hs.firstChild, hs.lastChild]
    exact h.childless
  · rw [hs.kind?, hs.parent]
    exact h.rootless
  · rw [hs.parent]
    exact h.acyclic

/-! ## Writing data -/

theorem sameFrame_setData (hk : t.kind? (some id) = some data.kind) :
    SameFrame t (t.setData id data) := by
  refine ⟨funext fun r => ?_, ?_, ?_, ?_, ?_, ?_⟩
  · by_cases hr : r = some id
    · subst hr
      rw [hk, kind?, setData, node?_modify, if_pos rfl]
      obtain ⟨n, hn⟩ := exists_node_of_kind? (by rw [hk]; rfl)
      simp [hn]
    · rw [kind?, setData, node?_modify, if_neg hr, kind?]
  all_goals exact funext fun r => bind_modify_of_eq fun _ => rfl

/-- An element that is written is found in its place, and the others are found as before. -/
theorem element?_setElement {e : Element} (h : t.isElement (some id) = true) :
    (t.setElement id e).element? r = if r = some id then some e else t.element? r := by
  rw [element?, setElement, setData, node?_modify]
  split
  next hr =>
    subst hr
    obtain ⟨n, hn⟩ := Option.isSome_iff_exists.mp (Option.isSome_of_isSome_bind h)
    rw [hn]
    rfl
  next => rfl

theorem sameFrame_setElement {e : Element} (h : t.isElement (some id) = true) :
    SameFrame t (t.setElement id e) :=
  sameFrame_setData (isElement_iff.mp h)

theorem element_eq_ok {e : Element} : t.element r = .ok e ↔ t.element? r = some e := by
  unfold element element?
  cases t.node? r with
  | none => simp
  | some n => cases hn : n.element? <;> simp [hn]

/-- An element is changed if there is one. -/
theorem modifyElement_eq_ok {f : Element → Element} :
    t.modifyElement r f = .ok t' ↔
      ∃ id e, r = some id ∧ t.element? r = some e ∧ t' = t.setElement id (f e) := by
  unfold modifyElement
  rw [bind_eq_ok]
  constructor
  · rintro ⟨e, he, ht⟩
    rw [element_eq_ok] at he
    cases r with
    | none => cases he
    | some id => exact ⟨id, e, rfl, he, (Except.ok.inj ht).symm⟩
  · rintro ⟨id, e, rfl, he, rfl⟩
    exact ⟨e, element_eq_ok.mpr he, rfl⟩

theorem isElement_of_element? {e : Element} (h : t.element? r = some e) : t.isElement r = true := by
  rw [isElement, h, Option.isSome_some]

/-! ## Fresh nodes -/

@[simp] theorem add_fst : (t.add data).1 = t.size := rfl

theorem node?_add : (t.add data).2.node? r =
    if r = some t.size then some { data } else t.node? r := by
  cases r with
  | none => simp [node?]
  | some i => simp [node?, add, size, Array.getElem?_push]

theorem kind?_add : (t.add data).2.kind? r =
    if r = some t.size then some data.kind else t.kind? r := by
  rw [kind?, node?_add]
  split <;> rfl

theorem node?_size : t.node? (some t.size) = none := by
  simp [node?, size]

/-- A fresh node is linked to no other. -/
theorem bind_add {link : Node → NodeRef} (h : link { data } = none) :
    ((t.add data).2.node? r).bind link = (t.node? r).bind link := by
  rw [node?_add]
  split
  next hr =>
    rw [hr, node?_size]
    exact h
  next => rfl

theorem parent_add : (t.add data).2.parent = t.parent := funext fun _ => bind_add rfl

theorem firstChild_add : (t.add data).2.firstChild = t.firstChild := funext fun _ => bind_add rfl

theorem lastChild_add : (t.add data).2.lastChild = t.lastChild := funext fun _ => bind_add rfl

theorem prevSibling_add : (t.add data).2.prevSibling = t.prevSibling := funext fun _ => bind_add rfl

theorem nextSibling_add : (t.add data).2.nextSibling = t.nextSibling := funext fun _ => bind_add rfl

/-- A fresh node is nobody's child. -/
theorem WellFormed.childIds_add (h : t.WellFormed) (p : NodeId) :
    (t.add data).2.childIds (some p) = t.childIds (some p) :=
  ((h.childList p).congr parent_add firstChild_add lastChild_add prevSibling_add
    nextSibling_add).childIds_eq

theorem WellFormed.documentNode_lt_size (h : t.WellFormed) : documentNode < t.size := by
  have hk := (h.document_iff documentNode).mpr rfl
  exact kind?_isSome_iff.mp (by rw [hk, Option.isSome_some])

/-- **A fresh node keeps a tree well formed.** -/
theorem WellFormed.add (h : t.WellFormed) (hd : data.kind ≠ .document) :
    (t.add data).2.WellFormed := by
  have hchildren : ∀ p, ∃ l, (t.add data).2.ChildList p l := by
    intro p
    obtain ⟨l, hl⟩ := h.children p
    exact ⟨l, hl.congr parent_add firstChild_add lastChild_add prevSibling_add nextSibling_add⟩
  have horphan : ∀ c, (t.add data).2.parent (some c) = none →
      (t.add data).2.prevSibling (some c) = none ∧ (t.add data).2.nextSibling (some c) = none := by
    rw [parent_add, prevSibling_add, nextSibling_add]
    exact h.orphan
  refine ⟨fun id => ?_, isSome_of_mem_links hchildren horphan, hchildren, horphan, ?_, ?_, ?_⟩
  · rw [kind?_add]
    split
    next hid =>
      obtain rfl : id = t.size := Option.some.inj hid
      simpa [hd] using Nat.ne_of_gt h.documentNode_lt_size
    next => exact h.document_iff id
  · -- the fresh node was no node before, and so had no children
    intro p k hk hkc
    rw [firstChild_add, lastChild_add]
    by_cases hp : some p = some t.size
    · rw [hp, firstChild, lastChild, node?_size]
      exact ⟨rfl, rfl⟩
    · rw [kind?_add, if_neg hp] at hk
      exact h.childless p k hk hkc
  · intro c k hk hkr
    rw [parent_add]
    by_cases hc : some c = some t.size
    · rw [hc, parent, node?_size]
      rfl
    · rw [kind?_add, if_neg hc] at hk
      exact h.rootless c k hk hkr
  · rw [parent_add]
    exact h.acyclic

end WebPage.Tree
