import WebPage.Proofs.Tree.Preorder
import WebPage.Tree.Serialization

/-!
# What a subtree holds

A subtree is read off as labelled trees, which no longer know where in the arena a node was kept.
Two subtrees that give the same labelled tree are equal as labelled ordered trees: their nodes
correspond to one another, with equal labels and in equal order.

## Main definitions

* `NodeLabel`, `Tree.label?`: what a node holds that is written into markup
* `Tree.SameSubtree`: equality as labelled ordered trees
* `Tree.AgreeBelow`: two trees that have the same nodes below a node

## Main results

* `WellFormed.contents_eq`: the labelled trees of a node, from those of its children
* `sameSubtree_of_contents_eq`, `SameSubtree.contents_eq`: nodes have the same subtree just if they
  have the same labelled tree
* `AgreeBelow.contents_eq`, `AgreeBelow.descendants_eq`: what is read below a node depends on no
  other node
-/

namespace WebPage

open Markup (Content)

/-- What a node holds that is written into markup: no form state and no listeners. -/
inductive NodeLabel where
  | document
  | fragment
  | element (tag : String) (attributes : List (String × String))
  | text (text : String)
  | comment (text : String)
deriving DecidableEq, Repr

/-- The label of a node. -/
def NodeData.label : NodeData → NodeLabel
  | .document => .document
  | .fragment => .fragment
  | .element e => .element e.tag e.attributes.entries
  | .text s => .text s
  | .comment s => .comment s

/-- Whether a node with this label is written itself, and not its children instead. -/
def NodeLabel.isWritten : NodeLabel → Bool
  | document | fragment => false
  | element _ _ | text _ | comment _ => true

/-- Whether nodes with this label may have children. -/
def NodeLabel.isContainer : NodeLabel → Bool
  | document | fragment | element _ _ => true
  | text _ | comment _ => false

/-- The labelled trees of a node with this label, from those of its children. -/
def NodeLabel.contents (children : List Content) : NodeLabel → List Content
  | document | fragment => children
  | element tag attributes => [.element tag attributes children]
  | text s => [.text s]
  | comment s => [.comment s]

/-- A node that is written itself has one labelled tree. -/
theorem NodeLabel.exists_contents_eq_singleton {label : NodeLabel}
    (hl : label.isWritten = true) (children : List Content) :
    ∃ content, label.contents children = [content] := by
  cases label with
  | document => cases hl
  | fragment => cases hl
  | element tag attributes => exact ⟨_, rfl⟩
  | text s => exact ⟨_, rfl⟩
  | comment s => exact ⟨_, rfl⟩

namespace Tree

/-- The label of the node that a reference names. -/
def label? (t : Tree) (r : NodeRef) : Option NodeLabel :=
  (t.node? r).map fun n => n.data.label

/-- Two subtrees are equal as labelled ordered trees: equal labels at the top, and equal subtrees
below, child by child. -/
inductive SameSubtree (t t' : Tree) : NodeId → NodeId → Prop
  | intro {a b : NodeId} {label : NodeLabel} (left : t.label? (some a) = some label)
    (right : t'.label? (some b) = some label)
    (length : (t.childIds (some a)).length = (t'.childIds (some b)).length)
    (children : ∀ (i : Nat) (c d : NodeId), (t.childIds (some a))[i]? = some c →
      (t'.childIds (some b))[i]? = some d → SameSubtree t t' c d) : SameSubtree t t' a b

variable {t t' : Tree} {a b c d p x : NodeId} {label : NodeLabel}

/-! ## The labelled trees of a node -/

theorem label?_of_node? {r : NodeRef} {n : Node} (hn : t.node? r = some n) :
    t.label? r = some n.data.label := by
  rw [label?, hn, Option.map_some]

theorem contentsWithin_succ (depth : Nat) (hx : t.label? (some x) = some label) :
    t.contentsWithin (depth + 1) x =
      label.contents ((t.childIds (some x)).flatMap (t.contentsWithin depth)) := by
  obtain ⟨n, hn, rfl⟩ := Option.map_eq_some_iff.mp hx
  rw [contentsWithin, hn]
  cases hd : n.data <;> simp [hd, NodeData.label, NodeLabel.contents]

theorem exists_label_of_isElement (h : t.isElement (some a) = true) :
    ∃ tag attributes, t.label? (some a) = some (.element tag attributes) := by
  obtain ⟨n, hn, hk⟩ := Option.map_eq_some_iff.mp (isElement_iff.mp h)
  cases hd : n.data with
  | element e => exact ⟨_, _, Option.map_eq_some_iff.mpr ⟨n, hn, by rw [hd]; rfl⟩⟩
  | _ =>
    rw [hd] at hk
    cases hk

theorem lt_size_of_label? (hx : t.label? (some x) = some label) : x < t.size := by
  obtain ⟨n, hn, -⟩ := Option.map_eq_some_iff.mp hx
  refine kind?_isSome_iff.mp ?_
  rw [kind?, hn]
  rfl

theorem contentsWithin_of_label?_eq_none (depth : Nat) (hx : t.label? (some x) = none) :
    t.contentsWithin depth x = [] := by
  cases depth with
  | zero => rfl
  | succ depth => rw [contentsWithin, Option.map_eq_none_iff.mp hx]

namespace WellFormed

/-- Two depths that both reach from a node to the deepest place of the arena give the same. -/
theorem contentsWithin_eq (h : t.WellFormed) (x : NodeId) : ∀ {depth depth' : Nat},
    t.size ≤ depth + (t.ancestors (some x)).length →
      t.size ≤ depth' + (t.ancestors (some x)).length →
        t.contentsWithin depth x = t.contentsWithin depth' x := by
  induction x using h.child_induction with
  | step x ih =>
    intro depth depth' hd hd'
    cases hx : t.label? (some x) with
    | none => rw [contentsWithin_of_label?_eq_none _ hx, contentsWithin_of_label?_eq_none _ hx]
    | some label =>
      have hlt := h.length_ancestors_lt (lt_size_of_label? hx)
      obtain ⟨k, rfl⟩ : ∃ k, depth = k + 1 := Nat.exists_eq_succ_of_ne_zero (by omega)
      obtain ⟨k', rfl⟩ : ∃ k', depth' = k' + 1 := Nat.exists_eq_succ_of_ne_zero (by omega)
      rw [contentsWithin_succ k hx, contentsWithin_succ k' hx]
      congr 1
      rw [List.flatMap_def, List.flatMap_def]
      refine congrArg List.flatten (List.map_congr_left fun c hc => ?_)
      -- a child has one ancestor more
      have hlen := congrArg List.length (h.ancestors_of_parent (h.mem_childIds_iff.mp hc))
      rw [List.length_cons] at hlen
      exact ih c hc (by omega) (by omega)

/-- **The labelled trees of a node are made of those of its children.** -/
theorem contents_eq (h : t.WellFormed) (hx : t.label? (some x) = some label) :
    t.contents x = label.contents ((t.childIds (some x)).flatMap t.contents) := by
  have hlt := lt_size_of_label? hx
  have hall : t.contentsWithin (t.size + 1) x = t.contents x :=
    h.contentsWithin_eq x (by omega) (by omega)
  rw [← hall, contentsWithin_succ t.size hx]
  rfl

/-- A node with a parent is written itself. -/
theorem exists_label_of_parent (h : t.WellFormed) (hp : t.parent (some c) = some p) :
    ∃ label, t.label? (some c) = some label ∧ label.isWritten = true := by
  obtain ⟨kind, hk⟩ := Option.isSome_iff_exists.mp (kind?_isSome_of_parent hp)
  have hroot : kind.isRoot = false := by
    cases hr : kind.isRoot with
    | false => rfl
    | true =>
      rw [h.rootless c kind hk hr] at hp
      cases hp
  obtain ⟨n, hn, rfl⟩ := Option.map_eq_some_iff.mp hk
  refine ⟨n.data.label, Option.map_eq_some_iff.mpr ⟨n, hn, rfl⟩, ?_⟩
  revert hroot
  cases n.data <;> simp [NodeData.kind, NodeKind.isRoot, NodeData.label, NodeLabel.isWritten]

theorem exists_contents_of_child (h : t.WellFormed) (hc : c ∈ t.childIds (some p)) :
    ∃ content, t.contents c = [content] := by
  obtain ⟨label, hl, hw⟩ := h.exists_label_of_parent (h.mem_childIds_iff.mp hc)
  rw [h.contents_eq hl]
  exact NodeLabel.exists_contents_eq_singleton hw _

/-- Texts and comments have no children. -/
theorem childIds_eq_nil (h : t.WellFormed) (hx : t.label? (some x) = some label)
    (hl : label.isContainer = false) : t.childIds (some x) = [] := by
  obtain ⟨n, hn, rfl⟩ := Option.map_eq_some_iff.mp hx
  have hkind : t.kind? (some x) = some n.data.kind := Option.map_eq_some_iff.mpr ⟨n, hn, rfl⟩
  have hcontainer : n.data.kind.isContainer = false := by
    rw [← hl]
    cases n.data <;> rfl
  have hfirst := (h.childless x _ hkind hcontainer).1
  rw [(h.childList x).firstChild_eq] at hfirst
  exact List.head?_eq_none_iff.mp hfirst

end WellFormed

/-! ## Equal labelled trees -/

theorem sameSubtree_of_childless (ha : t.label? (some a) = some label)
    (hb : t'.label? (some b) = some label) (hac : t.childIds (some a) = [])
    (hbc : t'.childIds (some b) = []) : SameSubtree t t' a b := by
  refine .intro ha hb (by rw [hac, hbc]) fun i c d hc _ => ?_
  rw [hac] at hc
  cases hc

/-- Rows of nodes with one labelled tree each: equal rows are equal tree by tree. -/
theorem contents_eq_of_flatMap_eq {f g : NodeId → List Content} {l l' : List NodeId}
    (hf : ∀ c ∈ l, ∃ content, f c = [content]) (hg : ∀ d ∈ l', ∃ content, g d = [content])
    (h : l.flatMap f = l'.flatMap g) :
    l.length = l'.length ∧
      ∀ (i : Nat) (c d : NodeId), l[i]? = some c → l'[i]? = some d → f c = g d := by
  induction l generalizing l' with
  | nil =>
    cases l' with
    | nil => exact ⟨rfl, fun i c d hc => absurd hc (by simp)⟩
    | cons d l' =>
      obtain ⟨content, hd⟩ := hg d List.mem_cons_self
      simp [hd] at h
  | cons c l ih =>
    obtain ⟨⟨x, hx⟩, hf⟩ := List.forall_mem_cons.mp hf
    cases l' with
    | nil => simp [hx] at h
    | cons d l' =>
      obtain ⟨⟨y, hy⟩, hg⟩ := List.forall_mem_cons.mp hg
      rw [List.flatMap_cons, List.flatMap_cons, hx, hy] at h
      obtain ⟨rfl, htail⟩ := List.cons.inj h
      obtain ⟨hlength, hall⟩ := ih hf hg htail
      refine ⟨congrArg (· + 1) hlength, fun i c' d' hc hd => ?_⟩
      cases i with
      | zero =>
        obtain rfl : c = c' := Option.some.inj hc
        obtain rfl : d = d' := Option.some.inj hd
        rw [hx, hy]
      | succ i => exact hall i c' d' hc hd

/-- **Nodes with the same labelled tree have the same subtree.** -/
theorem sameSubtree_of_contents_eq (h : t.WellFormed) (h' : t'.WellFormed) (a : NodeId) :
    ∀ {b : NodeId} {label label' : NodeLabel}, t.label? (some a) = some label →
      t'.label? (some b) = some label' → label.isWritten = true → label'.isWritten = true →
        t.contents a = t'.contents b → SameSubtree t t' a b := by
  induction a using h.child_induction with
  | step a ih =>
    intro b label label' ha hb hl hl' he
    rw [h.contents_eq ha, h'.contents_eq hb] at he
    cases label with
    | document => cases hl
    | fragment => cases hl
    | element tag attributes =>
      cases label' with
      | element tag' attributes' =>
        obtain ⟨rfl, rfl, hrow⟩ : tag = tag' ∧ attributes = attributes' ∧ _ := by
          simpa [NodeLabel.contents] using he
        obtain ⟨hlength, hall⟩ := contents_eq_of_flatMap_eq
          (fun c hc => h.exists_contents_of_child hc) (fun d hd => h'.exists_contents_of_child hd)
          hrow
        refine .intro ha hb hlength fun i c d hc hd => ?_
        have hca := List.mem_of_getElem? hc
        have hdb := List.mem_of_getElem? hd
        obtain ⟨_, hlc, hwc⟩ := h.exists_label_of_parent (h.mem_childIds_iff.mp hca)
        obtain ⟨_, hld, hwd⟩ := h'.exists_label_of_parent (h'.mem_childIds_iff.mp hdb)
        exact ih c hca hlc hld hwc hwd (hall i c d hc hd)
      | _ => simp [NodeLabel.contents, NodeLabel.isWritten] at he hl'
    | text s =>
      cases label' with
      | text s' =>
        obtain rfl : s = s' := by simpa [NodeLabel.contents] using he
        exact sameSubtree_of_childless ha hb (h.childIds_eq_nil ha rfl) (h'.childIds_eq_nil hb rfl)
      | _ => simp [NodeLabel.contents, NodeLabel.isWritten] at he hl'
    | comment s =>
      cases label' with
      | comment s' =>
        obtain rfl : s = s' := by simpa [NodeLabel.contents] using he
        exact sameSubtree_of_childless ha hb (h.childIds_eq_nil ha rfl) (h'.childIds_eq_nil hb rfl)
      | _ => simp [NodeLabel.contents, NodeLabel.isWritten] at he hl'

/-- **The same subtree gives the same labelled trees.** -/
theorem SameSubtree.contents_eq (h : t.WellFormed) (h' : t'.WellFormed)
    (hs : SameSubtree t t' a b) : t.contents a = t'.contents b := by
  induction hs with
  | @intro a b label ha hb hlength _ ih =>
    have hmap : (t.childIds (some a)).map t.contents = (t'.childIds (some b)).map t'.contents := by
      refine List.ext_getElem (by simpa using hlength) fun i hi hi' => ?_
      rw [List.length_map] at hi hi'
      rw [List.getElem_map, List.getElem_map]
      exact ih i _ _ (List.getElem?_eq_getElem hi) (List.getElem?_eq_getElem hi')
    rw [h.contents_eq ha, h'.contents_eq hb, List.flatMap_def, List.flatMap_def, hmap]

/-! ## Two trees with a subtree in common -/

/-- Two trees agree on a node and on all below it: the same labels, and the same children. -/
def AgreeBelow (t t' : Tree) (x : NodeId) : Prop :=
  ∀ y, t.contains (some x) (some y) = true →
    t'.label? (some y) = t.label? (some y) ∧ t'.childIds (some y) = t.childIds (some y)

namespace AgreeBelow

theorem self (ha : AgreeBelow t t' x) :
    t'.label? (some x) = t.label? (some x) ∧ t'.childIds (some x) = t.childIds (some x) :=
  ha x (contains_self t x)

theorem child (h : t.WellFormed) (ha : AgreeBelow t t' x) (hc : c ∈ t.childIds (some x)) :
    AgreeBelow t t' c :=
  fun y hy => ha y (h.contains_of_contains_child hc hy)

/-- **The labelled trees of a node depend on no node that is not below it.** -/
theorem contents_eq (h : t.WellFormed) (h' : t'.WellFormed) (ha : AgreeBelow t t' x) :
    t'.contents x = t.contents x := by
  induction x using h.child_induction with
  | step x ih =>
    obtain ⟨hlabel, hchildren⟩ := ha.self
    cases hx : t.label? (some x) with
    | none =>
      rw [hx] at hlabel
      rw [contents, contents, contentsWithin_of_label?_eq_none _ hx,
        contentsWithin_of_label?_eq_none _ hlabel]
    | some label =>
      rw [h.contents_eq hx, h'.contents_eq (hlabel.trans hx), hchildren]
      congr 1
      rw [List.flatMap_def, List.flatMap_def]
      exact congrArg List.flatten (List.map_congr_left fun c hc => ih c hc (ha.child h hc))

/-- **Nor do the nodes below it.** -/
theorem descendants_eq (h : t.WellFormed) (h' : t'.WellFormed) (ha : AgreeBelow t t' x) :
    t'.descendants (some x) = t.descendants (some x) := by
  induction x using h.child_induction with
  | step x ih =>
    rw [h.descendants_eq_flatMap, h'.descendants_eq_flatMap, ha.self.2, List.flatMap_def,
      List.flatMap_def]
    refine congrArg List.flatten (List.map_congr_left fun c hc => ?_)
    rw [ih c hc (ha.child h hc)]

end AgreeBelow

end Tree

end WebPage
