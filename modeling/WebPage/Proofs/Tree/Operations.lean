import WebPage.Proofs.Tree.Frame
import WebPage.Tree.TextContent

/-!
# Operations on a well-formed tree

An insertion that passes its checks moves nodes to a place where they may go, and so keeps the tree
well formed; one that fails has changed nothing. Removals and texts are made of such steps.

## Main results

* `checkInsert_eq_ok_iff`, `insertionPoint_eq_ok_iff`: what the checks of an insertion ask for
* `WellFormed.insertBefore`, `WellFormed.appendChild`: insertion
* `WellFormed.detach`, `WellFormed.removeChildren`, `WellFormed.setTextContent`: the others
-/

namespace WebPage.Tree

variable {t t' : Tree} {parent child before point r : NodeRef} {p c f : NodeId} {n : Node}

theorem node_eq_ok : t.node r = .ok n ↔ t.node? r = some n := by
  unfold node
  cases t.node? r <;> simp

theorem kind?_of_node? (h : t.node? r = some n) : t.kind? r = some n.data.kind := by
  simp [kind?, h]

theorem parent_of_node? (h : t.node? r = some n) : t.parent r = n.parent := by
  simp [Tree.parent, h]

theorem nextSibling_of_node? (h : t.node? r = some n) : t.nextSibling r = n.nextSibling := by
  simp [nextSibling, h]

/-! ## Insertion -/

/-- **The checks on the two nodes** ask for a container, and for a node that may have a parent and
does not contain the container. -/
theorem checkInsert_eq_ok_iff :
    t.checkInsert parent child = .ok (p, c, n) ↔
      parent = some p ∧ child = some c ∧ t.node? (some c) = some n ∧ n.data ≠ .document ∧
        (∃ k, t.kind? (some p) = some k ∧ k.isContainer = true) ∧
        t.contains (some c) (some p) = false := by
  unfold checkInsert
  simp only [bind_eq_ok, refuseIf_eq_ok]
  constructor
  · rintro ⟨m, hm, -, hcontainer, n', hn', -, hdocument, -, hcontains, h⟩
    cases parent with
    | none => cases child <;> cases h
    | some p' =>
      cases child with
      | none => cases h
      | some c' =>
        cases h
        have hm := node_eq_ok.mp hm
        refine ⟨rfl, rfl, node_eq_ok.mp hn', hdocument, ⟨_, kind?_of_node? hm, ?_⟩,
          by simpa using hcontains⟩
        rw [← Node.isContainer_eq]
        simpa using hcontainer
  · rintro ⟨rfl, rfl, hn, hdocument, ⟨k, hk, hcontainer⟩, hcontains⟩
    obtain ⟨m, hm, rfl⟩ := Option.map_eq_some_iff.mp hk
    refine ⟨m, node_eq_ok.mpr hm, (), ?_, n, node_eq_ok.mpr hn, (), hdocument, (),
      by simpa using hcontains, rfl⟩
    simpa [Node.isContainer_eq] using hcontainer

/-- What the checks on the two nodes have shown. -/
theorem checkInsert_eq_ok (h : t.checkInsert parent child = .ok (p, c, n)) :
    parent = some p ∧ child = some c ∧ t.node? (some c) = some n ∧ n.data ≠ .document ∧
      (∃ k, t.kind? (some p) = some k ∧ k.isContainer = true) ∧
      t.contains (some c) (some p) = false :=
  checkInsert_eq_ok_iff.mp h

/-- **The place of an insertion** is the reference, which has to be a child of the parent, or the
sibling after it if the reference is the node itself. -/
theorem insertionPoint_eq_ok_iff :
    t.insertionPoint (some p) (some c) before = .ok point ↔
      (∀ b, before = some b → t.parent (some b) = some p) ∧
        point = if before = some c then t.nextSibling (some c) else before := by
  unfold insertionPoint
  cases before with
  | none => simp [eq_comm]
  | some b =>
    simp only [bind_eq_ok, refuseIf_eq_ok, ne_eq, Decidable.not_not, Option.some.injEq, pure,
      Except.pure, Except.ok.injEq, forall_eq']
    constructor
    · rintro ⟨n, hn, -, hparent, rfl⟩
      have hn := node_eq_ok.mp hn
      refine ⟨(parent_of_node? hn).trans hparent, ?_⟩
      split
      next hbc => rw [← hbc, nextSibling_of_node? hn]
      next => rfl
    · rintro ⟨hparent, rfl⟩
      -- a node with a parent is there
      obtain ⟨n, hn⟩ := exists_node_of_kind? (kind?_isSome_of_parent hparent)
      refine ⟨n, node_eq_ok.mpr hn, (), (parent_of_node? hn).symm.trans hparent, ?_⟩
      split
      next hbc => rw [← hbc, nextSibling_of_node? hn]
      next => rfl

/-- The place is a child of the parent other than the node. -/
theorem insertionPoint_eq_ok (h : t.WellFormed)
    (hp : t.insertionPoint (some p) (some c) before = .ok point) :
    ∀ b, point = some b → t.parent (some b) = some p ∧ b ≠ c := by
  obtain ⟨hparent, rfl⟩ := insertionPoint_eq_ok_iff.mp hp
  intro b hb
  split at hb
  next hbefore =>
    refine ⟨(h.prevSibling_of_nextSibling hb).2.trans (hparent c hbefore), ?_⟩
    rintro rfl
    exact h.nextSibling_ne_self hb
  next hbefore =>
    refine ⟨hparent b hb, ?_⟩
    rintro rfl
    exact hbefore hb

/-- A checked node may be moved, unless it is a fragment. -/
theorem insertable_of_checkInsert (h : t.WellFormed)
    (hc : t.checkInsert parent child = .ok (p, c, n))
    (hp : t.insertionPoint parent child before = .ok point) (hn : n.data ≠ .fragment) :
    t.Insertable p point c := by
  obtain ⟨rfl, rfl, hnode, hdocument, hcontainer, hcontains⟩ := checkInsert_eq_ok hc
  obtain ⟨l, hl⟩ := h.acyclic (some p)
  refine ⟨hcontainer, ⟨_, kind?_of_node? hnode, ?_⟩, insertionPoint_eq_ok h hp, l, hl, ?_⟩
  · cases hd : n.data <;> simp_all [NodeData.kind, NodeKind.isRoot]
  · rw [← h.contains_iff hl, hcontains]
    simp

/-- The children of a checked fragment may be moved in its stead. -/
theorem insertable_of_mem_childIds (h : t.WellFormed)
    (hc : t.checkInsert parent child = .ok (p, f, n))
    (hp : t.insertionPoint parent child before = .ok point) (hcf : c ∈ t.childIds (some f)) :
    t.Insertable p point c := by
  obtain ⟨rfl, rfl, -, -, hcontainer, hcontains⟩ := checkInsert_eq_ok hc
  obtain ⟨l, hl⟩ := h.acyclic (some p)
  have hparent := h.mem_childIds_iff.mp hcf
  have hfl : f ∉ l := by
    rw [← h.contains_iff hl, hcontains]
    simp
  refine ⟨hcontainer, ?_, ?_, l, hl, ?_⟩
  · obtain ⟨k, hk⟩ := Option.isSome_iff_exists.mp (kind?_isSome_of_parent hparent)
    refine ⟨k, hk, Bool.eq_false_iff.mpr fun hroot => ?_⟩
    simp [h.rootless c k hk hroot] at hparent
  · -- the reference is a child of `p`, and `c` one of the fragment, which is not `p`
    intro b hb
    refine ⟨(insertionPoint_eq_ok h hp b hb).1, ?_⟩
    rintro rfl
    obtain rfl : f = p := by
      simpa [hparent] using (insertionPoint_eq_ok h hp b hb).1
    cases l with
    | nil => simp [Path] at hl
    | cons x l =>
      obtain rfl : f = x := Option.some.inj hl.1
      exact hfl List.mem_cons_self
  · -- if `c` were above `p`, so would be the fragment, its parent
    intro hcl
    obtain ⟨xs, ys, rfl⟩ := List.append_of_mem hcl
    have hnext := hl.next_eq_head?
    rw [hparent] at hnext
    exact hfl (List.mem_append_right xs (List.mem_cons_of_mem c (List.mem_of_head? hnext.symm)))

/-- **An insertion moves a node, or the children of a fragment, if its checks pass.** -/
theorem insertBefore_eq_ok_iff :
    t.insertBefore parent child before = .ok t' ↔
      ∃ p c n point, t.checkInsert parent child = .ok (p, c, n) ∧
        t.insertionPoint parent child before = .ok point ∧
        t' = if n.data = .fragment then (t.childIds child).foldl (fun t id => t.move p point id) t
          else t.move p point c := by
  unfold insertBefore
  simp only [bind_eq_ok]
  constructor
  · rintro ⟨⟨p, c, n⟩, hc, point, hp, ht⟩
    refine ⟨p, c, n, point, hc, hp, ?_⟩
    split at ht <;> simp_all [pure, Except.pure]
  · rintro ⟨p, c, n, point, hc, hp, rfl⟩
    refine ⟨(p, c, n), hc, point, hp, ?_⟩
    dsimp only
    split <;> rfl

/-- **Insertion keeps a tree well formed.** -/
theorem WellFormed.insertBefore (h : t.WellFormed)
    (hi : t.insertBefore parent child before = .ok t') : t'.WellFormed := by
  obtain ⟨p, c, n, point, hc, hp, rfl⟩ := insertBefore_eq_ok_iff.mp hi
  split
  next =>
    obtain ⟨-, rfl, -⟩ := checkInsert_eq_ok hc
    exact h.foldl_move fun id hid => insertable_of_mem_childIds h hc hp hid
  next hn => exact h.move (insertable_of_checkInsert h hc hp hn)

theorem WellFormed.appendChild (h : t.WellFormed) (hi : t.appendChild parent child = .ok t') :
    t'.WellFormed :=
  h.insertBefore hi

/-! ## Removal and texts -/

theorem WellFormed.foldl_unlink (h : t.WellFormed) (ids : List NodeId) :
    (ids.foldl Tree.unlink t).WellFormed := by
  induction ids generalizing t with
  | nil => exact h
  | cons id ids ih => exact ih (h.unlink id)

theorem WellFormed.detach (h : t.WellFormed) {attached : Bool}
    (hd : t.detach r = .ok (attached, t')) : t'.WellFormed := by
  unfold Tree.detach at hd
  simp only [bind_eq_ok, pure, Except.pure, Except.ok.injEq, Prod.mk.injEq] at hd
  obtain ⟨n, -, -, rfl⟩ := hd
  cases r with
  | none => exact h
  | some id => exact h.unlink id

theorem WellFormed.removeChildren (h : t.WellFormed) {count : Nat}
    (hr : t.removeChildren r = .ok (count, t')) : t'.WellFormed := by
  unfold Tree.removeChildren at hr
  simp only [bind_eq_ok, pure, Except.pure, Except.ok.injEq, Prod.mk.injEq] at hr
  obtain ⟨n, -, -, rfl⟩ := hr
  exact h.foldl_unlink _

/-- Writing the text of a node keeps a tree well formed. -/
theorem WellFormed.setTextContent (h : t.WellFormed) {text : String}
    (ht : t.setTextContent r text = .ok t') : t'.WellFormed := by
  unfold Tree.setTextContent at ht
  rw [bind_eq_ok] at ht
  obtain ⟨n, hok, ht⟩ := ht
  have hkind := kind?_of_node? (node_eq_ok.mp hok)
  split at ht
  next hd =>
    cases ht
    rw [hd] at hkind
    have hs : SameFrame t (t.setData _ (.text text)) := sameFrame_setData hkind
    exact hs.wellFormed h
  next hd =>
    cases ht
    rw [hd] at hkind
    have hs : SameFrame t (t.setData _ (.comment text)) := sameFrame_setData hkind
    exact hs.wellFormed h
  next =>
    -- the children make way for one text node, or for none
    obtain ⟨⟨count, t₁⟩, h₁, ht⟩ := bind_eq_ok.mp ht
    have h₁ := h.removeChildren h₁
    dsimp only at ht
    split at ht
    · cases ht
      exact h₁
    · exact (h₁.add (by simp [NodeData.kind])).appendChild ht

end WebPage.Tree
