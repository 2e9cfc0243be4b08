import WebPage.Proofs.Tree.Contents
import WebPage.Proofs.Tree.Loading

/-!
# Trees that grow

A tree grows when new nodes are put at the end of the children of one node. Of the old nodes this
changes two at most: the parent gets new ends of its list of children, and its former last child
gets a sibling. Growth can be repeated at the same node, and it can go on below a new node, which no
old node notices.

## Main definitions

* `Node.grown`: an old node after new children were put below some node
* `Tree.Grown`: new children were put below a node, and all other old nodes are as before

## Main results

* `grown_link_add`, `exists_addBelow`: a fresh node that is added below a container grows the tree
  by one child
* `Grown.trans`, `Grown.nest`: growth at the same node, and below a new one
* `Grown.agreeBelow`: subtrees that the place of growth is not in stay as they were
-/

namespace WebPage

/-- The node `q`, after the new children `ids` were put at the end of the children of `p`, where
`last` was the last one before: only links to the new children have changed. -/
def Node.grown (p : NodeId) (last : NodeRef) (ids : List NodeId) (q : NodeId) (n : Node) : Node :=
  { n with
    firstChild := if q = p then n.firstChild.or ids.head? else n.firstChild
    lastChild := if q = p then ids.getLast?.or n.lastChild else n.lastChild
    nextSibling := if last = some q then n.nextSibling.or ids.head? else n.nextSibling }

/-- New children without any do nothing. -/
theorem Node.grown_nil (p : NodeId) (last : NodeRef) (q : NodeId) (n : Node) :
    n.grown p last [] q = n := by
  simp [grown]

/-- A node that is neither the parent of new children nor its former last child. -/
theorem Node.grown_of_ne {p q : NodeId} {last : NodeRef} (hp : q ≠ p) (hlast : last ≠ some q)
    (ids : List NodeId) (n : Node) : n.grown p last ids q = n := by
  simp [grown, hp, hlast]

/-- New children after new children: the last of the first ones is not the old node `q`. -/
theorem Node.grown_append {p q : NodeId} {last : NodeRef} {ids : List NodeId}
    (hq : q ∉ ids) (ids' : List NodeId) (n : Node) :
    (n.grown p last ids q).grown p (ids.getLast?.or last) ids' q =
      n.grown p last (ids ++ ids') q := by
  cases ids with
  | nil => rw [grown_nil, List.getLast?_nil, Option.none_or, List.nil_append]
  | cons id ids =>
    -- `q` is old, so it is not the one that the second row comes after
    obtain ⟨new, hnew⟩ : ∃ new, (id :: ids).getLast? = some new :=
      ⟨_, List.getLast?_eq_some_getLast (List.cons_ne_nil id ids)⟩
    have hne : some new ≠ some q := by
      intro he
      exact hq (Option.some.inj he ▸ List.mem_of_getLast? hnew)
    simp only [grown, hnew, Option.some_or, if_neg hne, List.getLast?_append, Node.mk.injEq,
      true_and]
    by_cases hqp : q = p
    · simp [hqp]
    · simp [hqp]

namespace Tree

variable {t t₁ t₂ t' : Tree} {p q c x id : NodeId} {ids ids' : List NodeId} {data : NodeData}

/-- The tree `t'` is `t` with the new nodes `ids` at the end of the children of `p`, and perhaps
with more new nodes below these. -/
structure Grown (t : Tree) (p : NodeId) (ids : List NodeId) (t' : Tree) : Prop where
  wellFormed : t'.WellFormed
  size_le : t.size ≤ t'.size
  fresh : ∀ id ∈ ids, t.size ≤ id
  children : t'.childIds (some p) = t.childIds (some p) ++ ids
  children_of_ne : ∀ q < t.size, q ≠ p → t'.childIds (some q) = t.childIds (some q)
  node : ∀ q < t.size, t'.node? (some q) =
    (t.node? (some q)).map (Node.grown p (t.lastChild (some p)) ids q)

theorem lt_size_of_kind? {k : NodeKind} (hk : t.kind? (some p) = some k) : p < t.size :=
  kind?_isSome_iff.mp (by rw [hk]; rfl)

/-! ## The ends of a list of children -/

/-- A node has a first child just if it has a last one. -/
theorem WellFormed.isSome_firstChild (h : t.WellFormed) (p : NodeId) :
    (t.firstChild (some p)).isSome = (t.lastChild (some p)).isSome := by
  rw [(h.childList p).firstChild_eq, (h.childList p).lastChild_eq, Bool.eq_iff_iff,
    List.isSome_head?, List.getLast?_isSome]

/-- The last child of a node is another node of the tree, without a sibling after it. -/
theorem WellFormed.lastChild_spec (h : t.WellFormed) (hs : t.lastChild (some p) = some c) :
    c < t.size ∧ c ≠ p ∧ t.nextSibling (some c) = none := by
  obtain ⟨hparent, hnext⟩ := h.lastChild_eq_some_iff.mp hs
  refine ⟨kind?_isSome_iff.mp (kind?_isSome_of_parent hparent), ?_, hnext⟩
  rintro rfl
  exact h.not_contains_parent (h.mem_childIds_iff.mpr hparent) (contains_self t c)

/-! ## A fresh node below a container -/

/-- A container accepts a node that is not above it. -/
theorem checkInsert_of_insertable {before : NodeRef} {n : Node} (h : t.WellFormed)
    (hi : t.Insertable p before c) (hn : t.node? (some c) = some n) :
    t.checkInsert (some p) (some c) = .ok (p, c, n) := by
  obtain ⟨k, hk, hroot⟩ := hi.child
  obtain ⟨l, hl, hcl⟩ := hi.above
  refine checkInsert_eq_ok_iff.mpr ⟨rfl, rfl, hn, ?_, hi.container, ?_⟩
  · intro hd
    obtain rfl : n.data.kind = k := Option.some.inj ((kind?_of_node? hn).symm.trans hk)
    rw [hd] at hroot
    cases hroot
  · rw [← Bool.not_eq_true, h.contains_iff hl]
    exact hcl

theorem ne_document_of_isRoot (hd : data.kind.isRoot = false) : data.kind ≠ .document := by
  intro he
  rw [he] at hd
  cases hd

/-- A fresh node has no parent. -/
theorem parent_add_size : (t.add data).2.parent (some t.size) = none := by
  rw [parent_add, parent, node?_size]
  rfl

theorem size_add : (t.add data).2.size = t.size + 1 :=
  Array.size_push _

@[simp] theorem size_modify {f : Node → Node} : (t.modify c f).size = t.size :=
  Array.size_modify

theorem size_link {before : NodeRef} : (t.link p c before).size = t.size := by
  have hafter : ∀ (t : Tree) (prev child : NodeRef), (t.linkAfter p prev child).size = t.size := by
    intro t prev child
    cases prev <;> exact size_modify
  have hbefore : ∀ (t : Tree) (next child : NodeRef),
      (t.linkBefore p next child).size = t.size := by
    intro t next child
    cases next <;> exact size_modify
  rw [link, hbefore, hafter]
  exact size_modify

section Fresh

variable (h : t.WellFormed) (hp : ∃ k, t.kind? (some p) = some k ∧ k.isContainer = true)
  (hd : data.kind.isRoot = false)
include h hp hd

theorem insertable_add : (t.add data).2.Insertable p none t.size := by
  obtain ⟨k, hk, hcontainer⟩ := hp
  have hlt : p < t.size := lt_size_of_kind? hk
  have hne : some p ≠ some t.size := fun he => Nat.ne_of_lt hlt (Option.some.inj he)
  have hpath : Path t.parent (some p) (p :: t.ancestors (some p)) none :=
    ⟨rfl, h.path_ancestors (some p)⟩
  refine ⟨⟨k, ?_, hcontainer⟩, ⟨data.kind, ?_, hd⟩, nofun, p :: t.ancestors (some p), ?_, ?_⟩
  · rw [kind?_add, if_neg hne, hk]
  · rw [kind?_add, if_pos rfl]
  · rw [parent_add]
    exact hpath
  · -- every node on the way up from `p` is an old one
    intro hmem
    rcases List.mem_cons.mp hmem with he | hmem
    · exact Nat.ne_of_gt hlt he
    · exact Nat.lt_irrefl _ (h.lt_size_of_mem_path (h.path_ancestors (some p)) hmem)

theorem appendChild_add : (t.add data).2.appendChild (some p) (some t.size) =
    .ok ((t.add data).2.link p t.size none) := by
  have hi := insertable_add h hp hd
  have hnode : (t.add data).2.node? (some t.size) = some { data } := by
    rw [node?_add, if_pos rfl]
  have hfragment : data ≠ .fragment := by
    rintro rfl
    cases hd
  have hadd := h.add (ne_document_of_isRoot hd)
  unfold appendChild insertBefore
  simp only [bind_eq_ok]
  refine ⟨(p, t.size, { data }), checkInsert_of_insertable hadd hi hnode, none, rfl, ?_⟩
  -- a fresh node hangs nowhere, so there is nothing to take it out of
  rw [if_neg hfragment, move, unlink_of_parent_eq_none parent_add_size]
  rfl

omit hd in
/-- The old nodes, after a fresh one was put at the end of the children of `p`. -/
theorem node?_link_add (hq : q < t.size) :
    ((t.add data).2.link p t.size none).node? (some q) =
      (t.node? (some q)).map (Node.grown p (t.lastChild (some p)) [t.size] q) := by
  have hne : some q ≠ some t.size := fun he => Nat.ne_of_lt hq (Option.some.inj he)
  obtain ⟨n, hn⟩ := exists_node_of_kind? (kind?_isSome_iff.mpr hq)
  have hplaced : ∀ prev : NodeRef,
      ((t.add data).2.place t.size (some p) prev none).node? (some q) = some n := by
    intro prev
    rw [place, node?_modify, if_neg hne, node?_add, if_neg hne, hn]
  have hends := h.isSome_firstChild p
  unfold link childBefore
  rw [lastChild_add, hn]
  cases hlast : t.lastChild (some p) with
  | none =>
    -- `p` has no child, so the new one is the first and the last
    by_cases hqp : q = p
    · subst hqp
      have hfirst : n.firstChild = none := by simpa [hlast, firstChild, hn] using hends
      simp [linkAfter, linkBefore, node?_modify, hplaced, Node.grown, hfirst]
    · simp [linkAfter, linkBefore, node?_modify, hplaced, hqp, Node.grown]
  | some s =>
    -- the last child of `p` gets a sibling, and `p` keeps its first child
    obtain ⟨-, hsp, hnext⟩ := h.lastChild_spec hlast
    by_cases hqp : q = p
    · subst hqp
      obtain ⟨f, hfirst⟩ : ∃ f, n.firstChild = some f := by
        simpa [hlast, firstChild, hn, Option.isSome_iff_exists] using hends
      simp [linkAfter, linkBefore, node?_modify, hplaced, Node.grown, hfirst, hsp, Ne.symm hsp]
    · by_cases hqs : q = s
      · subst hqs
        have hnext : n.nextSibling = none := by simpa [nextSibling, hn] using hnext
        simp [linkAfter, linkBefore, node?_modify, hplaced, hqp, Node.grown, hnext]
      · simp [linkAfter, linkBefore, node?_modify, hplaced, hqp, hqs, Ne.symm hqs, Node.grown]

omit hd in
/-- The fresh node itself. -/
theorem node?_link_add_self :
    ((t.add data).2.link p t.size none).node? (some t.size) =
      some { data, parent := some p, prevSibling := t.lastChild (some p) } := by
  obtain ⟨k, hk, -⟩ := hp
  have hps : t.size ≠ p := fun he => Nat.ne_of_gt (lt_size_of_kind? hk) he
  have hplaced : ∀ prev : NodeRef,
      ((t.add data).2.place t.size (some p) prev none).node? (some t.size) =
        some { data, parent := some p, prevSibling := prev } := by
    intro prev
    rw [place, node?_modify, if_pos rfl, node?_add, if_pos rfl]
    rfl
  unfold link childBefore
  rw [lastChild_add]
  cases hlast : t.lastChild (some p) with
  | none => simp [linkAfter, linkBefore, node?_modify, hplaced, hps]
  | some s =>
    have hss : t.size ≠ s :=
      fun he => Nat.ne_of_gt (kind?_isSome_iff.mp (h.isSome_of_lastChild hlast)) he
    simp [linkAfter, linkBefore, node?_modify, hplaced, hps, hss]

/-- **A fresh node at the end of the children of a container** is the one new child. -/
theorem grown_link_add : t.Grown p [t.size] ((t.add data).2.link p t.size none) := by
  have hi := insertable_add h hp hd
  have hadd := h.add (ne_document_of_isRoot hd)
  have horphan : (t.add data).2.parent (some t.size) = none := parent_add_size
  refine ⟨WellFormed.link hi hadd horphan, ?_, by simp, ?_, ?_, fun q hq => node?_link_add h hp hq⟩
  · rw [size_link, size_add]
    exact Nat.le_succ _
  · have hsplit : (t.add data).2.childIds (some p) = (t.add data).2.childIds (some p) ++ [] :=
      (List.append_nil _).symm
    have hl := childList_link hi hadd horphan hsplit (hadd.childList p).lastChild_eq rfl
    rw [hl.childIds_eq, h.childIds_add]
  · intro q _ hqp
    rw [(childList_link_of_ne hi hadd horphan hqp).childIds_eq, h.childIds_add]

/-- The fresh node has no children. -/
theorem childIds_link_add_self :
    ((t.add data).2.link p t.size none).childIds (some t.size) = [] := by
  have hfirst := ((grown_link_add h hp hd).wellFormed.childList t.size).firstChild_eq
  rw [firstChild, node?_link_add_self h hp] at hfirst
  exact List.head?_eq_none_iff.mp hfirst.symm

/-- **A fresh node below a container** grows the tree by one child, which has no children. -/
theorem exists_addBelow :
    ∃ t', addBelow (some p) data t = .ok t.size t' ∧ t.Grown p [t.size] t' ∧
      t'.size = t.size + 1 ∧ t'.label? (some t.size) = some data.label ∧
      t'.kind? (some t.size) = some data.kind ∧ t'.childIds (some t.size) = [] := by
  have hself : ((t.add data).2.link p t.size none).node? (some t.size) =
      some { data, parent := some p, prevSibling := t.lastChild (some p) } :=
    node?_link_add_self h hp
  refine ⟨(t.add data).2.link p t.size none, ?_, grown_link_add h hp hd, size_link.trans size_add,
    ?_, ?_, childIds_link_add_self h hp hd⟩
  · have happend := appendChild_add h hp hd
    simp only [addBelow, get_bind_apply, add_fst, set_bind_apply, happend]
    rfl
  · exact label?_of_node? hself
  · exact kind?_of_node? hself

end Fresh

/-! ## Growth after growth -/

namespace Grown

theorem refl (h : t.WellFormed) (p : NodeId) : t.Grown p [] t := by
  refine ⟨h, Nat.le_refl _, by simp, (List.append_nil _).symm, fun _ _ _ => rfl, fun q _ => ?_⟩
  rw [funext (Node.grown_nil p (t.lastChild (some p)) q), Option.map_id']

/-- The last child after growth is the last of the new children, if there are any. -/
theorem lastChild_eq (h : t.WellFormed) (hg : t.Grown p ids t') :
    t'.lastChild (some p) = ids.getLast?.or (t.lastChild (some p)) := by
  rw [(hg.wellFormed.childList p).lastChild_eq, hg.children, List.getLast?_append,
    (h.childList p).lastChild_eq]

/-- **Growth at the same node** puts the later children after the earlier ones. -/
theorem trans (h : t.WellFormed) (hg : t.Grown p ids t₁)
    (hg' : t₁.Grown p ids' t₂) : t.Grown p (ids ++ ids') t₂ := by
  refine ⟨hg'.wellFormed, Nat.le_trans hg.size_le hg'.size_le, ?_, ?_, ?_, ?_⟩
  · intro id hid
    rcases List.mem_append.mp hid with hid | hid
    · exact hg.fresh id hid
    · exact Nat.le_trans hg.size_le (hg'.fresh id hid)
  · rw [hg'.children, hg.children, List.append_assoc]
  · intro q hq hqp
    rw [hg'.children_of_ne q (Nat.lt_of_lt_of_le hq hg.size_le) hqp, hg.children_of_ne q hq hqp]
  · -- between the two, the last child is the last of the first row, if this has any
    intro q hq
    rw [hg'.node q (Nat.lt_of_lt_of_le hq hg.size_le), hg.node q hq, Option.map_map,
      hg.lastChild_eq h]
    refine congrArg (fun f => (t.node? (some q)).map f) (funext fun n => ?_)
    exact Node.grown_append (fun hmem => Nat.not_le_of_lt hq (hg.fresh q hmem)) ids' n

/-- **Growth below a new node** is not noticed by the old ones. -/
theorem nest (hp : p < t.size) (hg : t.Grown p [id] t₁)
    (hnil : t₁.childIds (some id) = []) (hg' : t₁.Grown id ids t₂) : t.Grown p [id] t₂ := by
  have hle : t.size ≤ id := hg.fresh id List.mem_cons_self
  have hlast : t₁.lastChild (some id) = none := by
    rw [(hg.wellFormed.childList id).lastChild_eq, hnil]
    rfl
  have hne : ∀ q < t.size, q ≠ id := fun q hq => Nat.ne_of_lt (Nat.lt_of_lt_of_le hq hle)
  have hnone : ∀ q : NodeId, (none : NodeRef) ≠ some q := fun _ => nofun
  refine ⟨hg'.wellFormed, Nat.le_trans hg.size_le hg'.size_le, hg.fresh, ?_, ?_, ?_⟩
  · rw [hg'.children_of_ne p (Nat.lt_of_lt_of_le hp hg.size_le) (hne p hp), hg.children]
  · intro q hq hqp
    rw [hg'.children_of_ne q (Nat.lt_of_lt_of_le hq hg.size_le) (hne q hq),
      hg.children_of_ne q hq hqp]
  · intro q hq
    rw [hg'.node q (Nat.lt_of_lt_of_le hq hg.size_le), hlast,
      funext (Node.grown_of_ne (hne q hq) (hnone q) ids), Option.map_id', hg.node q hq]

theorem label?_eq (hg : t.Grown p ids t') {q : NodeId} (hq : q < t.size) :
    t'.label? (some q) = t.label? (some q) := by
  rw [label?, hg.node q hq, Option.map_map]
  rfl

theorem kind?_eq (hg : t.Grown p ids t') {q : NodeId} (hq : q < t.size) :
    t'.kind? (some q) = t.kind? (some q) := by
  rw [kind?, hg.node q hq, Option.map_map]
  rfl

/-- **A subtree without the place of growth stays as it was.** -/
theorem agreeBelow (h : t.WellFormed) (hg : t.Grown p ids t') (hx : x < t.size)
    (hxp : ¬ t.contains (some x) (some p) = true) : AgreeBelow t t' x := by
  intro y hy
  have hlt : y < t.size := by
    rcases contains_iff_eq_or_mem.mp hy with rfl | hmem
    · exact hx
    · exact kind?_isSome_iff.mp (h.isSome_of_mem_ancestors hmem)
  refine ⟨hg.label?_eq hlt, hg.children_of_ne y hlt ?_⟩
  rintro rfl
  exact hxp hy

end Grown

end Tree

end WebPage
