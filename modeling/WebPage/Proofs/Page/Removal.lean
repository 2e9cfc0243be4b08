import WebPage.Proofs.Tree.Connected
import WebPage.Proofs.Tree.Gathering
import WebPage.Proofs.Tree.Growth

/-!
# Taking nodes out of the page

All nodes of a target are taken out together and come into a new fragment, side by side. The target
may name a node twice, nodes inside one another and nodes of several trees and fragments. What
cannot be taken out is found before anything changes, and after that nothing fails.

## Main definitions

* `Tree.removalFault`: how a node that cannot be taken out is refused
* `Tree.TakenOut t ns t'`: the nodes `ns` have come into a new fragment

## Main results

* `Page.checkRemovable_cases`: the nodes are accepted, or the first bad one is refused
* `Tree.takenOut_of_gathered`: what gathering in a new fragment does to the tree
* `Page.removeElements_spec`: nothing happens, the target is refused, or its nodes are taken out
-/

namespace WebPage

variable {t t' : Tree} {p : Page} {target : Target} {id : NodeId} {ns : List NodeId}

/-! ## Nodes that are refused -/

/-- How a node that cannot be taken out is refused. -/
def Tree.removalFault (id : NodeId) : DomError :=
  if id = documentNode then .hierarchy (.documentRemoved (some id)) else .notFound (some id)

/-- The check goes on behind a node that can be taken out. -/
theorem Page.checkRemovable_cons (h : t.WellFormed) (id : NodeId) (ns : List NodeId) :
    Page.checkRemovable t (id :: ns) =
      if t.Removable id then Page.checkRemovable t ns else .error (Tree.removalFault id) := by
  have hcons : Page.checkRemovable t (id :: ns) = (do
      let n ← t.node (some id)
      refuseIf (n.data = .document) (.hierarchy (.documentRemoved (some id)))
      Page.checkRemovable t ns) := by
    rw [Page.checkRemovable, List.forM_eq_forM, List.forM_cons, bind_assoc]
    rfl
  rw [hcons]
  cases hn : t.node? (some id) with
  | none =>
    have hid : ¬ t.Removable id := by
      rintro ⟨hsome, -⟩
      rw [hn] at hsome
      cases hsome
    -- the document node is always there
    have hne : id ≠ documentNode := by
      rintro rfl
      have hk := (h.document_iff documentNode).mpr rfl
      rw [Tree.kind?, hn] at hk
      cases hk
    rw [if_neg hid, Tree.node, hn, Tree.removalFault, if_neg hne]
    rfl
  | some n =>
    have hdata : n.data = .document ↔ id = documentNode := by
      rw [← h.document_iff id, Tree.kind?_of_node? hn]
      cases n.data <;> simp [NodeData.kind]
    rw [Tree.node, hn]
    by_cases hdocument : id = documentNode
    · have hid : ¬ t.Removable id := fun hid => hid.2 hdocument
      rw [if_neg hid, Tree.removalFault, if_pos hdocument]
      simp [refuseIf, hdata.mpr hdocument]
    · have hid : t.Removable id := ⟨by rw [hn]; rfl, hdocument⟩
      rw [if_pos hid]
      simp [refuseIf, mt hdata.mp hdocument]

/-- **The check of all nodes** accepts them, or refuses the first one that cannot be taken out. -/
theorem Page.checkRemovable_cases (h : t.WellFormed) (ns : List NodeId) :
    ((∀ id ∈ ns, t.Removable id) ∧ Page.checkRemovable t ns = .ok ()) ∨
      ∃ xs id ys, ns = xs ++ id :: ys ∧ (∀ x ∈ xs, t.Removable x) ∧ ¬ t.Removable id ∧
        Page.checkRemovable t ns = .error (Tree.removalFault id) := by
  induction ns with
  | nil => exact .inl ⟨by simp, rfl⟩
  | cons id ns ih =>
    by_cases hid : t.Removable id
    · have hrest : Page.checkRemovable t (id :: ns) = Page.checkRemovable t ns := by
        rw [checkRemovable_cons h, if_pos hid]
      rcases ih with ⟨hns, hok⟩ | ⟨xs, x, ys, rfl, hxs, hx, herror⟩
      · refine .inl ⟨?_, hrest.trans hok⟩
        exact List.forall_mem_cons.mpr ⟨hid, hns⟩
      · refine .inr ⟨id :: xs, x, ys, rfl, ?_, hx, hrest.trans herror⟩
        exact List.forall_mem_cons.mpr ⟨hid, hxs⟩
    · refine .inr ⟨[], id, ns, rfl, by simp, hid, ?_⟩
      rw [checkRemovable_cons h, if_neg hid]

/-! ## Nodes that are taken out -/

namespace Tree

/-- The nodes `ns` have been taken out of the tree and have come into a fresh fragment, which is the
next node of the arena. -/
structure TakenOut (t : Tree) (ns : List NodeId) (t' : Tree) : Prop where
  wellFormed : t'.WellFormed
  size : t'.size = t.size + 1
  fragment : t'.data? (some t.size) = some .fragment
  rootless : t'.parent (some t.size) = none
  /-- A fragment among the nodes has given its children instead of itself, and each node stands
  where it comes first. -/
  children : t'.childIds (some t.size) = (ns.flatMap t.unpack).eraseDups
  /-- Every other list of children has lost the nodes, and keeps the rest in its order. -/
  others : ∀ q, q ≠ t.size →
    t'.childIds (some q) = (t.childIds (some q)).filter (· ∉ ns.flatMap t.unpack)
  parent : ∀ x, t'.parent (some x) =
    if x ∈ ns.flatMap t.unpack then some t.size else t.parent (some x)
  data : ∀ r, r ≠ some t.size → t'.data? r = t.data? r
  disconnected : ∀ id ∈ ns, t'.isConnected (some id) = false

/-- What `unpack` gives for an old node does not depend on a fresh one. -/
theorem unpack_add (h : t.WellFormed) {data : NodeData} (hid : id ≠ t.size) :
    (t.add data).2.unpack id = t.unpack id := by
  have hne : some id ≠ some t.size := fun he => hid (Option.some.inj he)
  rw [unpack, unpack, kind?_add, if_neg hne, h.childIds_add]

/-- A node without parent that is not the document node is not connected. -/
theorem WellFormed.isConnected_of_rootless (h : t.WellFormed) (hp : t.parent (some id) = none)
    (hne : id ≠ documentNode) : t.isConnected (some id) = false := by
  have hroot : t.treeRoot (some id) = some id := by
    rw [treeRoot, h.ancestors_eq_nil hp]
    rfl
  simp [isConnected, hroot, hne]

/-- There is no node yet where the next one goes, so nothing is a child of it. -/
theorem WellFormed.childIds_size (h : t.WellFormed) : t.childIds (some t.size) = [] := by
  rw [List.eq_nil_iff_forall_not_mem]
  intro x hx
  have hsome := h.parent_isSome (h.mem_childIds_iff.mp hx)
  exact Nat.lt_irrefl _ (kind?_isSome_iff.mp hsome)

/-- **Gathering in a fresh fragment** takes the nodes out of the tree. -/
theorem takenOut_of_gathered (h : t.WellFormed) (hns : ∀ id ∈ ns, t.Removable id)
    (hg : (t.add .fragment).2.Gathered t.size
      (ns.flatMap (t.add .fragment).2.unpack).eraseDups t') : t.TakenOut ns t' := by
  have hlt : ∀ id ∈ ns, id < t.size := fun id hid =>
    kind?_isSome_iff.mp (isSome_kind?.trans (hns id hid).1)
  have hunpack : ns.flatMap (t.add .fragment).2.unpack = ns.flatMap t.unpack :=
    List.flatMap_congr fun id hid => unpack_add h (Nat.ne_of_lt (hlt id hid))
  rw [hunpack] at hg
  have hdata : ∀ r, t'.data? r = if r = some t.size then some .fragment else t.data? r :=
    fun r => (hg.data r).trans data?_add
  have hparent : ∀ x, t'.parent (some x) =
      if x ∈ ns.flatMap t.unpack then some t.size else t.parent (some x) := by
    intro x
    rw [hg.parent, parent_add]
    simp only [List.mem_eraseDups]
  have hfragment : t'.kind? (some t.size) = some .fragment := by
    rw [kind?_eq_data?, hdata, if_pos rfl]
    rfl
  have hrootless : t'.parent (some t.size) = none := hg.wellFormed.rootless _ _ hfragment rfl
  have hfresh : t.size ≠ documentNode := Nat.ne_of_gt h.documentNode_lt_size
  refine ⟨hg.wellFormed, ?_, ?_, hrootless, hg.children, ?_, hparent, ?_, ?_⟩
  · rw [size_eq_of_kind? (funext hg.kind?_eq), size_add]
  · rw [hdata, if_pos rfl]
  · intro q hq
    rw [hg.others q hq, h.childIds_add]
    simp only [List.mem_eraseDups]
  · intro r hr
    rw [hdata, if_neg hr]
  · intro id hid
    by_cases hk : t.kind? (some id) = some .fragment
    · -- an old fragment has no parent, and it is not the document node
      have hk' : t'.kind? (some id) = some .fragment := by
        have hne : some id ≠ some t.size := fun he =>
          Nat.ne_of_lt (hlt id hid) (Option.some.inj he)
        rw [kind?_eq_data?, hdata, if_neg hne, ← kind?_eq_data?, hk]
      have hroot : t'.parent (some id) = none := hg.wellFormed.rootless _ _ hk' rfl
      exact hg.wellFormed.isConnected_of_rootless hroot (hns id hid).2
    · -- any other node is a child of the new fragment, which has no parent
      have hmem : id ∈ ns.flatMap t.unpack := by
        refine List.mem_flatMap.mpr ⟨id, hid, ?_⟩
        rw [unpack, if_neg hk]
        exact List.mem_singleton_self id
      have hchild : t'.parent (some id) = some t.size := by rw [hparent, if_pos hmem]
      rw [← Bool.not_eq_true]
      intro hconnected
      have htop := hg.wellFormed.isConnected_of_parent hchild
      rw [← htop, hg.wellFormed.isConnected_of_rootless hrootless hfresh] at hconnected
      cases hconnected

/-- Whatever can be taken out is taken out: once the fragment is made, nothing fails. -/
theorem exists_takenOut (h : t.WellFormed) (hns : ∀ id ∈ ns, t.Removable id) :
    ∃ t', Page.gather t.size ns (t.add .fragment).2 = .ok t' ∧ t.TakenOut ns t' := by
  have hadd : (t.add .fragment).2.WellFormed := h.add (by simp [NodeData.kind])
  have hfragment : (t.add .fragment).2.kind? (some t.size) = some .fragment := by
    rw [kind?_add, if_pos rfl]
    rfl
  have hempty : (t.add .fragment).2.childIds (some t.size) = [] := by
    rw [h.childIds_add, h.childIds_size]
  have hold : ∀ id ∈ ns, (t.add .fragment).2.Removable id ∧ id ≠ t.size := by
    intro id hid
    have hne : id ≠ t.size :=
      Nat.ne_of_lt (kind?_isSome_iff.mp (isSome_kind?.trans (hns id hid).1))
    refine ⟨⟨?_, (hns id hid).2⟩, hne⟩
    rw [node?_add, if_neg (fun he => hne (Option.some.inj he))]
    exact (hns id hid).1
  obtain ⟨t', hgather, hg⟩ := exists_gather hadd hfragment hempty hold
  exact ⟨t', hgather, takenOut_of_gathered h hns hg⟩

end Tree

/-! ## The verb -/

namespace Page

/-- **Taking nodes out of a well-formed page.** A target that cannot be resolved fails, and a target
without nodes changes nothing. If a node of the target is not there or is the document node, the
first such node is refused, and the page stays as it was, down to the size of its arena. Otherwise
the nodes come into a fresh fragment that is nobody's child, each of them where it comes first in
the target, and a fragment gives its children instead of itself; all other children keep their
places, and no node of the target is connected any more. Nodes that come twice, lie inside one
another or belong to different trees are no exception. -/
theorem removeElements_spec (h : p.document.tree.WellFormed) (target : Target) :
    (∀ error, p.resolveAll target = .error error →
      removeElements target p = .error (.dom error) p) ∧
    ∀ ns, p.resolveAll target = .ok ns →
      (ns = [] → removeElements target p = .ok none p) ∧
      ((∃ id ∈ ns, ¬ p.document.tree.Removable id) → ∃ xs id ys, ns = xs ++ id :: ys ∧
        (∀ x ∈ xs, p.document.tree.Removable x) ∧ ¬ p.document.tree.Removable id ∧
        removeElements target p = .error (.dom (Tree.removalFault id)) p) ∧
      (ns ≠ [] → (∀ id ∈ ns, p.document.tree.Removable id) →
        ∃ t', removeElements target p = .ok (some p.document.tree.size) (p.withTree t') ∧
          p.document.tree.TakenOut ns t') := by
  unfold removeElements
  rw [get_bind_apply]
  refine ⟨fun error herror => ?_, fun ns hns => ?_⟩
  · apply bind_apply_of_error
    rw [herror]
    rfl
  have hresolved : Verb.ofResult (lift (p.resolveAll target)) = (pure ns : Verb (List NodeId)) := by
    rw [hns]
    rfl
  rw [hresolved, pure_bind]
  refine ⟨fun hempty => ?_, fun hbad => ?_, fun hsome hgood => ?_⟩
  · rw [hempty]
    rfl
  · obtain ⟨bad, hmem, hbad⟩ := hbad
    rcases checkRemovable_cases h ns with ⟨hgood, -⟩ | ⟨xs, id, ys, hsplit, hxs, hid, herror⟩
    · exact absurd (hgood bad hmem) hbad
    · have hsome : ¬ ns.isEmpty = true := by simp [hsplit]
      refine ⟨xs, id, ys, hsplit, hxs, hid, ?_⟩
      rw [if_neg hsome, get_bind_apply]
      apply bind_apply_of_error
      rw [herror]
      rfl
  · rcases checkRemovable_cases h ns with ⟨-, hok⟩ | ⟨xs, id, ys, hsplit, -, hid, -⟩
    · obtain ⟨t', hgather, hout⟩ := Tree.exists_takenOut h hgood
      have hsome : ¬ ns.isEmpty = true := by simpa using hsome
      have hcheck : Verb.ofResult (lift (checkRemovable p.document.tree ns)) =
          (pure () : Verb Unit) := by
        rw [hok]
        rfl
      refine ⟨t', ?_, hout⟩
      rw [if_neg hsome, get_bind_apply, hcheck, pure_bind]
      -- the fragment is made first, and the nodes are gathered in it
      refine (bind_apply_of_ok (act_of_ok rfl)).trans ?_
      exact bind_apply_of_ok (editTree_of_ok hgather)
    · have hmem : id ∈ ns := by simp [hsplit]
      exact absurd (hgood id hmem) hid

/-- A page whose `body` has the children 4 and 5, beside a fragment 6 with the children 7 and 8. -/
def besideFragment : Page :=
  { document := { tree := Tree.besideFragment, url := "about:blank" } }

/-- Of a fragment, one of its children, `body` and one of its children, some of them twice, the two
texts, the child and then `body` are left; the document node may not come with them. -/
theorem removeElements_spec_besideFragment :
    besideFragment.document.tree.WellFormed ∧
      removeElements (.nodes [none]) besideFragment = .ok none besideFragment ∧
      (∃ xs id ys, [4, 0, 99] = xs ++ id :: ys ∧
        (∀ x ∈ xs, besideFragment.document.tree.Removable x) ∧
        ¬ besideFragment.document.tree.Removable id ∧
        removeElements (.nodes [some 4, some 0, some 99]) besideFragment =
          .error (.dom (Tree.removalFault id)) besideFragment) ∧
      ∃ t', removeElements (.nodes [some 8, some 6, some 5, some 8, none, some 3]) besideFragment =
          .ok (some 9) (besideFragment.withTree t') ∧
        besideFragment.document.tree.TakenOut [8, 6, 5, 8, 3] t' ∧
        t'.childIds (some 9) = [8, 7, 5, 3] := by
  have h : besideFragment.document.tree.WellFormed := Tree.wellFormed_besideFragment
  have hbad : ∃ id ∈ [4, 0, 99], ¬ besideFragment.document.tree.Removable id :=
    ⟨0, by decide, fun hid => hid.2 rfl⟩
  have hgood : ∀ id ∈ [8, 6, 5, 8, 3], besideFragment.document.tree.Removable id := by
    decide +kernel
  obtain ⟨t', hrun, hout⟩ :=
    ((removeElements_spec h (.nodes [some 8, some 6, some 5, some 8, none, some 3])).2
      [8, 6, 5, 8, 3] rfl).2.2 (by decide) hgood
  have hsize : besideFragment.document.tree.size = 9 := by decide +kernel
  have hchildren := hout.children
  rw [hsize] at hrun hchildren
  refine ⟨h, ((removeElements_spec h (.nodes [none])).2 [] rfl).1 rfl,
    ((removeElements_spec h (.nodes [some 4, some 0, some 99])).2 [4, 0, 99] rfl).2.1 hbad,
    t', hrun, hout, hchildren.trans ?_⟩
  decide +kernel

end Page

end WebPage
