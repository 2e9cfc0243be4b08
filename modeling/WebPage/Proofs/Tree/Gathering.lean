import WebPage.Proofs.FirstPlaces
import WebPage.Proofs.Tree.Splicing

/-!
# Gathering nodes in a fragment

Nodes that are scattered over a page, inside one another, in several fragments or in no tree at all,
are put one after the other at the end of a fragment that is empty at first. A node may come again,
or it may have come before among the children of another fragment; then it stays where it came
first. No insertion into a fragment without parent can fail, so all of them are made.

## Main definitions

* `unpack`: the nodes that an insertion moves
* `Removable`: the nodes that can be taken out of the tree
* `Gathered t f ids t'`: the nodes `ids` have been gathered in the fragment `f`

## Main results

* `appendChild_fragment`: an insertion at the end of a fragment moves what is unpacked
* `Gathered.step`: one more node, wherever it is and whether it has come before
* `exists_gather`: gathering succeeds, and leaves each node where it came first
-/

namespace WebPage.Tree

variable {t t' : Tree} {f c id q x : NodeId} {ids new ns : List NodeId} {k : NodeKind}

/-- The nodes that an insertion moves: the children of a fragment, and any other node itself. -/
def unpack (t : Tree) (id : NodeId) : List NodeId :=
  if t.kind? (some id) = some .fragment then t.childIds (some id) else [id]

/-- The nodes that can be taken out of the tree: those that are there, the document node apart. -/
def Removable (t : Tree) (id : NodeId) : Prop :=
  (t.node? (some id)).isSome ∧ id ≠ documentNode

/-- Whether a node can be taken out is decided by looking it up. -/
instance : DecidablePred t.Removable := fun _ => inferInstanceAs (Decidable (_ ∧ _))

/-! ## Insertion into a fragment -/

section Fragment

variable (h : t.WellFormed) (hf : t.kind? (some f) = some .fragment)
include h hf

/-- Whatever may have a parent may be moved into a fragment. -/
theorem insertable_fragment (hc : t.kind? (some c) = some k) (hk : k.isRoot = false) :
    t.Insertable f none c := by
  have hroot : t.parent (some f) = none := h.rootless f _ hf rfl
  refine ⟨⟨.fragment, hf, rfl⟩, ⟨k, hc, hk⟩, nofun, [f], ?_, ?_⟩
  · -- there is nothing above a fragment
    exact ⟨rfl, hroot⟩
  · intro hmem
    obtain rfl := List.mem_singleton.mp hmem
    obtain rfl : NodeKind.fragment = k := Option.some.inj (hf.symm.trans hc)
    cases hk

/-- The nodes that an insertion moves may have a parent. -/
theorem insertable_of_mem_unpack (hid : t.Removable id) (hx : x ∈ t.unpack id) :
    t.Insertable f none x := by
  unfold unpack at hx
  split at hx
  · -- a child of a fragment has a parent already
    have hparent := h.mem_childIds_iff.mp hx
    obtain ⟨k, hk⟩ := Option.isSome_iff_exists.mp (kind?_isSome_of_parent hparent)
    apply insertable_fragment h hf hk
    rw [Bool.eq_false_iff]
    intro hroot
    rw [h.rootless x k hk hroot] at hparent
    cases hparent
  · next hfragment =>
    obtain rfl := List.mem_singleton.mp hx
    obtain ⟨hsome, hdocument⟩ := hid
    obtain ⟨k, hk⟩ := Option.isSome_iff_exists.mp (isSome_kind?.trans hsome)
    apply insertable_fragment h hf hk
    cases k with
    | document => exact absurd ((h.document_iff x).mp hk) hdocument
    | fragment => exact absurd hk hfragment
    | element | text | comment => rfl

/-- **An insertion at the end of a fragment** moves what is unpacked, and does not fail. -/
theorem appendChild_fragment (hid : t.Removable id) (hne : id ≠ f) :
    t.appendChild (some f) (some id) =
      .ok ((t.unpack id).foldl (fun t c => t.move f none c) t) := by
  obtain ⟨n, hn⟩ := Option.isSome_iff_exists.mp hid.1
  have hkind := kind?_of_node? hn
  have hdocument : n.data ≠ .document := by
    intro hd
    rw [hd] at hkind
    exact hid.2 ((h.document_iff id).mp hkind)
  have hfragment : t.kind? (some id) = some .fragment ↔ n.data = .fragment := by
    rw [hkind]
    cases n.data <;> simp [NodeData.kind]
  have hcontains : t.contains (some id) (some f) = false := by
    rw [← Bool.not_eq_true, contains_iff_eq_or_mem, h.ancestors_eq_nil (h.rootless f _ hf rfl)]
    rintro (he | hmem)
    · exact hne he
    · cases hmem
  have hcheck : t.checkInsert (some f) (some id) = .ok (f, id, n) :=
    checkInsert_eq_ok_iff.mpr ⟨rfl, rfl, hn, hdocument, ⟨.fragment, hf, rfl⟩, hcontains⟩
  apply insertBefore_eq_ok_iff.mpr
  refine ⟨f, id, n, none, hcheck, rfl, ?_⟩
  by_cases hd : n.data = .fragment
  · rw [unpack, if_pos (hfragment.mpr hd), if_pos hd]
  · rw [unpack, if_neg (mt hfragment.mp hd), if_neg hd]
    rfl

end Fragment

theorem nodup_unpack (h : t.WellFormed) (id : NodeId) : (t.unpack id).Nodup := by
  unfold unpack
  split
  · exact (h.childList id).nodup
  · simp

/-! ## What is gathered -/

/-- The nodes `ids` have been gathered in the fragment `f`, which was empty before. -/
structure Gathered (t : Tree) (f : NodeId) (ids : List NodeId) (t' : Tree) : Prop where
  wellFormed : t'.WellFormed
  data : ∀ r, t'.data? r = t.data? r
  children : t'.childIds (some f) = ids
  others : ∀ q, q ≠ f → t'.childIds (some q) = (t.childIds (some q)).filter (· ∉ ids)
  parent : ∀ x, t'.parent (some x) = if x ∈ ids then some f else t.parent (some x)

namespace Gathered

theorem nil (h : t.WellFormed) (hf : t.childIds (some f) = []) : t.Gathered f [] t := by
  refine ⟨h, fun _ => rfl, hf, fun q _ => ?_, fun x => ?_⟩
  · exact (List.filter_eq_self.mpr fun x _ => by simp).symm
  · simp

theorem kind?_eq (hg : t.Gathered f ids t') (r : NodeRef) : t'.kind? r = t.kind? r := by
  rw [kind?_eq_data?, kind?_eq_data?, hg.data]

theorem removable (hg : t.Gathered f ids t') (hid : t.Removable id) : t'.Removable id := by
  refine ⟨?_, hid.2⟩
  rw [← isSome_kind?, hg.kind?_eq, isSome_kind?]
  exact hid.1

/-- Of the nodes that an insertion moves, those that are gathered already are missing: from the list
of a fragment they have been taken out. -/
theorem unpack_of_fragment (hg : t.Gathered f ids t') (hk : t.kind? (some id) = some .fragment)
    (hne : id ≠ f) : t'.unpack id = (t.unpack id).filter (· ∉ ids) := by
  rw [unpack, unpack, if_pos hk, if_pos ((hg.kind?_eq (some id)).trans hk), hg.others id hne]

/-- A row of new nodes comes behind those that are there. -/
theorem row (hg : t.Gathered f ids t') (hnodup : new.Nodup) (hnew : ∀ x ∈ new, x ∉ ids)
    (hout : ∀ x ∈ new, t.parent (some x) ≠ some f)
    (hrow : ∀ x ∈ new, t'.Insertable f none x) :
    t.Gathered f (ids ++ new) (new.foldl (fun t c => t.move f none c) t') := by
  have h := hg.wellFormed
  have hout' : ∀ x ∈ new, t'.parent (some x) ≠ some f := by
    intro x hx
    rw [hg.parent, if_neg (hnew x hx)]
    exact hout x hx
  have hl : t'.childIds (some f) = ids ++ [] := by rw [hg.children, List.append_nil]
  refine ⟨h.foldl_move hrow, fun r => ?_, ?_, fun q hq => ?_, fun x => ?_⟩
  · rw [data?_foldl_move, hg.data]
  · rw [childIds_foldl_move h hrow hnodup hout' hl rfl, List.append_nil]
  · rw [childIds_foldl_move_of_ne h hrow hq, hg.others q hq, List.filter_filter]
    refine List.filter_congr fun x _ => ?_
    simp [Bool.and_comm]
  · rw [parent_foldl_move hrow, hg.parent]
    by_cases hx : x ∈ new <;> simp [hx]

/-- **One more node**: what an insertion of it would move, and what has not come before, comes
behind the others. A node that is in the fragment already is passed over. -/
theorem step (h : t.WellFormed) (hf : t.kind? (some f) = some .fragment)
    (hempty : t.childIds (some f) = []) (hg : t.Gathered f ids t') (hid : t.Removable id)
    (hne : id ≠ f) :
    ∃ t'', (if t'.parent (some id) = some f then pure t' else t'.appendChild (some f) (some id)) =
        .ok t'' ∧ t.Gathered f (ids ++ (t.unpack id).filter (· ∉ ids)) t'' := by
  have hout : ∀ x, t.parent (some x) ≠ some f := by
    intro x hx
    have hmem := h.mem_childIds_iff.mpr hx
    rw [hempty] at hmem
    cases hmem
  have hf' : t'.kind? (some f) = some .fragment := (hg.kind?_eq (some f)).trans hf
  have hid' := hg.removable hid
  -- an insertion moves just what has not come before, unless the node itself has
  have hmoves : ¬ t'.parent (some id) = some f → t'.unpack id = (t.unpack id).filter (· ∉ ids) := by
    intro hparent
    by_cases hk : t.kind? (some id) = some .fragment
    · exact hg.unpack_of_fragment hk hne
    · have hnew : id ∉ ids := by
        intro hmem
        rw [hg.parent, if_pos hmem] at hparent
        exact hparent rfl
      have hk' : ¬ t'.kind? (some id) = some .fragment := by rwa [hg.kind?_eq]
      rw [unpack, unpack, if_neg hk, if_neg hk', List.filter_cons_of_pos (by simpa using hnew)]
      rfl
  by_cases hparent : t'.parent (some id) = some f
  · -- a node in the fragment came before, and it is no fragment itself
    have hmem : id ∈ ids := by
      rw [← hg.children, hg.wellFormed.mem_childIds_iff]
      exact hparent
    have hk : ¬ t.kind? (some id) = some .fragment := by
      intro hk
      rw [← hg.kind?_eq] at hk
      rw [hg.wellFormed.rootless id _ hk rfl] at hparent
      cases hparent
    refine ⟨t', if_pos hparent, ?_⟩
    rw [unpack, if_neg hk, List.filter_cons_of_neg (by simpa using hmem), List.filter_nil,
      List.append_nil]
    exact hg
  · rw [if_neg hparent, appendChild_fragment hg.wellFormed hf' hid' hne, hmoves hparent]
    refine ⟨_, rfl, hg.row ((nodup_unpack h id).filter _) (fun x hx => ?_) (fun x _ => hout x)
      fun x hx => ?_⟩
    · simpa using (List.mem_filter.mp hx).2
    · apply insertable_of_mem_unpack hg.wellFormed hf' hid'
      rw [hmoves hparent]
      exact hx

end Gathered

/-- **Gathering succeeds**: each node is found where it came first, and no insertion fails, though
the nodes may come again, lie inside one another or have come with a fragment. -/
theorem exists_gather (h : t.WellFormed) (hf : t.kind? (some f) = some .fragment)
    (hempty : t.childIds (some f) = []) (hns : ∀ id ∈ ns, t.Removable id ∧ id ≠ f) :
    ∃ t', Page.gather f ns t = .ok t' ∧ t.Gathered f (ns.flatMap t.unpack).eraseDups t' := by
  -- the nodes that have been taken care of are a list `l`, of which the rest is independent
  have hrun : ∀ ns l t₁, (∀ id ∈ ns, t.Removable id ∧ id ≠ f) →
      t.Gathered f (l.flatMap t.unpack).eraseDups t₁ →
      ∃ t', Page.gather f ns t₁ = .ok t' ∧
        t.Gathered f ((l ++ ns).flatMap t.unpack).eraseDups t' := by
    intro ns
    induction ns with
    | nil =>
      intro l t₁ _ hg
      rw [List.append_nil]
      exact ⟨t₁, rfl, hg⟩
    | cons id ns ih =>
      intro l t₁ hns hg
      obtain ⟨⟨hid, hne⟩, hns⟩ := List.forall_mem_cons.mp hns
      obtain ⟨t₂, hstep, hg⟩ := hg.step h hf hempty hid hne
      rw [← eraseDups_append_of_nodup (nodup_unpack h id)] at hg
      have hsplit : l.flatMap t.unpack ++ t.unpack id = (l ++ [id]).flatMap t.unpack := by
        rw [List.flatMap_append, List.flatMap_singleton]
      rw [hsplit] at hg
      obtain ⟨t', hrest, hg⟩ := ih (l ++ [id]) t₂ hns hg
      rw [List.append_assoc, List.singleton_append] at hg
      refine ⟨t', ?_, hg⟩
      rw [Page.gather, List.foldlM_cons, hstep]
      exact hrest
  exact hrun ns [] t hns (Gathered.nil h hempty)

end WebPage.Tree
