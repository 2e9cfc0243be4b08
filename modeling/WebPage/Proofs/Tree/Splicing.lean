import WebPage.Proofs.Page.Structure
import WebPage.Proofs.Tree.Preorder

/-!
# Where inserted nodes stand

An insertion takes nodes out of the lists of children that they are in, and puts them into the list
of their new parent, side by side and in front of the reference, or at the end if there is none.
A node that is inserted in front of itself stays where it is. All other lists, all other parents and
the data of every node are as before.

## Main definitions

* `data?`: what a node holds, its links apart
* `MovedTo`: one node has come into the children of another one
* `SplicedInto`: the children of a fragment have come into the children of another node

## Main results

* `childIds_move`, `childIds_foldl_move`: the list of children that nodes are moved into
* `insertBefore_eq_ok_iff`: what an insertion does if its checks pass
* `children_of_insertBefore`: the lists of children after an insertion
-/

namespace WebPage.Tree

variable {t t' : Tree} {parent child before point : NodeRef} {p q c d f x : NodeId} {n : Node}
  {xs ys ids : List NodeId} {r : NodeRef}

/-! ## Data -/

/-- What the node of a reference holds besides its links. -/
def data? (t : Tree) (r : NodeRef) : Option NodeData :=
  (t.node? r).map Node.data

theorem data?_modify {g : Node → Node} (hg : ∀ n, (g n).data = n.data) :
    (t.modify c g).data? r = t.data? r := by
  unfold data?
  rw [node?_modify]
  split
  · rw [Option.map_map]
    exact congrArg (fun f => (t.node? r).map f) (funext hg)
  · rfl

@[simp] theorem data?_place {prev next : NodeRef} :
    (t.place c parent prev next).data? r = t.data? r :=
  data?_modify fun _ => rfl

@[simp] theorem data?_linkAfter {beside : NodeRef} :
    (t.linkAfter p beside child).data? r = t.data? r := by
  unfold linkAfter
  split <;> exact data?_modify fun _ => rfl

@[simp] theorem data?_linkBefore {beside : NodeRef} :
    (t.linkBefore p beside child).data? r = t.data? r := by
  unfold linkBefore
  split <;> exact data?_modify fun _ => rfl

@[simp] theorem data?_unlink : (t.unlink c).data? r = t.data? r := by
  cases hp : t.parent (some c) with
  | none => rw [unlink_of_parent_eq_none hp]
  | some p => simp [unlink_of_parent_eq_some hp]

@[simp] theorem data?_move : (t.move p before c).data? r = t.data? r := by
  simp [move, link]

theorem data?_foldl_move :
    (ids.foldl (fun t id => t.move p before id) t).data? r = t.data? r := by
  induction ids generalizing t with
  | nil => rfl
  | cons id ids ih => rw [List.foldl_cons, ih, data?_move]

/-- The kind and the element of a node are read off its data. -/
theorem kind?_eq_data? : t.kind? r = (t.data? r).map NodeData.kind := by
  rw [kind?, data?, Option.map_map]
  rfl

theorem element?_eq_data? : t.element? r = (t.data? r).bind fun data => Node.element? { data } := by
  rw [element?, data?, Option.bind_map]
  rfl

theorem data?_add {data : NodeData} :
    (t.add data).2.data? r = if r = some t.size then some data else t.data? r := by
  rw [data?, node?_add]
  split <;> rfl

theorem data?_insertBefore (hi : t.insertBefore parent child before = .ok t') :
    t'.data? r = t.data? r := by
  obtain ⟨p, c, n, point, -, -, rfl⟩ := insertBefore_eq_ok_iff.mp hi
  split
  · exact data?_foldl_move
  · exact data?_move

theorem data?_foldl_unlink : (ids.foldl unlink t).data? r = t.data? r := by
  induction ids generalizing t with
  | nil => rfl
  | cons id ids ih => rw [List.foldl_cons, ih, data?_unlink]

theorem data?_removeChildren {count : Nat} (hr : t.removeChildren parent = .ok (count, t')) :
    t'.data? r = t.data? r := by
  unfold removeChildren at hr
  obtain ⟨n, -, hr⟩ := bind_eq_ok.mp hr
  cases hr
  exact data?_foldl_unlink

/-- New text inside an element changes the data of no node that was there. -/
theorem data?_setTextContent {text : String} (hp : t.isElement parent = true)
    (ht : t.setTextContent parent text = .ok t') (hx : x < t.size) :
    t'.data? (some x) = t.data? (some x) := by
  unfold setTextContent at ht
  rw [bind_eq_ok] at ht
  obtain ⟨n, hn, ht⟩ := ht
  have hkind := kind?_of_node? (node_eq_ok.mp hn)
  rw [isElement_iff.mp hp] at hkind
  have helement : n.data.kind = .element := (Option.some.inj hkind).symm
  split at ht
  next hd =>
    rw [hd] at helement
    cases helement
  next hd =>
    rw [hd] at helement
    cases helement
  next =>
    obtain ⟨⟨count, t₁⟩, hremove, ht⟩ := bind_eq_ok.mp ht
    have hold : t₁.data? (some x) = t.data? (some x) := data?_removeChildren hremove
    have hsize : t₁.size = t.size := by
      refine size_eq_of_kind? (funext fun r => ?_)
      rw [kind?_eq_data?, kind?_eq_data?, data?_removeChildren hremove]
    dsimp only at ht
    split at ht
    · cases ht
      exact hold
    · -- the text that comes in is a node of its own
      have hne : (some x : NodeRef) ≠ some t₁.size := by
        intro he
        rw [hsize] at he
        exact Nat.ne_of_lt hx (Option.some.inj he)
      rw [data?_insertBefore ht, createText, data?_add, if_neg hne, hold]

/-! ## Moving one node -/

/-- The gap in front of `before` is behind the children that stand before it. -/
theorem childBefore_of_split (h : t.WellFormed) (hl : t.childIds (some p) = xs ++ ys)
    (hy : before = ys.head?) : t.childBefore p before = xs.getLast? := by
  have hc := h.childList p
  rw [hl] at hc
  cases ys with
  | nil =>
    rw [List.append_nil] at hc
    rw [hy]
    exact hc.lastChild_eq
  | cons b ys =>
    rw [hy]
    exact hc.prevSibling_eq

/-- **The list that a node is moved into**: where it was taken out, it is put into the gap in front
of `before`. -/
theorem childIds_move (h : t.WellFormed) (hi : t.Insertable p before c)
    (hl : (t.childIds (some p)).filter (· != c) = xs ++ ys) (hy : before = ys.head?) :
    (t.move p before c).childIds (some p) = xs ++ c :: ys := by
  have hout : (t.unlink c).childIds (some p) = xs ++ ys := by
    rw [(h.childList_unlink c p).childIds_eq, hl]
  have horphan : (t.unlink c).parent (some c) = none := by
    rw [parent_unlink, if_pos rfl]
  have hwf := h.unlink c
  exact (childList_link hi.unlink hwf horphan hout (childBefore_of_split hwf hout hy) hy).childIds_eq

/-- Every other list loses the node. -/
theorem childIds_move_of_ne (h : t.WellFormed) (hi : t.Insertable p before c) (hq : q ≠ p) :
    (t.move p before c).childIds (some q) = (t.childIds (some q)).filter (· != c) := by
  have horphan : (t.unlink c).parent (some c) = none := by
    rw [parent_unlink, if_pos rfl]
  rw [move, (childList_link_of_ne hi.unlink (h.unlink c) horphan hq).childIds_eq,
    (h.childList_unlink c q).childIds_eq]

/-- A list of children without a node that is not in it. -/
theorem WellFormed.filter_childIds (h : t.WellFormed) (hp : t.parent (some c) ≠ some p) :
    (t.childIds (some p)).filter (· != c) = t.childIds (some p) := by
  refine List.filter_eq_self.mpr fun x hx => bne_iff_ne.mpr ?_
  rintro rfl
  exact hp (h.mem_childIds_iff.mp hx)

/-! ## Moving nodes side by side -/

section Row

variable (h : t.WellFormed) (hi : ∀ id ∈ ids, t.Insertable p before id)
include hi

theorem parent_foldl_move :
    (ids.foldl (fun t id => t.move p before id) t).parent (some x) =
      if x ∈ ids then some p else t.parent (some x) := by
  induction ids generalizing t with
  | nil => rfl
  | cons id ids ih =>
    have hid := hi id List.mem_cons_self
    rw [List.foldl_cons, ih fun d hd => hid.move (hi d (List.mem_cons_of_mem id hd)),
      parent_move hid]
    by_cases hx : x = id <;> simp [hx]

include h

/-- **The list that nodes are moved into**: they stand in their order in front of `before`. -/
theorem childIds_foldl_move (hnodup : ids.Nodup) (hout : ∀ id ∈ ids, t.parent (some id) ≠ some p)
    (hl : t.childIds (some p) = xs ++ ys) (hy : before = ys.head?) :
    (ids.foldl (fun t id => t.move p before id) t).childIds (some p) = xs ++ ids ++ ys := by
  induction ids generalizing t xs with
  | nil => rw [List.append_nil, ← hl, List.foldl_nil]
  | cons id ids ih =>
    obtain ⟨hid, hi⟩ := List.forall_mem_cons.mp hi
    obtain ⟨hidOut, hout⟩ := List.forall_mem_cons.mp hout
    obtain ⟨hnew, hnodup⟩ := List.nodup_cons.mp hnodup
    -- the node that is moved first stands before the gap when the next one comes
    have hmoved : (t.move p before id).childIds (some p) = (xs ++ [id]) ++ ys := by
      have hsplit : (t.childIds (some p)).filter (· != id) = xs ++ ys := by
        rw [h.filter_childIds hidOut, hl]
      rw [childIds_move h hid hsplit hy, List.append_assoc, List.singleton_append]
    have hout' : ∀ d ∈ ids, (t.move p before id).parent (some d) ≠ some p := by
      intro d hd
      rw [parent_move hid, if_neg]
      · exact hout d hd
      · intro he
        exact hnew (Option.some.inj he ▸ hd)
    rw [List.foldl_cons, ih (h.move hid) (fun d hd => hid.move (hi d hd)) hnodup hout' hmoved,
      List.append_assoc xs, List.singleton_append]

/-- Every other list loses the nodes. -/
theorem childIds_foldl_move_of_ne (hq : q ≠ p) :
    (ids.foldl (fun t id => t.move p before id) t).childIds (some q) =
      (t.childIds (some q)).filter (· ∉ ids) := by
  induction ids generalizing t with
  | nil => exact (List.filter_eq_self.mpr fun x _ => by simp).symm
  | cons id ids ih =>
    obtain ⟨hid, hi⟩ := List.forall_mem_cons.mp hi
    rw [List.foldl_cons, ih (h.move hid) fun d hd => hid.move (hi d hd),
      childIds_move_of_ne h hid hq, List.filter_filter]
    refine List.filter_congr fun x _ => ?_
    by_cases hx : x = id <;> simp [hx]

end Row

/-! ## Insertion -/

/-- The node `c` has come into the children of `p`, in front of `before` or at the end. -/
structure MovedTo (t : Tree) (p c : NodeId) (before : NodeRef) (t' : Tree) : Prop where
  /-- In front of itself, it stays where it is. -/
  at_itself : before = some c → t'.childIds (some p) = t.childIds (some p)
  children : before ≠ some c → ∃ xs ys, (t.childIds (some p)).filter (· != c) = xs ++ ys ∧
    before = ys.head? ∧ t'.childIds (some p) = xs ++ c :: ys
  /-- Its former parent loses it and keeps the others in their order. -/
  former : ∀ q, q ≠ p → t.parent (some c) = some q →
    t'.childIds (some q) = (t.childIds (some q)).filter (· != c)
  others : ∀ q, q ≠ p → t.parent (some c) ≠ some q → t'.childIds (some q) = t.childIds (some q)
  parent : ∀ x, t'.parent (some x) = if x = c then some p else t.parent (some x)

/-- The children of the fragment `f` have come into the children of `p`, in front of `before` or at
the end. -/
structure SplicedInto (t : Tree) (p f : NodeId) (before : NodeRef) (t' : Tree) : Prop where
  children : ∃ xs ys, t.childIds (some p) = xs ++ ys ∧ before = ys.head? ∧
    t'.childIds (some p) = xs ++ t.childIds (some f) ++ ys
  emptied : t'.childIds (some f) = []
  rootless : t'.parent (some f) = none
  others : ∀ q, q ≠ p → q ≠ f → t'.childIds (some q) = t.childIds (some q)
  parent : ∀ x, t'.parent (some x) = if x ∈ t.childIds (some f) then some p else t.parent (some x)

/-- A gap in front of a child, or behind all children. -/
theorem WellFormed.exists_split_at (h : t.WellFormed)
    (hb : ∀ b, before = some b → t.parent (some b) = some p) :
    ∃ xs ys, t.childIds (some p) = xs ++ ys ∧ before = ys.head? := by
  cases before with
  | none => exact ⟨_, [], (List.append_nil _).symm, rfl⟩
  | some b =>
    obtain ⟨xs, ys, hl, -⟩ := h.exists_split (hb b rfl)
    exact ⟨xs, b :: ys, hl, rfl⟩

theorem movedTo_move (h : t.WellFormed)
    (hbefore : ∀ b, before = some b → t.parent (some b) = some p)
    (hpoint : point = if before = some c then t.nextSibling (some c) else before)
    (hi : t.Insertable p point c) : t.MovedTo p c before (t.move p point c) := by
  refine ⟨fun hself => ?_, fun hother => ?_, fun q hq _ => ?_, fun q hq hparent => ?_, fun x => ?_⟩
  · -- the gap that `c` leaves is the one in front of the sibling after it
    obtain ⟨xs, ys, hl, -, hnext⟩ := h.exists_split (hbefore c hself)
    have hnodup := (h.childList p).nodup
    rw [hl, List.nodup_append, List.nodup_cons] at hnodup
    obtain ⟨-, ⟨hys, -⟩, hxs⟩ := hnodup
    have hrest : (t.childIds (some p)).filter (· != c) = xs ++ ys := by
      have hne : ∀ x ∈ xs ++ ys, (x != c) = true := by
        intro x hx
        rw [bne_iff_ne]
        rcases List.mem_append.mp hx with hx | hx
        · exact hxs x hx c List.mem_cons_self
        · rintro rfl
          exact hys hx
      rw [hl, List.filter_append, List.filter_cons_of_neg (by simp), ← List.filter_append,
        List.filter_eq_self.mpr hne]
    rw [if_pos hself, hnext] at hpoint
    rw [childIds_move h hi hrest hpoint, hl]
  · rw [if_neg hother] at hpoint
    subst hpoint
    have hwf := h.unlink c
    have hchild : ∀ b, point = some b → (t.unlink c).parent (some b) = some p :=
      fun b hb => (hi.unlink.point b hb).1
    obtain ⟨xs, ys, hl, hy⟩ := hwf.exists_split_at hchild
    rw [(h.childList_unlink c p).childIds_eq] at hl
    exact ⟨xs, ys, hl, hy, childIds_move h hi hl hy⟩
  · exact childIds_move_of_ne h hi hq
  · rw [childIds_move_of_ne h hi hq, h.filter_childIds hparent]
  · rw [parent_move hi]
    simp

theorem splicedInto_foldl_move (h : t.WellFormed)
    (hbefore : ∀ b, before = some b → t.parent (some b) = some p)
    (hf : t.kind? (some f) = some .fragment) (hfp : f ≠ p)
    (hi : ∀ id ∈ t.childIds (some f), t.Insertable p before id) :
    t.SplicedInto p f before
      ((t.childIds (some f)).foldl (fun t id => t.move p before id) t) := by
  have hparent : ∀ id ∈ t.childIds (some f), t.parent (some id) = some f :=
    fun id hid => h.mem_childIds_iff.mp hid
  have hroot : t.parent (some f) = none := h.rootless f _ hf rfl
  refine ⟨?_, ?_, ?_, fun q hqp hqf => ?_, fun x => parent_foldl_move hi⟩
  · obtain ⟨xs, ys, hl, hy⟩ := h.exists_split_at hbefore
    refine ⟨xs, ys, hl, hy, childIds_foldl_move h hi (h.childList f).nodup (fun id hid => ?_) hl hy⟩
    rw [hparent id hid]
    simpa using hfp
  · rw [childIds_foldl_move_of_ne h hi hfp]
    simp
  · rw [parent_foldl_move hi, if_neg, hroot]
    intro hmem
    rw [hparent f hmem] at hroot
    cases hroot
  · -- the children of another node are no children of the fragment
    rw [childIds_foldl_move_of_ne h hi hqp]
    refine List.filter_eq_self.mpr fun x hx => decide_eq_true fun hmem => hqf ?_
    have hq := h.mem_childIds_iff.mp hx
    rw [hparent x hmem] at hq
    exact (Option.some.inj hq).symm

/-- **The lists of children after an insertion.** A node comes into the list of its new parent, in
front of the reference or at the end, and out of the list of its former parent; in front of itself
it stays. A fragment gives its children in their order, and has none afterwards. No other list, no
other parent and no data changes. -/
theorem children_of_insertBefore (h : t.WellFormed)
    (hi : t.insertBefore parent child before = .ok t') :
    ∃ p c, parent = some p ∧ child = some c ∧
      (t.kind? (some c) ≠ some .fragment → t.MovedTo p c before t') ∧
      (t.kind? (some c) = some .fragment → t.SplicedInto p c before t') ∧
      ∀ r, t'.data? r = t.data? r := by
  obtain ⟨p, c, n, point, hc, hp, ht⟩ := insertBefore_eq_ok_iff.mp hi
  obtain ⟨rfl, rfl, hn, -, -, hcontains⟩ := checkInsert_eq_ok hc
  obtain ⟨hbefore, hpoint⟩ := insertionPoint_eq_ok_iff.mp hp
  have hfragment : t.kind? (some c) = some .fragment ↔ n.data = .fragment := by
    rw [kind?_of_node? hn]
    cases n.data <;> simp [NodeData.kind]
  refine ⟨p, c, rfl, rfl, ?_⟩
  by_cases hd : n.data = .fragment
  · have hf := hfragment.mpr hd
    have hroot : t.parent (some c) = none := h.rootless c _ hf rfl
    -- a fragment is nobody's child, so it is not the reference
    have hother : before ≠ some c := by
      intro hself
      rw [hbefore c hself] at hroot
      cases hroot
    rw [if_neg hother] at hpoint
    subst hpoint
    have hne : c ≠ p := by
      rintro rfl
      rw [contains_self] at hcontains
      cases hcontains
    rw [if_pos hd] at ht
    subst ht
    refine ⟨fun hnot => absurd hf hnot, fun _ => ?_, fun r => data?_foldl_move⟩
    exact splicedInto_foldl_move h hbefore hf hne fun id hid =>
      insertable_of_mem_childIds h hc hp hid
  · rw [if_neg hd] at ht
    subst ht
    refine ⟨fun _ => ?_, fun hf => absurd (hfragment.mp hf) hd, fun r => data?_move⟩
    exact movedTo_move h hbefore hpoint (insertable_of_checkInsert h hc hp hd)

/-- A tree whose `body` has the children 4 and 5, beside a fragment 6 with the children 7 and 8. -/
def besideFragment : Tree :=
  (Page.afterCalls { document := .skeleton "about:blank" }
    [.createElement "p", .createElement "p", .createFragment, .createText "a", .createText "b",
      .appendChild (some 3) (some 4), .appendChild (some 3) (some 5),
      .appendChild (some 6) (some 7), .appendChild (some 6) (some 8)]).document.tree

theorem wellFormed_besideFragment : besideFragment.WellFormed := by
  have hskeleton : Page.HasWellFormedTree { document := .skeleton "about:blank" } :=
    wellFormed_skeletonTree
  exact Page.afterCalls_keeps StructuralCall.keeps_wellFormed hskeleton _

/-- The fragment gives its children between the two of `body`, and the second of these may change
places with the first. -/
theorem children_of_insertBefore_besideFragment :
    besideFragment.WellFormed ∧
      (∃ t', besideFragment.insertBefore (some 3) (some 6) (some 5) = .ok t' ∧
        besideFragment.SplicedInto 3 6 (some 5) t' ∧ t'.childIds (some 3) = [4, 7, 8, 5]) ∧
      ∃ t', besideFragment.insertBefore (some 3) (some 5) (some 4) = .ok t' ∧
        besideFragment.MovedTo 3 5 (some 4) t' ∧ t'.childIds (some 3) = [5, 4] := by
  have h := wellFormed_besideFragment
  have hspliced : (besideFragment.insertBefore (some 3) (some 6) (some 5)).toOption.map
      (fun t' => t'.childIds (some 3)) = some [4, 7, 8, 5] := by decide +kernel
  have hmoved : (besideFragment.insertBefore (some 3) (some 5) (some 4)).toOption.map
      (fun t' => t'.childIds (some 3)) = some [5, 4] := by decide +kernel
  obtain ⟨t₁, h₁, hl₁⟩ := map_toOption_eq_some.mp hspliced
  obtain ⟨t₂, h₂, hl₂⟩ := map_toOption_eq_some.mp hmoved
  refine ⟨h, ⟨t₁, h₁, ?_, hl₁⟩, t₂, h₂, ?_, hl₂⟩
  · obtain ⟨_, _, ⟨⟩, ⟨⟩, -, hf, -⟩ := children_of_insertBefore h h₁
    exact hf (by decide +kernel)
  · obtain ⟨_, _, ⟨⟩, ⟨⟩, hm, -⟩ := children_of_insertBefore h h₂
    exact hm (by decide +kernel)

end WebPage.Tree
