import WebPage.Proofs.Tree.Links

/-!
# Taking a node out and putting it in

The children of every node after one node was taken out of its family or put into another, and with
them the well-formedness of the tree. A node may be put below another only if it is not above it:
otherwise its links upwards would go round.

## Main definitions

* `Insertable t p before c`: the node `c` may be moved below `p`, in front of `before`

## Main results

* `WellFormed.childList_unlink`, `WellFormed.unlink`: taking a node out
* `WellFormed.childList_link`, `WellFormed.link`: putting a node in
* `WellFormed.move`, `WellFormed.foldl_move`: moving nodes
-/

namespace WebPage.Tree

variable {t : Tree} {c d p q : NodeId} {before : NodeRef}

/-! ## Paths upwards -/

/-- A chain of links that ends still ends after the link of one node was changed, if the new link
leads to where a chain ends. -/
theorem Path.exists_of_change {next next' : NodeRef → NodeRef} {start : NodeRef} {l : List NodeId}
    (h : Path next start l none) (hc : ∃ m, Path next' (next' (some c)) m none)
    (hn : ∀ d, d ≠ c → next' (some d) = next (some d)) : ∃ m, Path next' start m none := by
  induction l generalizing start with
  | nil => exact ⟨[], h⟩
  | cons x l ih =>
    obtain ⟨rfl, h⟩ := h
    by_cases hx : x = c
    · subst hx
      obtain ⟨m, hm⟩ := hc
      exact ⟨x :: m, rfl, hm⟩
    · obtain ⟨m, hm⟩ := ih h
      exact ⟨x :: m, rfl, by rwa [hn x hx]⟩

/-- All links of a tree name nodes if the children of every node are linked in a list. -/
theorem isSome_of_mem_links (hl : ∀ p, ∃ l, t.ChildList p l)
    (ho : ∀ c, t.parent (some c) = none →
      t.prevSibling (some c) = none ∧ t.nextSibling (some c) = none)
    (r : NodeRef) (id : NodeId) (h : some id ∈ t.links r) : (t.kind? (some id)).isSome := by
  cases r with
  | none => simp [links, parent, firstChild, lastChild, prevSibling, nextSibling, node?] at h
  | some c =>
    -- a sibling is found in the list of children that holds `c`
    have hsib : ∀ s, t.prevSibling (some c) = some s ∨ t.nextSibling (some c) = some s →
        (t.kind? (some s)).isSome := by
      intro s hs
      cases hp : t.parent (some c) with
      | none => simp [ho c hp] at hs
      | some p =>
        obtain ⟨l, hl⟩ := hl p
        obtain ⟨xs, ys, rfl⟩ := List.append_of_mem ((hl.mem_iff c).mpr hp)
        refine kind?_isSome_of_parent ((hl.mem_iff s).mp ?_)
        rcases hs with hs | hs
        · rw [hl.prevSibling_eq] at hs
          exact List.mem_append_left _ (List.mem_of_getLast? hs)
        · rw [hl.nextSibling_eq] at hs
          exact List.mem_append_right _ (List.mem_cons_of_mem c (List.mem_of_head? hs))
    simp only [links, List.mem_cons, List.not_mem_nil, or_false] at h
    rcases h with hp | hf | hf | hs | hs
    · -- a node that does not exist has no first child, so it has no children
      obtain ⟨l, hl⟩ := hl id
      have hc := (hl.mem_iff c).mpr hp.symm
      cases hk : t.kind? (some id) with
      | some k => rfl
      | none =>
        have hn : t.node? (some id) = none := by simpa [kind?] using hk
        have hf := hl.firstChild_eq
        rw [firstChild, hn] at hf
        rw [List.head?_eq_none_iff.mp hf.symm] at hc
        simp at hc
    · obtain ⟨l, hl⟩ := hl c
      exact kind?_isSome_of_parent
        ((hl.mem_iff id).mp (List.mem_of_head? (hl.firstChild_eq.symm.trans hf.symm)))
    · obtain ⟨l, hl⟩ := hl c
      exact kind?_isSome_of_parent
        ((hl.mem_iff id).mp (List.mem_of_getLast? (hl.lastChild_eq.symm.trans hf.symm)))
    · exact hsib id (.inl hs.symm)
    · exact hsib id (.inr hs.symm)

namespace WellFormed

/-! ## Taking a node out -/

/-- **The children after a node was taken out** are those before without it. -/
theorem childList_unlink (h : t.WellFormed) (c q : NodeId) :
    (t.unlink c).ChildList q ((t.childIds (some q)).filter (· != c)) where
  forward := by
    rw [h.firstChild_unlink]
    exact (h.childList q).forward.bypass fun d _ hd => h.nextSibling_unlink hd
  backward := by
    rw [h.lastChild_unlink, ← List.filter_reverse]
    exact (h.childList q).backward.bypass fun d _ hd => h.prevSibling_unlink hd
  nodup := (h.childList q).nodup.filter _
  mem_iff d := by
    rw [List.mem_filter, h.mem_childIds_iff, parent_unlink]
    by_cases hd : d = c <;> simp [hd]

/-- **Taking a node out keeps a tree well formed.** -/
theorem unlink (h : t.WellFormed) (c : NodeId) : (t.unlink c).WellFormed := by
  have hchildren : ∀ p, ∃ l, (t.unlink c).ChildList p l := fun p => ⟨_, h.childList_unlink c p⟩
  have horphan : ∀ d, (t.unlink c).parent (some d) = none →
      (t.unlink c).prevSibling (some d) = none ∧ (t.unlink c).nextSibling (some d) = none := by
    intro d hd
    by_cases hdc : d = c
    · subst hdc
      exact h.siblings_unlink_self
    · rw [parent_unlink, if_neg (by simpa using hdc)] at hd
      obtain ⟨hp, hn⟩ := h.orphan d hd
      rw [h.prevSibling_unlink hdc, h.nextSibling_unlink hdc, hp, hn]
      simp
  refine ⟨?_, isSome_of_mem_links hchildren horphan, hchildren, horphan, ?_, ?_, ?_⟩
  · simpa using h.document_iff
  · intro p k hk hkc
    obtain ⟨hf, hl⟩ := h.childless p k (by simpa using hk) hkc
    rw [h.firstChild_unlink, h.lastChild_unlink, hf, hl]
    simp
  · intro d k hk hkr
    rw [parent_unlink, h.rootless d k (by simpa using hk) hkr]
    exact ite_self _
  · -- upwards, only the link of `c` is new, and it ends there
    intro r
    obtain ⟨l, hl⟩ := h.acyclic r
    refine hl.exists_of_change (c := c) ⟨[], ?_⟩ fun d hd => ?_
    · show (t.unlink c).parent (some c) = none
      rw [parent_unlink, if_pos rfl]
    · rw [parent_unlink, if_neg (by simpa using hd)]

end WellFormed

/-! ## Putting a node in -/

/-- The node `c` may be moved below `p`, in front of its child `before` or at the end. -/
structure Insertable (t : Tree) (p : NodeId) (before : NodeRef) (c : NodeId) : Prop where
  container : ∃ k, t.kind? (some p) = some k ∧ k.isContainer = true
  child : ∃ k, t.kind? (some c) = some k ∧ k.isRoot = false
  point : ∀ b, before = some b → t.parent (some b) = some p ∧ b ≠ c
  /-- The node is neither `p` nor above it. -/
  above : ∃ l, Path t.parent (some p) l none ∧ c ∉ l

namespace Insertable

theorem isSome_parent (hi : t.Insertable p before c) : (t.kind? (some p)).isSome := by
  obtain ⟨k, hk, -⟩ := hi.container
  simp [hk]

theorem isSome_child (hi : t.Insertable p before c) : (t.kind? (some c)).isSome := by
  obtain ⟨k, hk, -⟩ := hi.child
  simp [hk]

theorem isSome_point (hi : t.Insertable p before c) {b : NodeId} (hb : before = some b) :
    (t.kind? (some b)).isSome :=
  kind?_isSome_of_parent (hi.point b hb).1

/-- The child in front of the gap is a child of the same node. -/
theorem parent_of_childBefore (h : t.WellFormed) (hi : t.Insertable p before c) {s : NodeId}
    (hs : t.childBefore p before = some s) : t.parent (some s) = some p := by
  cases hb : before with
  | none =>
    rw [hb] at hs
    exact (h.lastChild_eq_some_iff.mp hs).1
  | some b =>
    rw [hb] at hs
    rw [(h.nextSibling_of_prevSibling hs).2]
    exact (hi.point b hb).1

/-- The gap splits the children into those before it and those after it. -/
theorem exists_split (h : t.WellFormed) (hi : t.Insertable p before c) :
    ∃ xs ys, t.childIds (some p) = xs ++ ys ∧ t.childBefore p before = xs.getLast? ∧
      before = ys.head? := by
  cases hb : before with
  | none =>
    exact ⟨t.childIds (some p), [], by simp, (h.childList p).lastChild_eq, rfl⟩
  | some b =>
    obtain ⟨xs, ys, hl, hpr, -⟩ := h.exists_split (hi.point b hb).1
    exact ⟨xs, b :: ys, hl, hpr, rfl⟩

end Insertable

section Link

variable (hi : t.Insertable p before c)
include hi

theorem firstChild_link : (t.link p c before).firstChild (some q) =
    if t.childBefore p before = none ∧ q = p then some c else t.firstChild (some q) := by
  rw [link, firstChild_linkBefore, firstChild_linkAfter (by simpa using hi.isSome_parent),
    firstChild_place]

theorem lastChild_link : (t.link p c before).lastChild (some q) =
    if before = none ∧ q = p then some c else t.lastChild (some q) := by
  rw [link, lastChild_linkBefore (by simpa using hi.isSome_parent), lastChild_linkAfter,
    lastChild_place]

theorem prevSibling_link_self :
    (t.link p c before).prevSibling (some c) = t.childBefore p before := by
  rw [link, prevSibling_linkBefore (by simpa using fun b => hi.isSome_point), if_neg,
    prevSibling_linkAfter, prevSibling_place hi.isSome_child, if_pos rfl]
  exact fun he => (hi.point c he).2 rfl

variable (h : t.WellFormed) (hc : t.parent (some c) = none)
include h hc

theorem nextSibling_link_self : (t.link p c before).nextSibling (some c) = before := by
  have hs : ∀ s, t.childBefore p before = some s → (t.kind? (some s)).isSome :=
    fun s => h.isSome_of_childBefore
  rw [link, nextSibling_linkBefore, nextSibling_linkAfter (by simpa using hs), if_neg,
    nextSibling_place hi.isSome_child, if_pos rfl]
  intro he
  simpa [hc] using hi.parent_of_childBefore h he

/-- **The children after a node was put in**: it stands in the gap. -/
theorem childList_link {xs ys : List NodeId} (hl : t.childIds (some p) = xs ++ ys)
    (hx : t.childBefore p before = xs.getLast?) (hy : before = ys.head?) :
    (t.link p c before).ChildList p (xs ++ c :: ys) := by
  have hcl := h.childList p
  rw [hl] at hcl
  have hne : ∀ d ∈ xs ++ ys, d ≠ c := by
    rintro d hd rfl
    simpa [hc] using (hcl.mem_iff d).mp hd
  -- forward, `c` stands between `xs` and `ys`
  have hforward : Path (t.link p c before).nextSibling ((t.link p c before).firstChild (some p))
      (xs ++ c :: ys) none := by
    have hf := hcl.forward.insert ((nextSibling_link_self hi h hc).trans hy) fun d hd => by
      rw [h.nextSibling_link hi.isSome_child (hne d hd), hx]
    rw [firstChild_link hi, hx]
    simpa using hf
  -- backward, it stands between the two reversed lists
  have hbackward : Path (t.link p c before).prevSibling ((t.link p c before).lastChild (some p))
      (ys.reverse ++ c :: xs.reverse) none := by
    have hb := hcl.backward
    rw [List.reverse_append] at hb
    have hb := hb.insert ((prevSibling_link_self hi).trans (hx.trans List.head?_reverse.symm))
      fun d hd => by
        rw [prevSibling_link hi.isSome_child (fun b => hi.isSome_point)
          (hne d (by simpa [or_comm] using hd)), List.getLast?_reverse, hy]
    have hyn : before = none ↔ ys = [] := by rw [hy, List.head?_eq_none_iff]
    rw [lastChild_link hi]
    simpa [hyn] using hb
  refine ⟨hforward, by simpa using hbackward, hforward.nodup, fun d => ?_⟩
  rw [parent_link hi.isSome_child]
  by_cases hd : d = c
  · simp [hd]
  · rw [if_neg (by simpa using hd), ← hcl.mem_iff d]
    simp [hd]

/-- The children of every other node stay. -/
theorem childList_link_of_ne (hq : q ≠ p) :
    (t.link p c before).ChildList q (t.childIds (some q)) := by
  have hcl := h.childList q
  have hparent : ∀ d ∈ t.childIds (some q), t.parent (some d) = some q :=
    fun d => (hcl.mem_iff d).mp
  have hne : ∀ d ∈ t.childIds (some q), d ≠ c := by
    rintro d hd rfl
    simpa [hc] using hparent d hd
  -- the links across the gap are those of children of `p`
  have hqp : some q ≠ some p := by simpa using hq
  refine ⟨?_, ?_, hcl.nodup, fun d => ?_⟩
  · rw [firstChild_link hi, if_neg (fun he => hq he.2)]
    refine hcl.forward.congr fun d hd => ?_
    rw [h.nextSibling_link hi.isSome_child (hne d hd), if_neg]
    exact fun he => hqp ((hparent d hd).symm.trans (hi.parent_of_childBefore h he))
  · rw [lastChild_link hi, if_neg (fun he => hq he.2)]
    refine hcl.backward.congr fun d hd => ?_
    have hd := List.mem_reverse.mp hd
    rw [prevSibling_link hi.isSome_child (fun b => hi.isSome_point) (hne d hd), if_neg]
    exact fun he => hqp ((hparent d hd).symm.trans (hi.point d he).1)
  · rw [parent_link hi.isSome_child, hcl.mem_iff d]
    by_cases hd : d = c
    · simp [hd, hc, Ne.symm hq]
    · rw [if_neg (by simpa using hd)]

/-- **Putting a node in keeps a tree well formed.** -/
theorem WellFormed.link : (t.link p c before).WellFormed := by
  have hchildren : ∀ q, ∃ l, (t.link p c before).ChildList q l := by
    intro q
    by_cases hq : q = p
    · subst hq
      obtain ⟨xs, ys, hl, hx, hy⟩ := hi.exists_split h
      exact ⟨xs ++ c :: ys, childList_link hi h hc hl hx hy⟩
    · exact ⟨_, childList_link_of_ne hi h hc hq⟩
  have hparent : ∀ d, d ≠ c → (t.link p c before).parent (some d) = t.parent (some d) := by
    intro d hd
    rw [parent_link hi.isSome_child, if_neg (by simpa using hd)]
  have hself : (t.link p c before).parent (some c) = some p := by
    rw [parent_link hi.isSome_child, if_pos rfl]
  have horphan : ∀ d, (t.link p c before).parent (some d) = none →
      (t.link p c before).prevSibling (some d) = none ∧
        (t.link p c before).nextSibling (some d) = none := by
    intro d hd
    by_cases hdc : d = c
    · subst hdc
      simp [hself] at hd
    rw [hparent d hdc] at hd
    rw [prevSibling_link hi.isSome_child (fun b => hi.isSome_point) hdc,
      h.nextSibling_link hi.isSome_child hdc, if_neg, if_neg]
    · exact h.orphan d hd
    · intro he
      simpa [hd] using hi.parent_of_childBefore h he
    · intro he
      simpa [hd] using (hi.point d he).1
  refine ⟨?_, isSome_of_mem_links hchildren horphan, hchildren, horphan, ?_, ?_, ?_⟩
  · simpa using h.document_iff
  · intro q k hk hkc
    rw [kind?_link] at hk
    have hq : q ≠ p := by
      rintro rfl
      obtain ⟨k', hk', hkc'⟩ := hi.container
      obtain rfl : k = k' := Option.some.inj (hk.symm.trans hk')
      simp [hkc] at hkc'
    rw [firstChild_link hi, lastChild_link hi, if_neg (fun he => hq he.2),
      if_neg (fun he => hq he.2)]
    exact h.childless q k hk hkc
  · intro d k hk hkr
    rw [kind?_link] at hk
    have hd : d ≠ c := by
      rintro rfl
      obtain ⟨k', hk', hkr'⟩ := hi.child
      obtain rfl : k = k' := Option.some.inj (hk.symm.trans hk')
      simp [hkr] at hkr'
    rw [hparent d hd]
    exact h.rootless d k hk hkr
  · -- upwards, only the link of `c` is new, and the chain above `p` does not meet `c`
    intro r
    obtain ⟨l, hl⟩ := h.acyclic r
    obtain ⟨m, hm, hcm⟩ := hi.above
    refine hl.exists_of_change (c := c) ⟨m, ?_⟩ hparent
    rw [hself]
    exact hm.congr fun d hd => hparent d fun he => hcm (he ▸ hd)

end Link

/-! ## Moving nodes -/

theorem parent_move {r : NodeRef} (hi : t.Insertable p before c) :
    (t.move p before c).parent r = if r = some c then some p else t.parent r := by
  rw [move, parent_link (by simpa using hi.isSome_child), parent_unlink]
  split <;> rfl

@[simp] theorem kind?_move {r : NodeRef} : (t.move p before c).kind? r = t.kind? r := by
  simp [move]

namespace Insertable

/-- What may be moved may also be put in after it was taken out. -/
theorem unlink (hi : t.Insertable p before c) : (t.unlink c).Insertable p before c := by
  obtain ⟨l, hl, hcl⟩ := hi.above
  refine ⟨by simpa using hi.container, by simpa using hi.child, fun b hb => ?_, l, ?_, hcl⟩
  · obtain ⟨hp, hbc⟩ := hi.point b hb
    rw [parent_unlink, if_neg (by simpa using hbc)]
    exact ⟨hp, hbc⟩
  · refine hl.congr fun d hd => ?_
    rw [parent_unlink, if_neg]
    rintro he
    exact hcl (Option.some.inj he ▸ hd)

/-- Moving one node leaves the others movable to the same place. -/
theorem move (hi : t.Insertable p before c) (hd : t.Insertable p before d) :
    (t.move p before c).Insertable p before d := by
  obtain ⟨l, hl, hcl⟩ := hi.above
  obtain ⟨m, hm, hdm⟩ := hd.above
  obtain rfl : l = m := hl.unique hm
  refine ⟨by simpa using hd.container, by simpa using hd.child, fun b hb => ?_, l, ?_, hdm⟩
  · rw [parent_move hi, if_neg (by simpa using (hi.point b hb).2)]
    exact hd.point b hb
  · refine hl.congr fun e he => ?_
    rw [parent_move hi, if_neg]
    intro hec
    exact hcl (Option.some.inj hec ▸ he)

end Insertable

namespace WellFormed

/-- **Moving a node keeps a tree well formed.** -/
theorem move (h : t.WellFormed) (hi : t.Insertable p before c) :
    (t.move p before c).WellFormed := by
  refine WellFormed.link hi.unlink (h.unlink c) ?_
  rw [parent_unlink, if_pos rfl]

/-- Moving nodes to one place, one after the other, keeps a tree well formed. -/
theorem foldl_move (h : t.WellFormed) {ids : List NodeId}
    (hi : ∀ id ∈ ids, t.Insertable p before id) :
    (ids.foldl (fun t id => t.move p before id) t).WellFormed := by
  induction ids generalizing t with
  | nil => exact h
  | cons id ids ih =>
    have hid := hi id List.mem_cons_self
    exact ih (h.move hid) fun d hd => hid.move (hi d (List.mem_cons_of_mem id hd))

end WellFormed

end WebPage.Tree
