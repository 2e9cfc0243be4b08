import WebPage.Proofs.Tree.Contents
import WebPage.Selector.Matching

/-!
# The walks of a selector

From an element, a selector walks back along its siblings and up along its parents, from one element
to the next. In a well-formed tree these walks are read off the list of children of the parent and
the list of ancestors.

## Main definitions

* `Tree.earlierSiblings`, `Tree.laterSiblings`: the siblings before and after a node

## Main results

* `WellFormed.previousElementSibling_eq`, `WellFormed.nextElementSibling_eq`: the nearest element
  among these
* `candidates_descendant`, `candidates_subsequentSibling`: the elements that the walks of these
  combinators meet
-/

namespace WebPage.Tree

/-- The siblings before a node, the nearest first. -/
def earlierSiblings (t : Tree) (c : NodeId) : List NodeId :=
  ((t.childIds (t.parent (some c))).takeWhile (· != c)).reverse

/-- The siblings after a node, the nearest first. -/
def laterSiblings (t : Tree) (c : NodeId) : List NodeId :=
  ((t.childIds (t.parent (some c))).dropWhile (· != c)).tail

variable {t : Tree} {a c d p : NodeId} {next : NodeRef → NodeRef} {start : NodeRef}
  {l xs ys : List NodeId}

/-! ## Walks that look for nodes of one kind -/

/-- A walk that stops at a node that is not as wanted, where only the last one may be such. -/
theorem Path.filter_of_last (h : Path next start l none) {wanted : NodeId → Bool}
    (hlast : ∀ x ∈ l, wanted x = false → next (some x) = none) :
    Path (fun r => (next r).filter wanted) (start.filter wanted) (l.filter wanted) none := by
  induction l generalizing start with
  | nil =>
    obtain rfl : start = none := h
    rfl
  | cons x l ih =>
    obtain ⟨rfl, h⟩ := h
    cases hx : wanted x with
    | true =>
      rw [List.filter_cons_of_pos hx, Option.filter_some_pos hx]
      exact ⟨rfl, ih h fun y hy => hlast y (List.mem_cons_of_mem x hy)⟩
    | false =>
      -- the walk ends here, and so did the path
      have hnil : l = [] := by
        rw [hlast x List.mem_cons_self hx] at h
        exact h.unique rfl
      rw [hnil, List.filter_cons_of_neg (by simp [hx]), Option.filter_some_neg hx]
      rfl

/-- A walk that goes from each node on to the next one that is as wanted. -/
theorem Path.filter (h : Path next start l none) (wanted : NodeId → Bool) {bound : Nat}
    (hb : l.length ≤ bound) :
    Path (fun r => (chain next bound (next r)).find? wanted) (l.find? wanted) (l.filter wanted)
      none := by
  induction l generalizing start with
  | nil => rfl
  | cons x l ih =>
    obtain ⟨rfl, h⟩ := h
    have hb : l.length ≤ bound := Nat.le_trans (Nat.le_succ _) hb
    by_cases hx : wanted x = true
    · -- from `x`, the search starts again at the node after it
      rw [List.find?_cons_of_pos hx, List.filter_cons_of_pos hx]
      refine ⟨rfl, ?_⟩
      show Path _ ((chain next bound (next (some x))).find? wanted) _ none
      rw [h.chain_eq hb]
      exact ih h hb
    · rw [List.find?_cons_of_neg hx, List.filter_cons_of_neg hx]
      exact ih h hb

/-! ## Siblings -/

/-- A node without parent has no siblings. -/
theorem siblings_of_parent_eq_none (hp : t.parent (some c) = none) :
    t.earlierSiblings c = [] ∧ t.laterSiblings c = [] := by
  have hnil : t.childIds none = [] := by
    rw [childIds]
    cases t.size <;> rfl
  rw [earlierSiblings, laterSiblings, hp, hnil]
  exact ⟨rfl, rfl⟩

namespace WellFormed

/-- A split of a list of children at a node gives its siblings. -/
theorem siblings_of_split (h : t.WellFormed) (hl : t.childIds (some p) = xs ++ c :: ys) :
    t.earlierSiblings c = xs.reverse ∧ t.laterSiblings c = ys := by
  have hp : t.parent (some c) = some p := by
    refine h.mem_childIds_iff.mp ?_
    rw [hl]
    simp
  have hnodup := (h.childList p).nodup
  rw [hl, List.nodup_append] at hnodup
  have hxs : ∀ x ∈ xs, (x != c) = true := fun x hx =>
    bne_iff_ne.mpr (hnodup.2.2 x hx c List.mem_cons_self)
  have hstop : (c :: ys).takeWhile (· != c) = [] ∧ (c :: ys).dropWhile (· != c) = c :: ys := by
    simp
  rw [earlierSiblings, laterSiblings, hp, hl, List.takeWhile_append_of_pos hxs,
    List.dropWhile_append_of_pos hxs, hstop.1, hstop.2, List.append_nil, List.tail_cons]
  exact ⟨rfl, rfl⟩

/-- The children of the parent of a node: those before it, itself, and those after it. -/
theorem childIds_eq_siblings (h : t.WellFormed) (hp : t.parent (some c) = some p) :
    t.childIds (some p) = (t.earlierSiblings c).reverse ++ c :: t.laterSiblings c := by
  obtain ⟨xs, ys, hl, -⟩ := h.exists_split hp
  obtain ⟨hearlier, hlater⟩ := h.siblings_of_split hl
  rw [hearlier, hlater, List.reverse_reverse, hl]

/-- **The links between siblings lead along the siblings before a node and those after it.** -/
theorem path_siblings (h : t.WellFormed) (c : NodeId) :
    Path t.prevSibling (t.prevSibling (some c)) (t.earlierSiblings c) none ∧
      Path t.nextSibling (t.nextSibling (some c)) (t.laterSiblings c) none := by
  cases hp : t.parent (some c) with
  | none =>
    rw [(siblings_of_parent_eq_none hp).1, (siblings_of_parent_eq_none hp).2]
    exact h.orphan c hp
  | some p =>
    have hl := h.childList p
    rw [h.childIds_eq_siblings hp] at hl
    -- read from its end, the list has the siblings before `c` after it, the nearest first
    have hbackward := hl.backward
    rw [List.reverse_append, List.reverse_cons, List.append_assoc, List.reverse_reverse,
      List.singleton_append] at hbackward
    obtain ⟨_, -, rfl, hearlier⟩ := Path.append_iff.mp hbackward
    obtain ⟨_, -, rfl, hlater⟩ := Path.append_iff.mp hl.forward
    exact ⟨hearlier, hlater⟩

theorem length_siblings_le (h : t.WellFormed) (c : NodeId) :
    (t.earlierSiblings c).length ≤ t.size ∧ (t.laterSiblings c).length ≤ t.size := by
  cases hp : t.parent (some c) with
  | none =>
    rw [(siblings_of_parent_eq_none hp).1, (siblings_of_parent_eq_none hp).2]
    exact ⟨Nat.zero_le _, Nat.zero_le _⟩
  | some p =>
    have hlen := (h.childList p).length_le
    rw [h.childIds_eq_siblings hp, List.length_append, List.length_reverse,
      List.length_cons] at hlen
    omega

/-- Siblings have the same parent. -/
theorem parent_of_mem_siblings (h : t.WellFormed)
    (hd : d ∈ t.earlierSiblings c ∨ d ∈ t.laterSiblings c) :
    t.parent (some d) = t.parent (some c) := by
  cases hp : t.parent (some c) with
  | none => simp [siblings_of_parent_eq_none hp] at hd
  | some p =>
    refine h.mem_childIds_iff.mp ?_
    rw [h.childIds_eq_siblings hp]
    simpa using hd.imp_right .inr

/-- **The nearest element before a node among its siblings.** -/
theorem previousElementSibling_eq (h : t.WellFormed) (c : NodeId) :
    t.previousElementSibling (some c) =
      (t.earlierSiblings c).find? fun id => t.isElement (some id) := by
  rw [previousElementSibling, (h.path_siblings c).1.chain_eq (h.length_siblings_le c).1]

/-- **The nearest element after a node among its siblings.** -/
theorem nextElementSibling_eq (h : t.WellFormed) (c : NodeId) :
    t.nextElementSibling (some c) =
      (t.laterSiblings c).find? fun id => t.isElement (some id) := by
  rw [nextElementSibling, (h.path_siblings c).2.chain_eq (h.length_siblings_le c).2]

/-- An ancestor that is no element has no parent: texts and comments have no nodes below them. -/
theorem parent_eq_none_of_ancestor (h : t.WellFormed) (ha : a ∈ t.ancestors (some c))
    (hne : t.isElement (some a) = false) : t.parent (some a) = none := by
  cases hp : t.parent (some a) with
  | none => rfl
  | some p =>
    obtain ⟨label, hl, hw⟩ := h.exists_label_of_parent hp
    have hcontainer : label.isContainer = false := by
      obtain ⟨n, hn, rfl⟩ := Option.map_eq_some_iff.mp hl
      have hne : ((t.node? (some a)).bind Node.element?).isSome = false := hne
      rw [hn, Option.bind_some, Node.element?] at hne
      cases hd : n.data <;> simp [hd, NodeData.label, NodeLabel.isContainer,
        NodeLabel.isWritten] at hne hw ⊢
    have hmem := h.mem_descendants_iff.mpr ha
    rw [h.descendants_eq_flatMap, h.childIds_eq_nil hl hcontainer] at hmem
    cases hmem

end WellFormed

end WebPage.Tree

namespace WebPage.Selector

variable {t : Tree} {id : NodeId}

/-- A compound describes elements only. -/
theorem isElement_of_compound_matches {compound : Compound}
    (h : compound.matches t id = true) : t.isElement (some id) = true := by
  obtain ⟨tag, parts⟩ := compound
  unfold Compound.matches at h
  unfold Tree.isElement
  cases he : t.element? (some id) with
  | none => simp [he] at h
  | some e => rfl

/-- The walk of the descendant combinator goes along the ancestors and ends. -/
theorem path_parentElement (h : t.WellFormed) (id : NodeId) :
    Tree.Path (parentElement t) (parentElement t (some id))
      ((t.ancestors (some id)).filter fun a => t.isElement (some a)) none :=
  (h.path_ancestors (some id)).filter_of_last fun _ ha hne => h.parent_eq_none_of_ancestor ha hne

/-- **Above an element** the descendant combinator meets its ancestors, but for those that are no
elements. -/
theorem candidates_descendant (h : t.WellFormed) (id : NodeId) :
    candidates t .descendant id =
      (t.ancestors (some id)).filter fun a => t.isElement (some a) :=
  (path_parentElement h id).chain_eq (Nat.le_trans (List.length_filter_le _ _)
    (h.length_path_parent_le (h.path_ancestors (some id))))

/-- The walk of the combinator for any sibling before goes along the siblings and ends. -/
theorem path_previousElementSibling (h : t.WellFormed) (id : NodeId) :
    Tree.Path t.previousElementSibling (t.previousElementSibling (some id))
      ((t.earlierSiblings id).filter fun s => t.isElement (some s)) none := by
  rw [h.previousElementSibling_eq]
  exact (h.path_siblings id).1.filter (fun s => t.isElement (some s)) (h.length_siblings_le id).1

/-- **Beside an element** the combinator for any sibling before it meets the elements among
these. -/
theorem candidates_subsequentSibling (h : t.WellFormed) (id : NodeId) :
    candidates t .subsequentSibling id =
      (t.earlierSiblings id).filter fun s => t.isElement (some s) :=
  (path_previousElementSibling h id).chain_eq
    (Nat.le_trans (List.length_filter_le _ _) (h.length_siblings_le id).1)

end WebPage.Selector
