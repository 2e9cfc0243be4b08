import WebPage.Proofs.Tree.Bounds
import WebPage.Proofs.Tree.Connected
import WebPage.Proofs.Tree.Order

/-!
# Writing the text of a node

A text takes the place of all children of a container. The children are taken out one after the
other, and each of these steps changes links of the next child; what counts is the tree at the end.
In a well-formed tree a node is known from what it holds, its parent, its children and the children
of its parent, so it is enough to follow the lists of children through the steps.

## Main definitions

* `Tree.Replaced`: other nodes are in the place of the children of a node
* `Tree.PrecedesBelow`, `Tree.TextsInOrder`: the texts below a node, in document order

## Main results

* `node?_congr`: when a node is the same in two trees
* `replaced_foldl_unlink`, `Replaced.grown`: the children taken out, and a fresh one put in
* `Replaced.below`: what is below a former child stays
* `exists_textsInOrder`: the text of a container is made of the texts below it
* `setTextContent_replaces`: what writing a text does, and that it fails for a missing node only
-/

namespace WebPage

/-- A text or a comment with other characters. -/
def NodeData.withText (data : NodeData) (s : String) : NodeData :=
  match data with
  | .text _ => .text s
  | .comment _ => .comment s
  | data => data

namespace Tree

variable {t t₁ t' : Tree} {p q c x : NodeId} {r : NodeRef} {n : Node} {ids new : List NodeId}
  {text : String}

/-! ## Nodes and lists of children -/

/-- A node is what it holds and its links. -/
theorem node?_eq_some_of_links (hdata : t.data? r = some n.data) (hparent : t.parent r = n.parent)
    (hfirst : t.firstChild r = n.firstChild) (hlast : t.lastChild r = n.lastChild)
    (hprev : t.prevSibling r = n.prevSibling) (hnext : t.nextSibling r = n.nextSibling) :
    t.node? r = some n := by
  obtain ⟨m, hm, hd⟩ := Option.map_eq_some_iff.mp hdata
  simp only [parent, firstChild, lastChild, prevSibling, nextSibling, hm, Option.bind_some] at *
  cases m
  cases n
  simp_all

section Congr

variable (h : t.WellFormed) (h' : t'.WellFormed)
include h h'

theorem ends_congr (hc : t'.childIds (some x) = t.childIds (some x)) :
    t'.firstChild (some x) = t.firstChild (some x) ∧
      t'.lastChild (some x) = t.lastChild (some x) := by
  rw [(h.childList x).firstChild_eq, (h.childList x).lastChild_eq, (h'.childList x).firstChild_eq,
    (h'.childList x).lastChild_eq, hc]
  exact ⟨rfl, rfl⟩

/-- The siblings of a node are read off the children of its parent. -/
theorem siblings_congr (hp : t'.parent (some x) = t.parent (some x))
    (hs : ∀ q, t.parent (some x) = some q → t'.childIds (some q) = t.childIds (some q)) :
    t'.prevSibling (some x) = t.prevSibling (some x) ∧
      t'.nextSibling (some x) = t.nextSibling (some x) := by
  cases hq : t.parent (some x) with
  | none =>
    obtain ⟨hprev, hnext⟩ := h.orphan x hq
    obtain ⟨hprev', hnext'⟩ := h'.orphan x (hp.trans hq)
    exact ⟨hprev'.trans hprev.symm, hnext'.trans hnext.symm⟩
  | some q =>
    obtain ⟨xs, ys, hl, hprev, hnext⟩ := h.exists_split hq
    have hc := h'.childList q
    rw [hs q hq, hl] at hc
    exact ⟨hc.prevSibling_eq.trans hprev.symm, hc.nextSibling_eq.trans hnext.symm⟩

/-- **When a node is the same in two trees**: it holds the same, and has the same parent, the same
children and the same siblings. -/
theorem node?_congr (hd : t'.data? (some x) = t.data? (some x))
    (hp : t'.parent (some x) = t.parent (some x))
    (hc : t'.childIds (some x) = t.childIds (some x))
    (hs : ∀ q, t.parent (some x) = some q → t'.childIds (some q) = t.childIds (some q)) :
    t'.node? (some x) = t.node? (some x) := by
  cases hn : t.node? (some x) with
  | none => exact Option.map_eq_none_iff.mp (hd.trans (by rw [data?, hn]; rfl))
  | some n =>
    obtain ⟨hfirst, hlast⟩ := ends_congr h h' hc
    obtain ⟨hprev, hnext⟩ := siblings_congr h h' hp hs
    apply node?_eq_some_of_links
    · rw [hd, data?, hn]
      rfl
    · rw [hp, parent, hn, Option.bind_some]
    · rw [hfirst, firstChild, hn, Option.bind_some]
    · rw [hlast, lastChild, hn, Option.bind_some]
    · rw [hprev, prevSibling, hn, Option.bind_some]
    · rw [hnext, nextSibling, hn, Option.bind_some]

end Congr

/-! ## Other nodes in the place of the children -/

/-- The tree `t'` is `t` with the nodes `new` in the place of the children of `p`. Each former child
has lost its parent and its siblings, and nothing else has changed. -/
structure Replaced (t : Tree) (p : NodeId) (new : List NodeId) (t' : Tree) : Prop where
  wellFormed : t'.WellFormed
  size : t'.size = t.size + new.length
  children : t'.childIds (some p) = new
  children_of_ne : ∀ q < t.size, q ≠ p → t'.childIds (some q) = t.childIds (some q)
  container : ∀ n, t.node? (some p) = some n →
    t'.node? (some p) = some { n with firstChild := new.head?, lastChild := new.getLast? }
  former : ∀ c ∈ t.childIds (some p), ∀ n, t.node? (some c) = some n →
    t'.node? (some c) = some { n with parent := none, prevSibling := none, nextSibling := none }
  others : ∀ x < t.size, x ≠ p → x ∉ t.childIds (some p) → t'.node? (some x) = t.node? (some x)

theorem parent_foldl_unlink :
    (ids.foldl unlink t).parent (some x) = if x ∈ ids then none else t.parent (some x) := by
  induction ids generalizing t with
  | nil => rfl
  | cons id ids ih =>
    rw [List.foldl_cons, ih, parent_unlink]
    by_cases hx : x = id <;> simp [hx]

/-- **Every list of children loses the nodes that are taken out.** -/
theorem childIds_foldl_unlink (h : t.WellFormed) :
    (ids.foldl unlink t).childIds (some q) = (t.childIds (some q)).filter (· ∉ ids) := by
  induction ids generalizing t with
  | nil => exact (List.filter_eq_self.mpr fun x _ => by simp).symm
  | cons id ids ih =>
    rw [List.foldl_cons, ih (h.unlink id), (h.childList_unlink id q).childIds_eq,
      List.filter_filter]
    refine List.filter_congr fun x _ => ?_
    by_cases hx : x = id <;> simp [hx]

/-- **All children of a node taken out.** -/
theorem replaced_foldl_unlink (h : t.WellFormed) (p : NodeId) :
    t.Replaced p [] ((t.childIds (some p)).foldl unlink t) := by
  have hwf := h.foldl_unlink (t.childIds (some p))
  have hself : ((t.childIds (some p)).foldl unlink t).childIds (some p) = [] := by
    rw [childIds_foldl_unlink h]
    simp
  -- a child of another node is no child of `p`
  have hlist : ∀ q, q ≠ p →
      ((t.childIds (some p)).foldl unlink t).childIds (some q) = t.childIds (some q) := by
    intro q hq
    rw [childIds_foldl_unlink h]
    refine List.filter_eq_self.mpr fun x hx => decide_eq_true fun hxp => hq ?_
    exact Option.some.inj ((h.mem_childIds_iff.mp hx).symm.trans (h.mem_childIds_iff.mp hxp))
  have hparent : ∀ x, x ∉ t.childIds (some p) →
      ((t.childIds (some p)).foldl unlink t).parent (some x) = t.parent (some x) := by
    intro x hx
    rw [parent_foldl_unlink, if_neg hx]
  -- so the siblings of a node that is no child of `p` stay
  have hfamily : ∀ x, x ∉ t.childIds (some p) → ∀ q, t.parent (some x) = some q →
      ((t.childIds (some p)).foldl unlink t).childIds (some q) = t.childIds (some q) := by
    intro x hx q hq
    refine hlist q ?_
    rintro rfl
    exact hx (h.mem_childIds_iff.mpr hq)
  refine ⟨hwf, ?_, hself, fun q _ => hlist q, fun n hn => ?_, fun c hc n hn => ?_,
    fun x _ hxp hx => ?_⟩
  · refine size_eq_of_kind? (funext fun r => ?_)
    rw [kind?_eq_data?, kind?_eq_data?, data?_foldl_unlink]
  · have hp : p ∉ t.childIds (some p) := fun hc => h.ne_of_mem_childIds hc rfl
    obtain ⟨hprev, hnext⟩ := siblings_congr h hwf (hparent p hp) (hfamily p hp)
    apply node?_eq_some_of_links
    · rw [data?_foldl_unlink, data?, hn]
      rfl
    · rw [hparent p hp, parent, hn, Option.bind_some]
    · rw [(hwf.childList p).firstChild_eq, hself]
    · rw [(hwf.childList p).lastChild_eq, hself]
    · rw [hprev, prevSibling, hn, Option.bind_some]
    · rw [hnext, nextSibling, hn, Option.bind_some]
  · have horphan : ((t.childIds (some p)).foldl unlink t).parent (some c) = none := by
      rw [parent_foldl_unlink, if_pos hc]
    obtain ⟨hfirst, hlast⟩ := ends_congr h hwf (hlist c (h.ne_of_mem_childIds hc))
    obtain ⟨hprev, hnext⟩ := hwf.orphan c horphan
    apply node?_eq_some_of_links
    · rw [data?_foldl_unlink, data?, hn]
      rfl
    · exact horphan
    · rw [hfirst, firstChild, hn, Option.bind_some]
    · rw [hlast, lastChild, hn, Option.bind_some]
    · exact hprev
    · exact hnext
  · exact node?_congr h hwf data?_foldl_unlink (hparent x hx) (hlist x hxp) (hfamily x hx)

namespace Replaced

/-- **A fresh child where there was none left.** -/
theorem grown (hr : t.Replaced p [] t₁) (hp : p < t.size) (hg : t₁.Grown p [t.size] t')
    (hsize : t'.size = t.size + 1) (h : t.WellFormed) : t.Replaced p [t.size] t' := by
  have hlt : ∀ q, q < t.size → q < t₁.size := fun q hq => by rwa [hr.size]
  have hends : t₁.lastChild (some p) = none := by
    rw [(hr.wellFormed.childList p).lastChild_eq, hr.children]
    rfl
  have hold : ∀ q, q < t.size → q ≠ p → t'.node? (some q) = t₁.node? (some q) := by
    intro q hq hqp
    rw [hg.node q (hlt q hq), hends,
      funext (Node.grown_of_ne hqp (Option.some_ne_none q).symm [t.size]), Option.map_id']
  refine ⟨hg.wellFormed, hsize, by rw [hg.children, hr.children]; rfl, fun q hq hqp => ?_,
    fun n hn => ?_, fun c hc n hn => ?_, fun x hx hxp hxc => ?_⟩
  · rw [hg.children_of_ne q (hlt q hq) hqp, hr.children_of_ne q hq hqp]
  · rw [hg.node p (hlt p hp), hends, hr.container n hn]
    simp [Node.grown]
  · rw [hold c (h.lt_size_of_mem_childIds hc) (h.ne_of_mem_childIds hc), hr.former c hc n hn]
  · rw [hold x hx hxp, hr.others x hx hxp hxc]

/-- **What is below a former child stays**: the same nodes, with all their links. -/
theorem below (h : t.WellFormed) (hr : t.Replaced p new t') (hc : c ∈ t.childIds (some p)) :
    t'.descendants (some c) = t.descendants (some c) ∧
      ∀ x ∈ t.descendants (some c), t'.node? (some x) = t.node? (some x) := by
  have hclt := h.lt_size_of_mem_childIds hc
  have hout : ∀ x ∈ t.descendants (some c), x < t.size ∧ x ≠ p ∧ x ∉ t.childIds (some p) := by
    intro x hx
    have hcx : t.contains (some c) (some x) = true :=
      h.contains_iff_mem_descendants.mpr (.inr hx)
    refine ⟨h.lt_size_of_mem_descendants hx, ?_, fun hxp => ?_⟩
    · rintro rfl
      exact h.not_contains_parent hc hcx
    · obtain rfl := h.eq_of_contains_both hc hxp hcx (contains_self t x)
      exact (List.nodup_cons.mp (h.nodup_cons_descendants c)).1 hx
  have hnode : ∀ x ∈ t.descendants (some c), t'.node? (some x) = t.node? (some x) := by
    intro x hx
    obtain ⟨hlt, hxp, hxc⟩ := hout x hx
    exact hr.others x hlt hxp hxc
  have hagree : AgreeBelow t t' c := by
    intro y hy
    rcases h.contains_iff_mem_descendants.mp hy with rfl | hy
    · refine ⟨?_, hr.children_of_ne y hclt (h.ne_of_mem_childIds hc)⟩
      obtain ⟨n, hn⟩ := exists_node_of_kind? (kind?_isSome_iff.mpr hclt)
      rw [label?, label?, hn, hr.former y hc n hn]
      rfl
    · obtain ⟨hlt, hyp, -⟩ := hout y hy
      exact ⟨by rw [label?, label?, hnode y hy], hr.children_of_ne y hlt hyp⟩
  exact ⟨hagree.descendants_eq h hr.wellFormed, hnode⟩

end Replaced

/-! ## The texts below a node -/

/-- Document order below `x`: the path of child indices from `x` to `a` comes before the one to `b`
in lexicographic order. -/
def PrecedesBelow (t : Tree) (x a b : NodeId) : Prop :=
  ∃ path path', t.nodeAt x path = some a ∧ t.nodeAt x path' = some b ∧ path < path'

/-- The text nodes below `x` with their texts, in document order. -/
structure TextsInOrder (t : Tree) (x : NodeId) (texts : List (NodeId × String)) : Prop where
  mem_iff : ∀ y s, (y, s) ∈ texts ↔ t.Above x y ∧ t.data? (some y) = some (.text s)
  ordered : texts.Pairwise fun a b => t.PrecedesBelow x a.1 b.1

theorem textContent_of_isContainer (hn : t.node? r = some n) (hc : n.isContainer = true) :
    t.textContent r = .ok (String.join (t.textsBelow r)) := by
  rw [textContent_of_label? (label?_of_node? hn)]
  obtain ⟨data, _⟩ := n
  cases data with
  | text s => cases hc
  | comment s => cases hc
  | _ => rfl

/-- **The text of a container is made of the texts below it**, in document order. -/
theorem exists_textsInOrder (h : t.WellFormed) (hn : t.node? (some x) = some n)
    (hc : n.isContainer = true) :
    ∃ texts, t.TextsInOrder x texts ∧
      t.textContent (some x) = .ok (String.join (texts.map Prod.snd)) := by
  have htext : ∀ y s, (t.node? (some y)).bind Node.text? = some s ↔
      t.data? (some y) = some (.text s) := by
    intro y s
    rw [data?]
    cases t.node? (some y) with
    | none => simp
    | some m =>
      obtain ⟨data, _⟩ := m
      cases data <;> simp [Node.text?]
  refine ⟨(t.descendants (some x)).filterMap fun y =>
    ((t.node? (some y)).bind Node.text?).map (Prod.mk y), ⟨fun y s => ?_, ?_⟩, ?_⟩
  · rw [h.above_iff, ← h.mem_descendants_iff, ← htext]
    simp only [List.mem_filterMap, Option.map_eq_some_iff, Prod.mk.injEq]
    constructor
    · rintro ⟨_, hy, _, hs, rfl, rfl⟩
      exact ⟨hy, hs⟩
    · rintro ⟨hy, hs⟩
      exact ⟨y, hy, s, hs, rfl, rfl⟩
  · refine List.Pairwise.filterMap _ ?_ (List.pairwise_cons.mp (h.pairwise_nodeAt x)).2
    intro a b hab a' ha' b' hb'
    obtain ⟨_, -, rfl⟩ := Option.map_eq_some_iff.mp ha'
    obtain ⟨_, -, rfl⟩ := Option.map_eq_some_iff.mp hb'
    exact hab
  · rw [textContent_of_isContainer hn hc, List.map_filterMap, textsBelow]
    simp [Option.map_map, Function.comp_def]

/-! ## Writing the text of a node -/

theorem setTextContent_of_isContainer (hn : t.node? (some p) = some n)
    (hc : n.isContainer = true) (text : String) :
    t.setTextContent (some p) text =
      if text = "" then .ok ((t.childIds (some p)).foldl unlink t)
      else (((t.childIds (some p)).foldl unlink t).add (.text text)).2.appendChild (some p)
        (some ((t.childIds (some p)).foldl unlink t).size) := by
  obtain ⟨data, _⟩ := n
  unfold setTextContent removeChildren
  rw [node_eq_ok.mpr hn]
  simp only [← String.isEmpty_iff]
  cases data with
  | text s => cases hc
  | comment s => cases hc
  | _ => rfl

/-- **A text takes the place of the children of a container.** No check fails once they are gone. -/
theorem exists_setTextContent (h : t.WellFormed) (hn : t.node? (some p) = some n)
    (hc : n.isContainer = true) (text : String) :
    ∃ t', t.setTextContent (some p) text = .ok t' ∧
      t.Replaced p (if text = "" then [] else [t.size]) t' ∧
      (text ≠ "" → t'.node? (some t.size) = some { data := .text text, parent := some p }) := by
  have hr := replaced_foldl_unlink h p
  rw [setTextContent_of_isContainer hn hc]
  by_cases htext : text = ""
  · simp only [if_pos htext]
    exact ⟨_, rfl, hr, fun hne => absurd htext hne⟩
  · simp only [if_neg htext]
    have hp : p < t.size := kind?_isSome_iff.mp (by rw [kind?_of_node? hn]; rfl)
    generalize (t.childIds (some p)).foldl unlink t = emptied at hr ⊢
    have hsize : emptied.size = t.size := hr.size
    have hlast : emptied.lastChild (some p) = none := by
      rw [(hr.wellFormed.childList p).lastChild_eq, hr.children]
      rfl
    have hkind := kind?_of_node? (hr.container n hn)
    have hk : ∃ k, emptied.kind? (some p) = some k ∧ k.isContainer = true :=
      ⟨_, hkind, (Node.isContainer_eq n).symm.trans hc⟩
    have hg : emptied.Grown p [emptied.size]
        ((emptied.add (.text text)).2.link p emptied.size none) :=
      grown_link_add hr.wellFormed hk rfl
    have hnew : ((emptied.add (.text text)).2.link p emptied.size none).node?
        (some emptied.size) = some { data := .text text, parent := some p } := by
      rw [node?_link_add_self hr.wellFormed hk, hlast]
    have happend := appendChild_add hr.wellFormed hk
      (rfl : (NodeData.text text).kind.isRoot = false)
    rw [hsize] at hg hnew happend ⊢
    exact ⟨_, happend, hr.grown hp hg (by rw [size_link, size_add, hsize]) h, fun _ => hnew⟩

/-- The text that was written below a container is the text of the container. -/
theorem Replaced.textContent_eq (hr : t.Replaced p (if text = "" then [] else [t.size]) t')
    (hn : t'.node? (some p) = some n) (hc : n.isContainer = true)
    (hnew : text ≠ "" → t'.node? (some t.size) = some { data := .text text, parent := some p }) :
    t'.textContent (some p) = .ok text := by
  have hbelow := hr.wellFormed.descendants_eq_flatMap p
  rw [hr.children] at hbelow
  rw [textContent_of_isContainer hn hc, textsBelow, hbelow]
  by_cases htext : text = ""
  · rw [if_pos htext, htext]
    rfl
  · -- the fresh text has nothing below it
    have hnode := hnew htext
    have hnil : t'.childIds (some t.size) = [] := by
      have hfirst := (hr.wellFormed.childList t.size).firstChild_eq
      rw [firstChild, hnode] at hfirst
      exact List.head?_eq_none_iff.mp hfirst.symm
    have hleaf : t'.descendants (some t.size) = [] := by
      rw [hr.wellFormed.descendants_eq_flatMap, hnil]
      rfl
    rw [if_neg htext, List.flatMap_singleton, hleaf, List.filterMap_cons, hnode]
    simp [Node.text?, String.join]

/-- **Writing the text of a text or a comment** changes what this one node holds. -/
theorem setTextContent_of_not_isContainer (hn : t.node? r = some n) (hc : n.isContainer = false)
    (text : String) :
    ∃ t', t.setTextContent r text = .ok t' ∧ t'.textContent r = .ok text ∧ t'.size = t.size ∧
      ∀ x, t'.node? x = if x = r then some { n with data := n.data.withText text }
        else t.node? x := by
  cases r with
  | none => cases hn
  | some id =>
    have hset : t.setTextContent (some id) text = .ok (t.setData id (n.data.withText text)) := by
      obtain ⟨data, _⟩ := n
      unfold setTextContent
      rw [node_eq_ok.mpr hn]
      cases data with
      | text s => rfl
      | comment s => rfl
      | _ => cases hc
    have hnode : ∀ x, (t.setData id (n.data.withText text)).node? x =
        if x = some id then some { n with data := n.data.withText text } else t.node? x := by
      intro x
      rw [setData, node?_modify]
      split
      next hx => rw [hx, hn]; rfl
      next => rfl
    refine ⟨_, hset, ?_, size_modify, hnode⟩
    have hself := hnode (some id)
    rw [if_pos rfl] at hself
    rw [textContent_of_label? (label?_of_node? hself)]
    obtain ⟨data, _⟩ := n
    cases data with
    | text s => rfl
    | comment s => rfl
    | _ => cases hc

/-- **Writing a text** fails for a missing node only, and then nothing has changed, also where the
arena is accessed node by node. Otherwise the text can be read afterwards. A text or a comment
changes what it holds. A container has one fresh text in the place of its children, or nothing if
the text is empty; each former child keeps what is below it; and all other nodes stay. The text of a
container is that of all texts below it in document order. -/
theorem setTextContent_replaces (h : t.WellFormed) (r : NodeRef) (text : String) :
    (t.node? r = none → t.setTextContent r text = .error (.notFound r) ∧
      Arena.setTextContent r text t = .error (.refused (.notFound r)) t) ∧
    (∀ n, t.node? r = some n → ∃ t', t.setTextContent r text = .ok t' ∧
      Arena.setTextContent r text t = .ok () t' ∧ t'.textContent r = .ok text ∧
      (n.isContainer = false → t'.size = t.size ∧ ∀ x, t'.node? x =
        if x = r then some { n with data := n.data.withText text } else t.node? x) ∧
      (n.isContainer = true → ∃ p, r = some p ∧
        t.Replaced p (if text = "" then [] else [t.size]) t' ∧
        (text ≠ "" → t'.node? (some t.size) = some { data := .text text, parent := some p }) ∧
        ∀ c ∈ t.childIds (some p), t'.descendants (some c) = t.descendants (some c) ∧
          ∀ x ∈ t.descendants (some c), t'.node? (some x) = t.node? (some x))) ∧
    ∀ x n, t.node? (some x) = some n → n.isContainer = true → ∃ texts, t.TextsInOrder x texts ∧
      t.textContent (some x) = .ok (String.join (texts.map Prod.snd)) := by
  have hrun := Arena.setTextContent_realizes h r text
  refine ⟨fun hn => ?_, fun n hn => ?_, fun x n hn hc => exists_textsInOrder h hn hc⟩
  · have hfail : t.setTextContent r text = .error (.notFound r) := by
      unfold setTextContent node
      rw [hn]
      rfl
    exact ⟨hfail, hrun.error _ (by rw [hfail]; rfl)⟩
  · cases hc : n.isContainer with
    | false =>
      obtain ⟨t', hset, htext, hframe⟩ := setTextContent_of_not_isContainer hn hc text
      exact ⟨t', hset, hrun.ok () t' (by rw [hset]; rfl), htext, fun _ => hframe, nofun⟩
    | true =>
      cases r with
      | none => cases hn
      | some p =>
        obtain ⟨t', hset, hr, hnew⟩ := exists_setTextContent h hn hc text
        exact ⟨t', hset, hrun.ok () t' (by rw [hset]; rfl),
          hr.textContent_eq (hr.container n hn) hc hnew, nofun,
          fun _ => ⟨p, rfl, hr, hnew, fun c hc => hr.below h hc⟩⟩

/-- `body` has two children, and a text comes in their place. -/
theorem setTextContent_replaces_besideFragment :
    besideFragment.WellFormed ∧ besideFragment.childIds (some 3) = [4, 5] ∧
      ∃ t', besideFragment.setTextContent (some 3) "x" = .ok t' ∧
        besideFragment.Replaced 3 [9] t' ∧ t'.textContent (some 3) = .ok "x" := by
  have h := wellFormed_besideFragment
  have hsize : besideFragment.size = 9 := by decide +kernel
  have hbody : (besideFragment.node? (some 3)).map Node.isContainer = some true := by
    decide +kernel
  obtain ⟨n, hn, hc⟩ := Option.map_eq_some_iff.mp hbody
  obtain ⟨t', hset, -, htext, -, hreplaced⟩ := (setTextContent_replaces h (some 3) "x").2.1 n hn
  obtain ⟨_, ⟨⟩, hr, -⟩ := hreplaced hc
  rw [if_neg (by decide), hsize] at hr
  exact ⟨h, by decide +kernel, t', hset, hr, htext⟩

end Tree

end WebPage
