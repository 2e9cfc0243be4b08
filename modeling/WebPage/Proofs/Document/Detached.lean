import Mathlib.Data.List.Find
import WebPage.Document
import WebPage.Proofs.Tree.Connected
import WebPage.Proofs.Tree.Loading

/-!
# Detached content is invisible

Two documents whose connected nodes agree answer alike whatever is asked of their connected part:
selectors, identifiers, landmarks, the title and the markup. It makes no difference what detached
nodes their arenas hold besides, nor which listeners there are.

The tests of a selector look at an element itself, at what stands below it, beside it and above it,
and ask the same of elements there. So they agree by induction on the selector, for all connected
elements at once.

## Main results

* `Selector.candidates_eq`, `Selector.isConnected_of_mem_candidates`: what stands on the left of a
  combinator agrees and is connected
* `Selector.SelectorList.matches_eq`: selectors describe the same connected nodes
* `Document.detached_invisible`: the answers agree
-/

namespace WebPage.Selector

open WebPage.Tree (SameConnected)

variable {t t' : Tree} {x y : NodeId}

section

variable (h : t.WellFormed) (hx : t.isConnected (some x) = true)
include h hx

/-- What stands on the left of a combinator is connected. -/
theorem isConnected_of_mem_candidates {k : Combinator} (hy : y ∈ candidates t k x) :
    t.isConnected (some y) = true := by
  cases k with
  | descendant =>
    rw [candidates_descendant h] at hy
    exact h.isConnected_of_mem_ancestors hx (List.mem_filter.mp hy).1
  | child =>
    have hp := (Option.filter_eq_some_iff.mp (Option.mem_toList.mp hy)).1
    rw [h.isConnected_of_parent hp, hx]
  | nextSibling =>
    have hy : t.previousElementSibling (some x) = some y := Option.mem_toList.mp hy
    rw [h.previousElementSibling_eq] at hy
    exact h.isConnected_of_mem_siblings hx (.inl (List.mem_of_find?_eq_some hy))
  | subsequentSibling =>
    rw [candidates_subsequentSibling h] at hy
    exact h.isConnected_of_mem_siblings hx (.inl (List.mem_filter.mp hy).1)

variable (h' : t'.WellFormed) (hs : SameConnected t t')
include h' hs

theorem previousElementSibling_eq_of_connected :
    t'.previousElementSibling (some x) = t.previousElementSibling (some x) := by
  rw [h.previousElementSibling_eq, h'.previousElementSibling_eq, (hs.siblings_eq hx h h').1]
  exact List.find?_congr fun s hmem =>
    hs.isElement_eq (h.isConnected_of_mem_siblings hx (.inl hmem))

theorem nextElementSibling_eq_of_connected :
    t'.nextElementSibling (some x) = t.nextElementSibling (some x) := by
  rw [h.nextElementSibling_eq, h'.nextElementSibling_eq, (hs.siblings_eq hx h h').2]
  exact List.find?_congr fun s hmem =>
    hs.isElement_eq (h.isConnected_of_mem_siblings hx (.inr hmem))

/-- **What stands on the left of a combinator agrees.** -/
theorem candidates_eq (k : Combinator) : candidates t' k x = candidates t k x := by
  cases k with
  | descendant =>
    rw [candidates_descendant h, candidates_descendant h', hs.ancestors_eq hx h h']
    exact List.filter_congr fun a ha => hs.isElement_eq (h.isConnected_of_mem_ancestors hx ha)
  | child =>
    have hparent : parentElement t' (some x) = parentElement t (some x) := by
      rw [parentElement, parentElement, hs.parent_eq hx]
      cases hp : t.parent (some x) with
      | none => rfl
      | some p =>
        rw [Option.filter_some, Option.filter_some,
          hs.isElement_eq ((h.isConnected_of_parent hp).trans hx)]
    exact congrArg Option.toList hparent
  | nextSibling =>
    exact congrArg Option.toList (previousElementSibling_eq_of_connected h hx h' hs)
  | subsequentSibling =>
    rw [candidates_subsequentSibling h, candidates_subsequentSibling h', (hs.siblings_eq hx h h').1]
    exact List.filter_congr fun s hmem =>
      hs.isElement_eq (h.isConnected_of_mem_siblings hx (.inl hmem))

/-! ## The tests -/

theorem isEmptyNode_eq : isEmptyNode t' (some x) = isEmptyNode t (some x) := by
  have hchild : ∀ c ∈ t.childIds (some x),
      ((t'.node? (some c)).any fun n => !n.isElement && n.text?.all String.isEmpty) =
        (t.node? (some c)).any fun n => !n.isElement && n.text?.all String.isEmpty := by
    intro c hc
    refine hs.any_node?_eq (h.isConnected_of_mem_childIds hx hc) fun n => ?_
    rw [n.isElement_withoutListeners, n.text?_withoutListeners]
  rw [isEmptyNode, isEmptyNode, hs.childIds_eq hx h h', Bool.eq_iff_iff, List.all_eq_true,
    List.all_eq_true]
  exact forall₂_congr fun c hc => by rw [hchild c hc]

/-- Elements that agree up to listeners are in the same states. -/
theorem PseudoClass.holds_eq {e e' : Element} (he : e'.withoutListeners = e.withoutListeners)
    (state : PseudoClass) : state.holds t' x e' = state.holds t x e := by
  have hprev := previousElementSibling_eq_of_connected h hx h' hs
  have hnext := nextElementSibling_eq_of_connected h hx h' hs
  cases state with
  | firstChild => simp only [holds, hs.parent_eq hx, hprev]
  | lastChild => simp only [holds, hs.parent_eq hx, hnext]
  | onlyChild => simp only [holds, hs.parent_eq hx, hprev, hnext]
  | empty => exact isEmptyNode_eq h hx h' hs
  | root => simp only [holds, hs.parent_eq hx]
  | checked =>
    exact Element.congr_of_withoutListeners
      (f := fun e => (e.isCheckable || e.tag == "option") && e.isChecked) (fun _ => rfl) he
  | disabled => exact Element.congr_of_withoutListeners (f := Element.isDisabled) (fun _ => rfl) he
  | enabled =>
    exact Element.congr_of_withoutListeners (f := fun e => e.isFormControl && !e.isDisabled)
      (fun _ => rfl) he

end

-- The induction is on the selector. What a combinator leads to is connected again, so the parts of
-- a chain are met at other connected nodes.
mutual

/-- **A connected node passes the same tests.** -/
theorem Simple.matches_eq (h : t.WellFormed) (h' : t'.WellFormed) (hs : SameConnected t t') :
    ∀ (part : Simple) {x : NodeId} {e e' : Element}, t.isConnected (some x) = true →
      e'.withoutListeners = e.withoutListeners → part.matches t' x e' = part.matches t x e
  | .id name, x, e, e', _, he => by
    rw [Simple.matches, Simple.matches]
    exact Element.congr_of_withoutListeners (f := fun e => e.id? == some name) (fun _ => rfl) he
  | .className token, x, e, e', _, he => by
    rw [Simple.matches, Simple.matches]
    exact Element.congr_of_withoutListeners (f := fun e => e.hasClass token) (fun _ => rfl) he
  | .attribute name test ignoreCase, x, e, e', _, he => by
    have hattributes : e'.attributes = e.attributes :=
      Element.congr_of_withoutListeners (fun _ => rfl) he
    unfold Simple.matches
    rw [hattributes]
  | .pseudo state, x, e, e', hx, he => by
    rw [Simple.matches, Simple.matches]
    exact PseudoClass.holds_eq h hx h' hs he state
  | .not alternatives, x, e, e', hx, _ => by
    rw [Simple.matches, Simple.matches, anyMatches_eq h h' hs alternatives hx]

theorem allMatch_eq (h : t.WellFormed) (h' : t'.WellFormed) (hs : SameConnected t t') :
    ∀ (parts : List Simple) {x : NodeId} {e e' : Element}, t.isConnected (some x) = true →
      e'.withoutListeners = e.withoutListeners → allMatch t' x e' parts = allMatch t x e parts
  | [], x, e, e', _, _ => by rw [allMatch, allMatch]
  | part :: parts, x, e, e', hx, he => by
    rw [allMatch, allMatch, Simple.matches_eq h h' hs part hx he,
      allMatch_eq h h' hs parts hx he]

theorem Compound.matches_eq (h : t.WellFormed) (h' : t'.WellFormed) (hs : SameConnected t t') :
    ∀ (compound : Compound) {x : NodeId}, t.isConnected (some x) = true →
      compound.matches t' x = compound.matches t x
  | .mk tag parts, x, hx => by
    have helement := hs.element?_eq hx
    unfold Compound.matches
    cases he : t.element? (some x) with
    | none =>
      rw [he, Option.map_none, Option.map_eq_none_iff] at helement
      rw [helement]
    | some e =>
      rw [he, Option.map_some, Option.map_eq_some_iff] at helement
      obtain ⟨e', he', hwithout⟩ := helement
      have htag : tagMatches tag e' = tagMatches tag e :=
        Element.congr_of_withoutListeners (fun _ => by cases tag <;> rfl) hwithout
      rw [he']
      show (tagMatches tag e' && allMatch t' x e' parts) =
        (tagMatches tag e && allMatch t x e parts)
      rw [htag, allMatch_eq h h' hs parts hx hwithout]

theorem Complex.matches_eq (h : t.WellFormed) (h' : t'.WellFormed) (hs : SameConnected t t') :
    ∀ (chain : Complex) {x : NodeId}, t.isConnected (some x) = true →
      chain.matches t' x = chain.matches t x
  | .single compound, x, hx => by
    rw [Complex.matches, Complex.matches, Compound.matches_eq h h' hs compound hx]
  | .join left k right, x, hx => by
    -- the elements on the left are connected, so the rest of the chain agrees there
    have hleft : ∀ y ∈ candidates t k x, left.matches t' y = left.matches t y := fun y hy =>
      Complex.matches_eq h h' hs left (isConnected_of_mem_candidates h hx hy)
    have hany : (candidates t k x).any (left.matches t') =
        (candidates t k x).any (left.matches t) := by
      rw [← List.isSome_find?, List.find?_congr hleft, List.isSome_find?]
    rw [Complex.matches, Complex.matches, Compound.matches_eq h h' hs right hx,
      candidates_eq h hx h' hs k, hany]

theorem anyMatches_eq (h : t.WellFormed) (h' : t'.WellFormed) (hs : SameConnected t t') :
    ∀ (chains : List Complex) {x : NodeId}, t.isConnected (some x) = true →
      anyMatches t' x chains = anyMatches t x chains
  | [], x, _ => by rw [anyMatches, anyMatches]
  | chain :: chains, x, hx => by
    rw [anyMatches, anyMatches, Complex.matches_eq h h' hs chain hx,
      anyMatches_eq h h' hs chains hx]

end

/-- **A selector describes the same connected nodes.** -/
theorem SelectorList.matches_eq (h : t.WellFormed) (h' : t'.WellFormed) (hs : SameConnected t t')
    (list : SelectorList) (hx : t.isConnected (some x) = true) :
    list.matches t' x = list.matches t x :=
  anyMatches_eq h h' hs list.alternatives hx

end WebPage.Selector

namespace WebPage.Document

open WebPage.Tree (SameConnected)

variable {d d' : Document} {x y : NodeId}

section

variable (h : d.tree.WellFormed) (h' : d'.tree.WellFormed) (hs : SameConnected d.tree d'.tree)
include h

theorem isConnected_of_mem_nodes (hx : x ∈ d.nodes) : d.tree.isConnected (some x) = true :=
  h.isConnected_of_mem_descendants h.isConnected_documentNode hx

include h' hs

theorem nodes_eq : d'.nodes = d.nodes :=
  (hs.agreeBelow h.isConnected_documentNode h h').descendants_eq h h'

/-! ## Landmarks -/

theorem elementChildren_eq (hx : d.tree.isConnected (some x) = true) :
    d'.tree.elementChildren (some x) = d.tree.elementChildren (some x) := by
  rw [Tree.elementChildren, Tree.elementChildren, hs.childIds_eq hx h h']
  exact List.filter_congr fun c hc => hs.isElement_eq (h.isConnected_of_mem_childIds hx hc)

omit h' hs in
theorem isConnected_of_mem_elementChildren (hx : d.tree.isConnected (some x) = true)
    (hy : y ∈ d.tree.elementChildren (some x)) : d.tree.isConnected (some y) = true :=
  h.isConnected_of_mem_childIds hx (List.mem_filter.mp hy).1

theorem documentElement_eq : d'.documentElement = d.documentElement := by
  rw [documentElement, documentElement, elementChildren_eq h h' hs h.isConnected_documentNode]

theorem childOfRoot_eq (tag : String) : d'.childOfRoot tag = d.childOfRoot tag := by
  rw [childOfRoot, childOfRoot, documentElement_eq h h' hs]
  cases hroot : d.documentElement with
  | none => rfl
  | some html =>
    -- the document element is a child of the document node, so it is connected too
    have hhtml : d.tree.isConnected (some html) = true :=
      isConnected_of_mem_elementChildren h h.isConnected_documentNode (List.mem_of_head? hroot)
    show (d'.tree.elementChildren (some html)).find? _ =
      (d.tree.elementChildren (some html)).find? _
    rw [elementChildren_eq h h' hs hhtml]
    exact List.find?_congr fun c hc =>
      hs.hasTag_eq (isConnected_of_mem_elementChildren h hhtml hc) tag

theorem title_eq : d'.title = d.title := by
  have hfind : (d.nodes.find? fun id => d'.tree.hasTag "title" (some id)) =
      d.nodes.find? fun id => d.tree.hasTag "title" (some id) :=
    List.find?_congr fun x hx => hs.hasTag_eq (isConnected_of_mem_nodes h hx) "title"
  rw [title, title, nodes_eq h h' hs, hfind]
  cases hx : d.nodes.find? fun id => d.tree.hasTag "title" (some id) with
  | none => rfl
  | some x =>
    have hconnected := isConnected_of_mem_nodes h (List.mem_of_find?_eq_some hx)
    show Text.collapse ((d'.tree.textContent (some x)).toOption.getD "") =
      Text.collapse ((d.tree.textContent (some x)).toOption.getD "")
    rw [hs.textContent_eq hconnected h h']

/-! ## Queries -/

theorem getElementById_eq (id : String) : d'.getElementById id = d.getElementById id := by
  have hfind : (d.nodes.find? fun n => (d'.tree.element? (some n)).any fun e => e.id? == some id) =
      d.nodes.find? fun n => (d.tree.element? (some n)).any fun e => e.id? == some id :=
    List.find?_congr fun x hx =>
      hs.any_element?_eq (isConnected_of_mem_nodes h hx) fun _ => rfl
  rw [getElementById, getElementById, nodes_eq h h' hs, hfind]

theorem querySelector_eq (selector : String) :
    d'.querySelector selector = d.querySelector selector := by
  rw [querySelector, querySelector, nodes_eq h h' hs]
  cases Selector.SelectorList.parse selector with
  | error e => rfl
  | ok list =>
    exact congrArg Except.ok (List.find?_congr fun x hx =>
      list.matches_eq h h' hs (isConnected_of_mem_nodes h hx))

theorem querySelectorAll_eq (selector : String) :
    d'.querySelectorAll selector = d.querySelectorAll selector := by
  rw [querySelectorAll, querySelectorAll, nodes_eq h h' hs]
  cases Selector.SelectorList.parse selector with
  | error e => rfl
  | ok list =>
    exact congrArg Except.ok (List.filter_congr fun x hx =>
      list.matches_eq h h' hs (isConnected_of_mem_nodes h hx))

theorem matches_eq (hx : d.tree.isConnected (some x) = true) (selector : String) :
    d'.matches (some x) selector = d.matches (some x) selector := by
  unfold «matches»
  cases Selector.SelectorList.parse selector with
  | error e => rfl
  | ok list =>
    show (d'.tree.element (some x) >>= fun _ => pure (list.matches d'.tree x)) =
      d.tree.element (some x) >>= fun _ => pure (list.matches d.tree x)
    rw [list.matches_eq h h' hs hx, hs.element_bind_eq hx]

theorem closest_eq (hx : d.tree.isConnected (some x) = true) (selector : String) :
    d'.closest (some x) selector = d.closest (some x) selector := by
  obtain ⟨n, hn⟩ := Tree.exists_node_of_isConnected hx
  obtain ⟨n', hn'⟩ := Tree.exists_node_of_isConnected ((hs.connected x).trans hx)
  unfold closest
  rw [Tree.node_eq_ok.mpr hn, Tree.node_eq_ok.mpr hn', hs.ancestors_eq hx h h']
  cases Selector.SelectorList.parse selector with
  | error e => rfl
  | ok list =>
    refine congrArg Except.ok (List.find?_congr fun y hy => list.matches_eq h h' hs ?_)
    -- what is asked is the node itself and what is above it
    rcases List.mem_append.mp hy with hy | hy
    · obtain rfl : y = x := by simpa using hy
      exact hx
    · exact h.isConnected_of_mem_ancestors hx hy

theorem outerHtml_eq : d'.tree.outerHtml (some documentNode) =
    d.tree.outerHtml (some documentNode) := by
  have hx := h.isConnected_documentNode
  obtain ⟨n, hn⟩ := Tree.exists_node_of_isConnected hx
  obtain ⟨n', hn'⟩ := Tree.exists_node_of_isConnected ((hs.connected documentNode).trans hx)
  have hcontents := (hs.agreeBelow hx h h').contents_eq h h'
  unfold Tree.outerHtml
  rw [Tree.node_eq_ok.mpr hn, Tree.node_eq_ok.mpr hn']
  exact congrArg (fun contents => Except.ok (Markup.Content.renderAll false contents)) hcontents

end

/-- **Detached content is invisible.** Where two documents have the same connected nodes and these
agree in their links, their kinds, tags and attributes, their texts and their form state, the
documents answer alike:
* every selector finds the same first node, and the same nodes;
* every selector describes the same connected nodes, and finds the same closest one above them;
* every identifier finds the same element;
* the title, the document element, `head` and `body` are the same;
* the markup of the document node is the same. -/
theorem detached_invisible (h : d.tree.WellFormed) (h' : d'.tree.WellFormed)
    (hs : SameConnected d.tree d'.tree) :
    (∀ selector, d'.querySelector selector = d.querySelector selector) ∧
    (∀ selector, d'.querySelectorAll selector = d.querySelectorAll selector) ∧
    (∀ x selector, d.isConnected (some x) = true →
      d'.matches (some x) selector = d.matches (some x) selector ∧
        d'.closest (some x) selector = d.closest (some x) selector) ∧
    (∀ id, d'.getElementById id = d.getElementById id) ∧
    d'.title = d.title ∧ d'.documentElement = d.documentElement ∧
    d'.head = d.head ∧ d'.body = d.body ∧
    d'.tree.outerHtml (some documentNode) = d.tree.outerHtml (some documentNode) :=
  ⟨querySelector_eq h h' hs, querySelectorAll_eq h h' hs,
    fun _ selector hx => ⟨matches_eq h h' hs hx selector, closest_eq h h' hs hx selector⟩,
    getElementById_eq h h' hs, title_eq h h' hs, documentElement_eq h h' hs,
    childOfRoot_eq h h' hs "head", childOfRoot_eq h h' hs "body", outerHtml_eq h h' hs⟩

/-- An empty page, and the same page with a detached `title` that has a text. -/
theorem detached_invisible_skeleton :
    let d := skeleton "about:blank"
    let t := stateAfter (Tree.addBelow (some 4) (.text "x")) (d.tree.createElement "title").2
    let d' := { d with tree := t }
    d.tree.WellFormed ∧ t.WellFormed ∧ SameConnected d.tree t ∧
      t.hasTag "title" (some 4) = true ∧ t.textsBelow (some 4) = ["x"] ∧
      d'.title = d.title ∧
      ∀ selector, d'.querySelectorAll selector = d.querySelectorAll selector := by
  intro d t d'
  have h : d.tree.WellFormed := Tree.wellFormed_skeletonTree
  have ht : t.WellFormed :=
    Tree.WellFormed.addBelow (some 4) (.text "x") (by decide) _ (h.add (by decide))
  have hs : SameConnected d.tree d'.tree := by decide +kernel
  obtain ⟨-, hall, -, -, htitle, -⟩ := detached_invisible h ht hs
  exact ⟨h, ht, hs, by decide +kernel, by decide +kernel, htitle, hall⟩

end WebPage.Document
