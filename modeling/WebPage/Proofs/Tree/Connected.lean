import Mathlib.Data.List.Basic
import WebPage.Proofs.Selector.Candidates
import WebPage.Proofs.Tree.Operations
import WebPage.Tree.TextContent

/-!
# The connected part of a tree

The nodes whose root is the document node are closed under all links: no walk from one of them
leaves them. So what a walk from a connected node meets, and what is read off the nodes that it
meets, depends on the connected part of the tree only. What is detached may be anything.

## Main definitions

* `Node.withoutListeners`: a node without what is called when an event comes
* `Tree.SameConnected`: two trees with the same connected nodes, which agree up to listeners

## Main results

* `WellFormed.isConnected_of_contains`: the connected part is closed upwards and downwards
* `SameConnected.childIds_eq`, `SameConnected.ancestors_eq`, `SameConnected.siblings_eq`: the walks
  from a connected node agree
* `SameConnected.agreeBelow`: so does all that is below it
-/

namespace WebPage

/-- An element without what is called when an event comes. -/
def Element.withoutListeners (e : Element) : Element :=
  { e with listeners := .empty, handlers := {} }

/-- What a node is, without what is called when an event comes. -/
def NodeData.withoutListeners : NodeData → NodeData
  | .document => .document
  | .fragment => .fragment
  | .element e => .element e.withoutListeners
  | .text s => .text s
  | .comment s => .comment s

/-- A node without what is called when an event comes: its kind, its links, and of an element the
tag, the attributes and the form state. -/
def Node.withoutListeners (n : Node) : Node :=
  { n with data := n.data.withoutListeners }

theorem NodeData.label_withoutListeners (data : NodeData) :
    data.withoutListeners.label = data.label := by
  cases data <;> rfl

theorem Node.text?_withoutListeners (n : Node) : n.withoutListeners.text? = n.text? := by
  unfold text? withoutListeners
  cases n.data <;> rfl

theorem Node.element?_withoutListeners (n : Node) :
    n.withoutListeners.element? = n.element?.map Element.withoutListeners := by
  unfold element? withoutListeners
  cases n.data <;> rfl

theorem Node.isElement_withoutListeners (n : Node) :
    n.withoutListeners.isElement = n.isElement := by
  rw [isElement, isElement, n.element?_withoutListeners, Option.isSome_map]

/-- A reading of elements that does not look at listeners. -/
theorem Element.congr_of_withoutListeners {α : Type} {f : Element → α}
    (hf : ∀ e, f e.withoutListeners = f e) {e e' : Element}
    (he : e'.withoutListeners = e.withoutListeners) : f e' = f e := by
  rw [← hf e', he, hf e]

/-- The text of a node with this label, from the texts below it. -/
def NodeLabel.textContent (below : List String) : NodeLabel → String
  | document | fragment | element _ _ => String.join below
  | text s | comment s => s

namespace Tree

variable {t t' : Tree} {a c p x y : NodeId} {r : NodeRef} {label : NodeLabel}

/-- The texts below a node in document order. -/
def textsBelow (t : Tree) (r : NodeRef) : List String :=
  (t.descendants r).filterMap fun id => (t.node? (some id)).bind Node.text?

theorem textContent_of_label? (hr : t.label? r = some label) :
    t.textContent r = .ok (label.textContent (t.textsBelow r)) := by
  obtain ⟨n, hn, rfl⟩ := Option.map_eq_some_iff.mp hr
  obtain ⟨data, _⟩ := n
  unfold textContent
  rw [node_eq_ok.mpr hn]
  cases data <;> rfl

/-- The text of an element is made of the texts below it. -/
theorem textContent_of_isElement (hx : t.isElement (some x) = true) :
    t.textContent (some x) = .ok (String.join (t.textsBelow (some x))) := by
  obtain ⟨tag, attributes, hlabel⟩ := exists_label_of_isElement hx
  exact textContent_of_label? hlabel

/-- Two trees have the same connected nodes, and these agree in everything but their listeners. -/
structure SameConnected (t t' : Tree) : Prop where
  connected : ∀ x, t'.isConnected (some x) = t.isConnected (some x)
  node : ∀ x, t.isConnected (some x) = true →
    (t'.node? (some x)).map Node.withoutListeners = (t.node? (some x)).map Node.withoutListeners

/-- It is enough to look at the nodes that one of the trees has. -/
theorem sameConnected_iff : SameConnected t t' ↔
    ∀ x < max t.size t'.size, t'.isConnected (some x) = t.isConnected (some x) ∧
      (t.isConnected (some x) = true → (t'.node? (some x)).map Node.withoutListeners =
        (t.node? (some x)).map Node.withoutListeners) := by
  refine ⟨fun h x _ => ⟨h.connected x, h.node x⟩, fun h => ?_⟩
  -- a node that neither tree has is connected in neither
  have hfar : ∀ x, ¬ x < max t.size t'.size →
      t'.isConnected (some x) = false ∧ t.isConnected (some x) = false := by
    intro x hx
    have hnone : ∀ u : Tree, u.size ≤ x → u.isConnected (some x) = false := by
      intro u hu
      have hn : u.node? (some x) = none := Array.getElem?_eq_none hu
      rw [isConnected, hn]
      rfl
    exact ⟨hnone t' (Nat.le_trans (Nat.le_max_right _ _) (Nat.le_of_not_lt hx)),
      hnone t (Nat.le_trans (Nat.le_max_left _ _) (Nat.le_of_not_lt hx))⟩
  refine ⟨fun x => ?_, fun x hc => ?_⟩
  · by_cases hx : x < max t.size t'.size
    · exact (h x hx).1
    · rw [(hfar x hx).1, (hfar x hx).2]
  · by_cases hx : x < max t.size t'.size
    · exact (h x hx).2 hc
    · rw [(hfar x hx).2] at hc
      cases hc

instance : Decidable (SameConnected t t') :=
  decidable_of_iff' _ sameConnected_iff

/-! ## The connected part is closed -/

theorem exists_node_of_isConnected (hx : t.isConnected (some x) = true) :
    ∃ n, t.node? (some x) = some n := by
  rw [isConnected, Bool.and_eq_true] at hx
  exact Option.isSome_iff_exists.mp hx.1

namespace WellFormed

theorem isConnected_documentNode (h : t.WellFormed) :
    t.isConnected (some documentNode) = true := by
  have hkind : t.kind? (some documentNode) = some .document := (h.document_iff _).mpr rfl
  have hroot : t.treeRoot (some documentNode) = some documentNode := by
    rw [treeRoot, h.ancestors_eq_nil (h.rootless _ _ hkind rfl)]
    rfl
  rw [isConnected, hroot, ← isSome_kind?, hkind]
  rfl

/-- What contains a node has the root of that node. -/
theorem treeRoot_of_contains (h : t.WellFormed) (ha : t.contains (some a) (some x) = true) :
    t.treeRoot (some x) = t.treeRoot (some a) := by
  obtain ⟨l, hl⟩ := h.exists_way_of_contains ha
  rw [treeRoot_eq_getLast?, treeRoot_eq_getLast?, hl, List.getLast?_append, List.getLast?_cons,
    Option.some_or]

/-- **A node is connected just if what contains it is.** -/
theorem isConnected_of_contains (h : t.WellFormed) (ha : t.contains (some a) (some x) = true) :
    t.isConnected (some a) = t.isConnected (some x) := by
  rw [isConnected, isConnected, h.treeRoot_of_contains ha]
  rcases contains_iff_eq_or_mem.mp ha with rfl | hmem
  · rfl
  · -- both exist: the upper one is named by a link, and the lower one has a parent
    have hupper : (t.node? (some a)).isSome = true := by
      rw [← isSome_kind?]
      exact kind?_isSome_iff.mpr (h.lt_size_of_mem_path (h.path_ancestors (some x)) hmem)
    have hlower : (t.node? (some x)).isSome = true :=
      isSome_kind?.symm.trans (h.isSome_of_mem_ancestors hmem)
    rw [hupper, hlower]

theorem isConnected_of_parent (h : t.WellFormed) (hp : t.parent (some c) = some p) :
    t.isConnected (some p) = t.isConnected (some c) := by
  refine h.isConnected_of_contains (contains_iff_eq_or_mem.mpr (.inr ?_))
  rw [h.ancestors_of_parent hp]
  exact List.mem_cons_self

theorem isConnected_of_mem_ancestors (h : t.WellFormed) (hx : t.isConnected (some x) = true)
    (ha : a ∈ t.ancestors (some x)) : t.isConnected (some a) = true :=
  (h.isConnected_of_contains (contains_iff_eq_or_mem.mpr (.inr ha))).trans hx

theorem isConnected_of_mem_descendants (h : t.WellFormed) (hx : t.isConnected (some x) = true)
    (hy : y ∈ t.descendants (some x)) : t.isConnected (some y) = true :=
  (h.isConnected_of_contains (h.contains_iff_mem_descendants.mpr (.inr hy))).symm.trans hx

theorem isConnected_of_mem_childIds (h : t.WellFormed) (hx : t.isConnected (some x) = true)
    (hc : c ∈ t.childIds (some x)) : t.isConnected (some c) = true :=
  (h.isConnected_of_parent (h.mem_childIds_iff.mp hc)).symm.trans hx

/-- The siblings of a connected node are connected. -/
theorem isConnected_of_mem_siblings (h : t.WellFormed) (hx : t.isConnected (some x) = true)
    (hy : y ∈ t.earlierSiblings x ∨ y ∈ t.laterSiblings x) : t.isConnected (some y) = true := by
  cases hp : t.parent (some x) with
  | none => simp [siblings_of_parent_eq_none hp] at hy
  | some p =>
    rw [← h.isConnected_of_parent ((h.parent_of_mem_siblings hy).trans hp),
      h.isConnected_of_parent hp, hx]

end WellFormed

namespace SameConnected

variable (hs : SameConnected t t') (hx : t.isConnected (some x) = true)
include hs hx

/-! ## What is read off a connected node -/

/-- Every reading that does not look at listeners agrees. -/
theorem bind_eq {α : Type} {f : Node → Option α} (hf : ∀ n, f n.withoutListeners = f n) :
    (t'.node? (some x)).bind f = (t.node? (some x)).bind f := by
  have hnode := congrArg (Option.bind · f) (hs.node x hx)
  simpa only [Option.bind_map, Function.comp_def, hf] using hnode

/-- Every test of a node that does not look at listeners agrees. -/
theorem any_node?_eq {f : Node → Bool} (hf : ∀ n, f n.withoutListeners = f n) :
    (t'.node? (some x)).any f = (t.node? (some x)).any f := by
  have hnode := congrArg (Option.any f) (hs.node x hx)
  simpa only [Option.any_map, Function.comp_def, hf] using hnode

theorem parent_eq : t'.parent (some x) = t.parent (some x) :=
  hs.bind_eq hx fun _ => rfl

theorem firstChild_eq : t'.firstChild (some x) = t.firstChild (some x) :=
  hs.bind_eq hx fun _ => rfl

theorem nextSibling_eq : t'.nextSibling (some x) = t.nextSibling (some x) :=
  hs.bind_eq hx fun _ => rfl

theorem text?_eq : (t'.node? (some x)).bind Node.text? = (t.node? (some x)).bind Node.text? :=
  hs.bind_eq hx Node.text?_withoutListeners

theorem label?_eq : t'.label? (some x) = t.label? (some x) := by
  rw [label?, label?, Option.map_eq_bind, Option.map_eq_bind]
  exact hs.bind_eq hx fun n => congrArg some n.data.label_withoutListeners

theorem element?_eq : (t'.element? (some x)).map Element.withoutListeners =
    (t.element? (some x)).map Element.withoutListeners := by
  rw [element?, element?, Option.map_bind, Option.map_bind]
  refine hs.bind_eq hx fun n => ?_
  rw [Function.comp_apply, Function.comp_apply, n.element?_withoutListeners, Option.map_map]
  rfl

/-- Every test of an element that does not look at listeners agrees. -/
theorem any_element?_eq {f : Element → Bool} (hf : ∀ e, f e.withoutListeners = f e) :
    (t'.element? (some x)).any f = (t.element? (some x)).any f := by
  have helement := congrArg (Option.any f) (hs.element?_eq hx)
  simpa only [Option.any_map, Function.comp_def, hf] using helement

theorem isElement_eq : t'.isElement (some x) = t.isElement (some x) := by
  have helement := congrArg Option.isSome (hs.element?_eq hx)
  rwa [Option.isSome_map, Option.isSome_map] at helement

/-- A connected node is an element in both trees or in none, so looking it up fails alike. -/
theorem element_bind_eq {α : Type} (k : Except DomError α) :
    (t'.element (some x) >>= fun _ => k) = t.element (some x) >>= fun _ => k := by
  obtain ⟨n, hn⟩ := exists_node_of_isConnected hx
  obtain ⟨n', hn'⟩ := exists_node_of_isConnected ((hs.connected x).trans hx)
  have hsome := hs.isElement_eq hx
  unfold isElement element? at hsome
  unfold element
  rw [hn, hn'] at hsome ⊢
  cases he : n.element? with
  | none =>
    have he' : n'.element? = none := by simpa [he] using hsome
    simp only [he, he']
  | some e =>
    obtain ⟨e', he'⟩ : ∃ e', n'.element? = some e' := by
      simpa [he, Option.isSome_iff_exists] using hsome
    simp only [he, he']
    rfl

theorem hasTag_eq (tag : String) : t'.hasTag tag (some x) = t.hasTag tag (some x) :=
  hs.any_element?_eq hx fun _ => rfl

/-! ## The walks from a connected node -/

variable (h : t.WellFormed) (h' : t'.WellFormed)
include h h'

/-- The children of a connected node are linked by links of connected nodes. -/
theorem childIds_eq : t'.childIds (some x) = t.childIds (some x) := by
  have hpath : Path t'.nextSibling (t'.firstChild (some x)) (t.childIds (some x)) none := by
    rw [hs.firstChild_eq hx]
    exact (h.childList x).forward.congr fun c hc =>
      hs.nextSibling_eq (h.isConnected_of_mem_childIds hx hc)
  exact (h'.childList x).forward.unique hpath

theorem ancestors_eq : t'.ancestors (some x) = t.ancestors (some x) := by
  have hpath : Path t'.parent (t'.parent (some x)) (t.ancestors (some x)) none := by
    rw [hs.parent_eq hx]
    exact (h.path_ancestors (some x)).congr fun a ha =>
      hs.parent_eq (h.isConnected_of_mem_ancestors hx ha)
  exact (h'.path_ancestors (some x)).unique hpath

theorem siblings_eq : t'.earlierSiblings x = t.earlierSiblings x ∧
    t'.laterSiblings x = t.laterSiblings x := by
  cases hp : t.parent (some x) with
  | none =>
    have hnil := siblings_of_parent_eq_none ((hs.parent_eq hx).trans hp)
    have hnil' := siblings_of_parent_eq_none hp
    exact ⟨hnil.1.trans hnil'.1.symm, hnil.2.trans hnil'.2.symm⟩
  | some p =>
    have hchildren : t'.childIds (some p) = t.childIds (some p) :=
      hs.childIds_eq ((h.isConnected_of_parent hp).trans hx) h h'
    rw [earlierSiblings, earlierSiblings, laterSiblings, laterSiblings, hs.parent_eq hx, hp,
      hchildren]
    exact ⟨rfl, rfl⟩

/-- **All that is below a connected node agrees.** -/
theorem agreeBelow : AgreeBelow t t' x := by
  intro y hy
  have hyc : t.isConnected (some y) = true := (h.isConnected_of_contains hy).symm.trans hx
  exact ⟨hs.label?_eq hyc, hs.childIds_eq hyc h h'⟩

/-- **The text of a connected node agrees.** -/
theorem textContent_eq : t'.textContent (some x) = t.textContent (some x) := by
  have hbelow : t'.textsBelow (some x) = t.textsBelow (some x) := by
    rw [textsBelow, textsBelow, (hs.agreeBelow hx h h').descendants_eq h h']
    exact List.filterMap_congr fun y hy =>
      hs.text?_eq (h.isConnected_of_mem_descendants hx hy)
  obtain ⟨n, hn⟩ := exists_node_of_isConnected hx
  have hlabel := label?_of_node? hn
  rw [textContent_of_label? hlabel, textContent_of_label? ((hs.label?_eq hx).trans hlabel), hbelow]

end SameConnected

end Tree

end WebPage
