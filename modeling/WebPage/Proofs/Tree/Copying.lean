import WebPage.Proofs.Attributes
import WebPage.Proofs.Tree.Growth

/-!
# Copying content faithfully

Content that is copied below a container is there afterwards as it was given, but for what a tree
does not keep: document types, processing instructions, texts of blanks if they are not wanted, and
the case of names. The new nodes are numbered in the order in which the content is read, and no old
node changes but for the links that lead to the new children.

## Main definitions

* `Content.cleaned`, `Content.cleanedAll`: the content that is kept
* `Content.DistinctNames`, `Content.AllDistinctNames`: no element names an attribute twice
* `Tree.Copied`: new children of a node that hold some content, numbered in order

## Main results

* `Element.ofMarkup_eq`: the element of markup whose attributes have distinct names
* `exists_load`, `exists_loadAll`: content is copied, one part or a row
* `loadAll_faithful`: what copying a row of content does to a well-formed tree
-/

namespace WebPage

namespace Markup

-- A row of content is cleaned one part after the other, at every level.
mutual

/-- What a tree keeps of a labelled tree: nothing of a document type or a processing instruction,
nothing of a text of blanks unless `keepBlank`, and names in small letters. -/
def Content.cleaned (keepBlank : Bool) : Content → List Content
  | .text s => if !keepBlank && Text.isBlankText s then [] else [.text s]
  | .comment s => [.comment s]
  | .doctype _ => []
  | .instruction _ _ => []
  | .element tag attributes children =>
    [.element (Text.lowerAscii tag) (attributes.map fun a => (Text.lowerAscii a.1, a.2))
      (Content.cleanedAll keepBlank children)]

/-- What a tree keeps of labelled trees in a row. -/
def Content.cleanedAll (keepBlank : Bool) : List Content → List Content
  | [] => []
  | c :: cs => c.cleaned keepBlank ++ Content.cleanedAll keepBlank cs

end

mutual

/-- No element of a labelled tree has two attributes whose names differ in ASCII case at most. -/
def Content.DistinctNames : Content → Prop
  | .text _ => True
  | .comment _ => True
  | .doctype _ => True
  | .instruction _ _ => True
  | .element _ attributes children =>
    (attributes.map fun a => Text.lowerAscii a.1).Nodup ∧ Content.AllDistinctNames children

/-- No element of labelled trees in a row has two attributes of one name. -/
def Content.AllDistinctNames : List Content → Prop
  | [] => True
  | c :: cs => c.DistinctNames ∧ Content.AllDistinctNames cs

end

end Markup

open Markup (Content)

/-! ## The attributes of markup -/

/-- Attributes whose names are new and distinct are written one after the other. -/
theorem Element.foldl_setAttribute {attributes : List (String × String)}
    (hd : (attributes.map fun a => Text.lowerAscii a.1).Nodup) {e : Element}
    (hnew : ∀ a ∈ attributes, e.attributes.contains a.1 = false) :
    attributes.foldl (fun e (name, value) => e.setAttribute name value) e =
      { e with attributes.entries := e.attributes.entries ++
          attributes.map fun a => (Text.lowerAscii a.1, a.2) } := by
  induction attributes generalizing e with
  | nil => simp
  | cons a attributes ih =>
    rw [List.map_cons, List.nodup_cons] at hd
    -- the first name is not there yet, so its entry comes at the end
    have hinsert : e.attributes.insert a.1 a.2 =
        ⟨e.attributes.entries ++ [(Text.lowerAscii a.1, a.2)]⟩ := by
      rw [Attributes.insert, hnew a List.mem_cons_self, if_neg (by decide)]
    rw [List.foldl_cons, ih hd.2]
    · simp [setAttribute, hinsert]
    · -- the other names are still new after it
      intro b hb
      have hne : Text.equalsIgnoringCase a.1 b.1 = false := by
        refine Bool.eq_false_iff.mpr fun he => hd.1 ?_
        rw [beq_iff_eq.mp he]
        exact List.mem_map.mpr ⟨b, hb, rfl⟩
      show (e.attributes.insert a.1 a.2).contains b.1 = false
      rw [Attributes.contains_insert, hnew b (List.mem_cons_of_mem _ hb), hne]
      rfl

/-- **An element of markup** keeps its attributes in order, if their names are distinct. -/
theorem Element.ofMarkup_eq {tag : String} {attributes : List (String × String)}
    (hd : (attributes.map fun a => Text.lowerAscii a.1).Nodup) :
    Element.ofMarkup tag attributes = { Element.ofTag tag with
      attributes.entries := attributes.map fun a => (Text.lowerAscii a.1, a.2) } :=
  Element.foldl_setAttribute hd fun _ _ => rfl

namespace Tree

variable {t t₁ t₂ t' : Tree} {p id : NodeId} {ids ids' : List NodeId} {cs cs' : List Content}
  {label : NodeLabel}

/-- The new children `ids` of `p` hold the contents `cs`. From the first free number on, the new
nodes are numbered in the order of the content, each before those below it. -/
structure Copied (t : Tree) (p : NodeId) (cs : List Content) (ids : List NodeId)
    (t' : Tree) : Prop extends Grown t p ids t' where
  contents_eq : ids.flatMap t'.contents = cs
  numbered : (ids.flatMap fun id => id :: t'.descendants (some id)) =
    List.range' t.size (t'.size - t.size)

namespace Copied

theorem nil (h : t.WellFormed) (p : NodeId) : t.Copied p [] [] t := by
  refine ⟨.refl h p, rfl, ?_⟩
  rw [Nat.sub_self]
  rfl

/-- **Content after content**: what was copied first stays as it is. -/
theorem append (h : t.WellFormed) (hc : t.Copied p cs ids t₁) (hc' : t₁.Copied p cs' ids' t₂) :
    t.Copied p (cs ++ cs') (ids ++ ids') t₂ := by
  have h₁ := hc.wellFormed
  -- the second part goes below `p`, and no child of `p` contains `p`
  have hkept : ∀ id ∈ ids, AgreeBelow t₁ t₂ id := by
    intro id hid
    have hchild : id ∈ t₁.childIds (some p) := by
      rw [hc.children]
      exact List.mem_append_right _ hid
    exact hc'.toGrown.agreeBelow h₁ (h₁.lt_size_of_mem_childIds hchild) (h₁.not_contains_parent hchild)
  have hcontents : ids.flatMap t₂.contents = ids.flatMap t₁.contents := by
    rw [List.flatMap_def, List.flatMap_def]
    exact congrArg List.flatten
      (List.map_congr_left fun id hid => (hkept id hid).contents_eq h₁ hc'.wellFormed)
  have hbelow : (ids.flatMap fun id => id :: t₂.descendants (some id)) =
      ids.flatMap fun id => id :: t₁.descendants (some id) := by
    rw [List.flatMap_def, List.flatMap_def]
    refine congrArg List.flatten (List.map_congr_left fun id hid => ?_)
    rw [(hkept id hid).descendants_eq h₁ hc'.wellFormed]
  refine ⟨hc.toGrown.trans h hc'.toGrown, ?_, ?_⟩
  · rw [List.flatMap_append, hcontents, hc.contents_eq, hc'.contents_eq]
  · -- the numbers of the second part go on where those of the first part end
    have hle := hc.size_le
    have hle' := hc'.size_le
    rw [List.flatMap_append, hbelow, hc.numbered, hc'.numbered,
      show t₂.size - t.size = (t₁.size - t.size) + (t₂.size - t₁.size) by omega,
      ← List.range'_append_1, show t.size + (t₁.size - t.size) = t₁.size by omega]

/-- **A node with content below it**: the node comes first, and its label says what becomes of the
content. -/
theorem below (hp : p < t.size) (hg : t.Grown p [t.size] t₁) (hsize : t₁.size = t.size + 1)
    (hlabel : t₁.label? (some t.size) = some label) (hnil : t₁.childIds (some t.size) = [])
    (hc : t₁.Copied t.size cs ids t₂) : t.Copied p (label.contents cs) [t.size] t₂ := by
  have hnew : t.size < t₁.size := hsize ▸ Nat.lt_succ_self _
  -- the node had no children before, so the content below it is all that it has
  have hchildren : t₂.childIds (some t.size) = ids := by
    rw [hc.children, hnil, List.nil_append]
  refine ⟨hg.nest hp hnil hc.toGrown, ?_, ?_⟩
  · rw [List.flatMap_cons, List.flatMap_nil, List.append_nil,
      hc.wellFormed.contents_eq ((hc.toGrown.label?_eq hnew).trans hlabel), hchildren,
      hc.contents_eq]
  · have hle := hc.size_le
    rw [List.flatMap_cons, List.flatMap_nil, List.append_nil,
      hc.wellFormed.descendants_eq_flatMap, hchildren, hc.numbered, hsize,
      show t₂.size - t.size = (t₂.size - (t.size + 1)) + 1 by omega, List.range'_succ]

end Copied

/-! ## Content below a container -/

/-- A node that is added below a container, before anything is put below it. -/
theorem exists_leaf (h : t.WellFormed) (hp : ∃ k, t.kind? (some p) = some k ∧ k.isContainer = true)
    (data : NodeData) (hd : data.kind.isRoot = false) :
    ∃ t', addBelow (some p) data t = .ok t.size t' ∧
      t.Copied p (data.label.contents []) [t.size] t' := by
  obtain ⟨k, hk, -⟩ := id hp
  obtain ⟨t', hadd, hg, hsize, hlabel, -, hnil⟩ := exists_addBelow h hp hd
  exact ⟨t', hadd, .below (lt_size_of_kind? hk) hg hsize hlabel hnil (.nil hg.wellFormed _)⟩

-- The induction is on the content, and each part finds the tree as the parts before it left it.
mutual

/-- **A labelled tree is copied faithfully** below a container. -/
theorem exists_load (keepBlank : Bool) : ∀ (c : Content) {t : Tree} {p : NodeId}, t.WellFormed →
    (∃ k, t.kind? (some p) = some k ∧ k.isContainer = true) → c.DistinctNames →
      ∃ id? t', load keepBlank (some p) c t = .ok id? t' ∧
        t.Copied p (c.cleaned keepBlank) id?.toList t'
  | .text s, t, p, h, hp, _ => by
    rw [load, Content.cleaned]
    cases !keepBlank && Text.isBlankText s with
    | true => exact ⟨none, t, rfl, .nil h p⟩
    | false =>
      obtain ⟨t', hadd, hc⟩ := exists_leaf h hp (.text s) rfl
      exact ⟨some t.size, t', bind_apply_of_ok hadd, hc⟩
  | .comment s, t, p, h, hp, _ => by
    obtain ⟨t', hadd, hc⟩ := exists_leaf h hp (.comment s) rfl
    rw [load, Content.cleaned]
    exact ⟨some t.size, t', bind_apply_of_ok hadd, hc⟩
  | .doctype _, t, p, h, _, _ => by
    rw [load, Content.cleaned]
    exact ⟨none, t, rfl, .nil h p⟩
  | .instruction _ _, t, p, h, _, _ => by
    rw [load, Content.cleaned]
    exact ⟨none, t, rfl, .nil h p⟩
  | .element tag attributes children, t, p, h, hp, hd => by
    rw [Content.DistinctNames] at hd
    obtain ⟨k, hk, -⟩ := id hp
    have hroot : (NodeData.element (.ofMarkup tag attributes)).kind.isRoot = false := rfl
    obtain ⟨t₁, hadd, hg, hsize, hlabel, hkind, hnil⟩ := exists_addBelow h hp hroot
    obtain ⟨ids, t₂, hall, hc⟩ :=
      exists_loadAll keepBlank children hg.wellFormed ⟨_, hkind, rfl⟩ hd.2
    rw [load, Content.cleaned]
    refine ⟨some t.size, t₂, (bind_apply_of_ok hadd).trans (bind_apply_of_ok hall), ?_⟩
    have hnode := Copied.below (lt_size_of_kind? hk) hg hsize hlabel hnil hc
    rwa [NodeData.label, Element.ofMarkup_eq hd.1] at hnode

theorem exists_loadAll (keepBlank : Bool) : ∀ (cs : List Content) {t : Tree} {p : NodeId},
    t.WellFormed → (∃ k, t.kind? (some p) = some k ∧ k.isContainer = true) →
      Content.AllDistinctNames cs →
        ∃ ids t', loadAll keepBlank (some p) cs t = .ok ids t' ∧
          t.Copied p (Content.cleanedAll keepBlank cs) ids t'
  | [], t, p, h, _, _ => by
    rw [loadAll, Content.cleanedAll]
    exact ⟨[], t, rfl, .nil h p⟩
  | c :: cs, t, p, h, hp, hd => by
    rw [Content.AllDistinctNames] at hd
    obtain ⟨id?, t₁, hload, hc⟩ := exists_load keepBlank c h hp hd.1
    -- the parent is still a container for the rest of the row
    obtain ⟨k, hk, hcontainer⟩ := hp
    have hk₁ : t₁.kind? (some p) = some k := by
      rw [hc.toGrown.kind?_eq (lt_size_of_kind? hk), hk]
    obtain ⟨ids, t₂, hall, hc'⟩ :=
      exists_loadAll keepBlank cs hc.wellFormed ⟨k, hk₁, hcontainer⟩ hd.2
    rw [loadAll, Content.cleanedAll]
    exact ⟨id?.toList ++ ids, t₂, (bind_apply_of_ok hload).trans (bind_apply_of_ok hall),
      hc.append h hc'⟩

end

/-- **Content is copied faithfully.** Copying a row of content below a container of a well-formed
tree succeeds. The children of the container are the old ones and after them the nodes that are
given. These hold the content in order, without what a tree does not keep. The new nodes have the
first free numbers, in the order of the content. Of the old nodes, the container has new ends of its
list of children, its former last child has the first new child as its next sibling, and all others
are as before. -/
theorem loadAll_faithful (keepBlank : Bool) (cs : List Content) (h : t.WellFormed)
    (hp : ∃ k, t.kind? (some p) = some k ∧ k.isContainer = true)
    (hd : Content.AllDistinctNames cs) :
    ∃ ids t' count, loadAll keepBlank (some p) cs t = .ok ids t' ∧ t'.WellFormed ∧
      t'.childIds (some p) = t.childIds (some p) ++ ids ∧
      ids.flatMap t'.contents = Content.cleanedAll keepBlank cs ∧
      t'.size = t.size + count ∧
      (ids.flatMap fun id => id :: t'.descendants (some id)) = List.range' t.size count ∧
      t'.node? (some p) = (t.node? (some p)).map (fun n =>
        { n with
          firstChild := n.firstChild.or ids.head?
          lastChild := ids.getLast?.or n.lastChild }) ∧
      (∀ s, t.lastChild (some p) = some s →
        t'.node? (some s) = (t.node? (some s)).map fun n => { n with nextSibling := ids.head? }) ∧
      ∀ q < t.size, q ≠ p → t.lastChild (some p) ≠ some q →
        t'.node? (some q) = t.node? (some q) := by
  obtain ⟨ids, t', hall, hc⟩ := exists_loadAll keepBlank cs h hp hd
  obtain ⟨k, hk, -⟩ := hp
  have hsize : t'.size = t.size + (t'.size - t.size) := (Nat.add_sub_of_le hc.size_le).symm
  refine ⟨ids, t', _, hall, hc.wellFormed, hc.children, hc.contents_eq, hsize, hc.numbered,
    ?_, ?_, ?_⟩
  · have hne : t.lastChild (some p) ≠ some p := fun he => (h.lastChild_spec he).2.1 rfl
    rw [hc.node p (lt_size_of_kind? hk)]
    refine congrArg (fun f => (t.node? (some p)).map f) (funext fun n => ?_)
    simp [Node.grown, hne]
  · intro s hs
    obtain ⟨hlt, hne, hnext⟩ := h.lastChild_spec hs
    rw [hc.node s hlt]
    cases hn : t.node? (some s) with
    | none => rfl
    | some n =>
      rw [nextSibling, hn] at hnext
      have hnext : n.nextSibling = none := hnext
      simp [Node.grown, hs, hne, hnext]
  · intro q hq hqp hql
    rw [hc.node q hq, funext (Node.grown_of_ne hqp hql ids), Option.map_id']

/-- A list is copied below the body of an empty page. The document type and the blanks between the
elements leave no node. -/
theorem loadAll_faithful_body :
    let cs : List Content := [.doctype "html", .text "\n",
      .element "UL" [("ID", "a"), ("Class", "B")] [.text " ", .element "li" [] [.text " c "]],
      .comment "d"]
    ∃ ids t' count, loadAll false (some 3) cs Document.skeletonTree = .ok ids t' ∧
      ids.flatMap t'.contents =
        [.element "ul" [("id", "a"), ("class", "B")] [.element "li" [] [.text " c "]],
          .comment "d"] ∧
      (ids.flatMap fun id => id :: t'.descendants (some id)) = List.range' 4 count := by
  intro cs
  have hdistinct : Content.AllDistinctNames cs := by
    have hnames : [Text.lowerAscii "ID", Text.lowerAscii "Class"].Nodup := by decide +kernel
    exact ⟨trivial, trivial, ⟨hnames, trivial, ⟨.nil, trivial, trivial⟩, trivial⟩, trivial, trivial⟩
  have hcleaned : Content.cleanedAll false cs =
      [.element "ul" [("id", "a"), ("class", "B")] [.element "li" [] [.text " c "]],
        .comment "d"] := by
    have htag : Text.lowerAscii "UL" = "ul" ∧ Text.lowerAscii "li" = "li" := by decide +kernel
    have hname : Text.lowerAscii "ID" = "id" ∧ Text.lowerAscii "Class" = "class" := by
      decide +kernel
    have hblank : Text.isBlankText "\n" = true ∧ Text.isBlankText " " = true ∧
        Text.isBlankText " c " = false := by
      decide +kernel
    simp [cs, Content.cleanedAll, Content.cleaned, htag, hname, hblank]
  obtain ⟨ids, t', count, hall, -, -, hcontents, -, hnumbered, -⟩ :=
    loadAll_faithful (p := 3) false cs wellFormed_skeletonTree ⟨.element, rfl, rfl⟩ hdistinct
  exact ⟨ids, t', count, hall, hcontents.trans hcleaned, hnumbered⟩

end Tree

end WebPage
