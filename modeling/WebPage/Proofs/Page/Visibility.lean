import WebPage.Proofs.Page.AttributeVerbs
import WebPage.Proofs.Selector.Attributes

/-!
# Showing one thing or another

Showing a target on a condition, with a placeholder that does the opposite, are two changes of one
attribute, and the placeholder is looked up between them. So the nodes that are changed last are
those that the placeholder means once the target has been marked. These are the nodes that it meant
before if it is given by nodes, or by a selector that does not look at the mark. Otherwise the
target itself may be among them, or nodes that the placeholder meant before may be missing.

## Main definitions

* `Target.LooksAt`: the nodes of a target depend on an attribute
* `ShownApart`: some elements are visible just if a condition holds, others just if it does not, and
  nothing else has changed

## Main results

* `Page.resolveAll_eq_of_sameBut`: a target that does not look at an attribute keeps its nodes
* `setHidden_some`: marking all elements of a target, or taking the mark away
* `shownApart_iff`: when what is done is what was asked for
* `showIf_spec`: showing on a condition with a placeholder
-/

namespace WebPage

open WebPage.Tree

/-! ## Targets that are looked up again -/

/-- The target is a selector that looks at an attribute. -/
def Target.LooksAt (name : String) : Target → Prop
  | .selector s => ∃ list, Selector.SelectorList.parse s = .ok list ∧ list.looksAt name = true
  | .node _ | .nodes _ => False

namespace Page

variable {p q : Page} {target : Target} {ids : List NodeId} {name : String}

/-- A selector is read first, and then looked up in the tree. -/
theorem resolveAll_selector (p : Page) (s : String) :
    p.resolveAll (.selector s) = Selector.SelectorList.parse s >>= fun list =>
      .ok ((p.document.tree.descendants (some documentNode)).filter
        (list.matches p.document.tree)) :=
  rfl

/-- A target that has nodes in one page has nodes in every page, and if the pages have the same
elements, they are elements if they were. -/
theorem exists_resolveAll (hids : p.resolveAll target = .ok ids)
    (he : ∀ x ∈ ids, p.document.tree.isElement (some x) = true)
    (hframe : SameFrame p.document.tree q.document.tree) :
    ∃ ids', q.resolveAll target = .ok ids' ∧
      ∀ x ∈ ids', q.document.tree.isElement (some x) = true := by
  cases target with
  | selector s =>
    rw [resolveAll_selector, bind_eq_ok] at hids
    obtain ⟨list, hs, -⟩ := hids
    refine ⟨_, bind_eq_ok.mpr ⟨list, hs, rfl⟩, fun x hx => ?_⟩
    exact Selector.isElement_of_matches (List.mem_filter.mp hx).2
  | node r | nodes rs =>
    refine ⟨ids, hids, fun x hx => ?_⟩
    rw [hframe.isElement_eq]
    exact he x hx

/-- **A target that does not look at an attribute** keeps its nodes, whatever becomes of it. -/
theorem resolveAll_eq_of_sameBut (h : p.document.tree.SameBut name q.document.tree)
    (hl : ¬ target.LooksAt name) : q.resolveAll target = p.resolveAll target := by
  cases target with
  | selector s =>
    rw [resolveAll_selector, resolveAll_selector, h.frame.descendants_eq]
    cases hs : Selector.SelectorList.parse s with
    | error e => rfl
    | ok list =>
      have hblind : list.looksAt name = false := by
        rw [← Bool.not_eq_true]
        exact fun hlooks => hl ⟨list, hs, hlooks⟩
      have hmatches := Selector.SelectorList.matches_eq_of_sameBut h list hblind
      exact congrArg (fun m => Except.ok (List.filter m _)) hmatches
  | node r | nodes rs => rfl

theorem isVisible_node {x : NodeId} {e : Element}
    (he : p.document.tree.element? (some x) = some e) :
    p.isVisible (.node (some x)) = .ok (!e.attributes.contains p.config.hiddenAttribute) := by
  show Page.lift (do
    return !(← p.document.tree.hasAttribute (some x) p.config.hiddenAttribute)) = _
  unfold Tree.hasAttribute
  rw [element_eq_ok.mpr he]
  rfl

end Page

/-- Whether an element is visible is read off the element. -/
theorem Page.isVisible_congr {p q : Page} {x : NodeId} (hconfig : q.config = p.config)
    (hx : p.document.tree.isElement (some x) = true)
    (h : q.document.tree.element? (some x) = p.document.tree.element? (some x)) :
    q.isVisible (.node (some x)) = p.isVisible (.node (some x)) := by
  obtain ⟨e, he⟩ := Option.isSome_iff_exists.mp hx
  rw [isVisible_node he, isVisible_node (h.trans he), hconfig]

/-! ## Marking the elements of a target -/

variable {p p' : Page} {target placeholder : Target} {ids as bs bs' : List NodeId}
  {t' t₁ t₂ : Tree} {x : NodeId} {c hidden : Bool}

/-- **The mark is forced** on all elements of a target. -/
theorem setHidden_some (hname : Name.isValid p.config.hiddenAttribute = true)
    (hp : p.document.tree.SoundAttributes) (hids : p.resolveAll target = .ok ids)
    (he : ∀ x ∈ ids, p.document.tree.isElement (some x) = true) (hidden : Bool) :
    ∃ t', Page.setHidden target (some hidden) p = .ok () (p.withTree t') ∧
      ElementsChanged p.document.tree ids
        (·.toggleAttribute p.config.hiddenAttribute (some hidden)) t' := by
  rw [setHidden_apply, Name.validate_of_isValid hname, changeAll_ok]
  refine editTreeAll_modifyElement hids he fun x _ e he => ?_
  exact Element.toggleAttribute_toggleAttribute (hp _ _ he) _ hidden

/-- An element that the mark was forced on is visible just if the mark was taken away. -/
theorem ElementsChanged.isVisible_of_mem (hp : p.document.tree.SoundAttributes)
    (h : ElementsChanged p.document.tree ids
      (·.toggleAttribute p.config.hiddenAttribute (some hidden)) t')
    (he : ∀ x ∈ ids, p.document.tree.isElement (some x) = true) (hx : x ∈ ids) :
    (p.withTree t').isVisible (.node (some x)) = .ok (!hidden) := by
  obtain ⟨e, hread⟩ := Option.isSome_iff_exists.mp (he x hx)
  have hread' : t'.element? (some x) =
      some (e.toggleAttribute p.config.hiddenAttribute (some hidden)) := by
    rw [h.targets x hx, hread, Option.map_some]
  rw [Page.isVisible_node (p := p.withTree t') hread']
  show Except.ok (!(e.attributes.toggle _ _).2.contains p.config.hiddenAttribute) = _
  rw [(hp _ _ hread).contains_toggle, if_pos (by exact beq_self_eq_true _)]
  rfl

/-- The elements `as` are visible just if `c` holds, and the elements `bs` just if it does not.
Nothing else has changed: other attributes are as they were, and so are other nodes. -/
structure ShownApart (p : Page) (as bs : List NodeId) (c : Bool) (p' : Page) : Prop where
  shown : ∀ x ∈ as, p'.isVisible (.node (some x)) = .ok c
  placeholder : ∀ x ∈ bs, p'.isVisible (.node (some x)) = .ok (!c)
  others : ∀ x, x ∉ as → x ∉ bs →
    p'.document.tree.element? (some x) = p.document.tree.element? (some x)
  sameBut : p.document.tree.SameBut p.config.hiddenAttribute p'.document.tree
  rest : p' = p.withTree p'.document.tree

section Twice

-- The elements `as` are marked as `c` says, and after that the elements `bs'` as it does not.
variable (hp : p.document.tree.SoundAttributes)
  (has : ∀ x ∈ as, p.document.tree.isElement (some x) = true)
  (h₁ : ElementsChanged p.document.tree as
    (·.toggleAttribute p.config.hiddenAttribute (some !c)) t₁)
  (hbs' : ∀ x ∈ bs', t₁.isElement (some x) = true)
  (h₂ : ElementsChanged t₁ bs' (·.toggleAttribute p.config.hiddenAttribute (some c)) t₂)
include hp has h₁ hbs' h₂

/-- **Of two changes the later one counts**: the elements that are marked last are shown apart from
the others that were marked before. -/
theorem shownApart_of_changed :
    ShownApart p (as.filter (· ∉ bs')) bs' c (p.withTree t₂) := by
  have hsound : t₁.SoundAttributes :=
    h₁.soundAttributes (fun e he => e.sound_toggleAttribute he _ _) hp
  refine ⟨fun x hx => ?_, fun x hx => ?_, fun x has' hx => ?_, ?_, rfl⟩
  · obtain ⟨hxa, hxb⟩ := List.mem_filter.mp hx
    have hxb : x ∉ bs' := of_decide_eq_true hxb
    have helement : t₁.isElement (some x) = true := by
      rw [h₁.frame.isElement_eq]
      exact has x hxa
    have hshown := h₁.isVisible_of_mem hp has hxa
    rw [Bool.not_not] at hshown
    rw [← hshown]
    exact Page.isVisible_congr (p := p.withTree t₁) (q := p.withTree t₂) rfl helement
      (h₂.element?_of_notMem hxb)
  · exact h₂.isVisible_of_mem (p := p.withTree t₁) hsound hbs' hx
  · have hxa : x ∉ as := fun hxa => has' (List.mem_filter.mpr ⟨hxa, decide_eq_true hx⟩)
    exact (h₂.element?_of_notMem hx).trans (h₁.element?_of_notMem hxa)
  · exact (h₁.sameBut has fun e => e.sameBut_toggleAttribute _ _).trans
      (h₂.sameBut hbs' fun e => e.sameBut_toggleAttribute _ _)

/-- **When what is done is what was asked for**: the elements that are marked last differ from those
asked for in elements only that are not in the target and look as wanted already. -/
theorem shownApart_iff (hbs : ∀ x ∈ bs, p.document.tree.isElement (some x) = true)
    (hdisjoint : ∀ x ∈ as, x ∉ bs) :
    ShownApart p as bs c (p.withTree t₂) ↔
      (∀ x ∈ as, x ∉ bs') ∧
      (∀ x ∈ bs, x ∉ bs' → p.isVisible (.node (some x)) = .ok (!c)) ∧
      ∀ x ∈ bs', x ∉ as → x ∉ bs → p.isVisible (.node (some x)) = .ok (!c) := by
  have hdone := shownApart_of_changed hp has h₁ hbs' h₂
  have helement : ∀ x ∈ bs', p.document.tree.isElement (some x) = true := by
    intro x hx
    rw [← h₁.frame.isElement_eq]
    exact hbs' x hx
  have hkept : ∀ x, x ∉ as → x ∉ bs' →
      t₂.element? (some x) = p.document.tree.element? (some x) := fun x hxa hxb =>
    (h₂.element?_of_notMem hxb).trans (h₁.element?_of_notMem hxa)
  have hlook : ∀ x, p.document.tree.isElement (some x) = true →
      t₂.element? (some x) = p.document.tree.element? (some x) →
      (p.withTree t₂).isVisible (.node (some x)) = p.isVisible (.node (some x)) := fun x hx h =>
    Page.isVisible_congr (p := p) (q := p.withTree t₂) rfl hx h
  constructor
  · intro hasked
    refine ⟨fun x hxa hxb => ?_, fun x hx hxb => ?_, fun x hx hxa hxb => ?_⟩
    · -- an element cannot be both
      have hboth := (hasked.shown x hxa).symm.trans (hdone.placeholder x hxb)
      cases c <;> cases hboth
    · have hxa : x ∉ as := fun hxa => hdisjoint x hxa hx
      rw [← hasked.placeholder x hx, hlook x (hbs x hx) (hkept x hxa hxb)]
    · rw [← hdone.placeholder x hx, hlook x (helement x hx) (hasked.others x hxa hxb)]
  · rintro ⟨happart, hmissing, hextra⟩
    refine ⟨fun x hx => ?_, fun x hx => ?_, fun x hxa hxb => ?_, hdone.sameBut, rfl⟩
    · exact hdone.shown x (List.mem_filter.mpr ⟨hx, decide_eq_true (happart x hx)⟩)
    · by_cases hxb : x ∈ bs'
      · exact hdone.placeholder x hxb
      · have hxa : x ∉ as := fun hxa => hdisjoint x hxa hx
        rw [← hmissing x hx hxb, hlook x (hbs x hx) (hkept x hxa hxb)]
    · by_cases hxb' : x ∈ bs'
      · -- the mark is as it should be, so it is not changed
        obtain ⟨e, he⟩ := Option.isSome_iff_exists.mp (helement x hxb')
        have hlooks := hextra x hxb' hxa hxb
        rw [Page.isVisible_node he, Except.ok.injEq, Bool.not_inj_iff] at hlooks
        have hread : t₁.element? (some x) = some e := (h₁.element?_of_notMem hxa).trans he
        have hsame : e.toggleAttribute p.config.hiddenAttribute (some c) = e := by
          unfold Element.toggleAttribute
          rw [Attributes.toggle_of_contains hlooks]
        show t₂.element? (some x) = _
        rw [h₂.targets x hxb', hread, Option.map_some, hsame, he]
      · exact hkept x hxa hxb'

end Twice

/-- **Showing on a condition with a placeholder**, where target and placeholder mean different
elements before the call: it succeeds. The placeholder is looked up when the target has been marked.
The elements that it means then are visible just if the condition does not hold, the other elements
of the target just if it does, and nothing else has changed. This is what was asked for just if the
placeholder means no element of the target then, and otherwise differs from what it meant before in
elements only that look as wanted already. It always is if the placeholder is given by nodes, or by
a selector that does not look at the mark. The attributes of every page that is reached are sound
(`soundAttributes_afterPageCalls`). -/
theorem showIf_spec (hname : Name.isValid p.config.hiddenAttribute = true)
    (hp : p.document.tree.SoundAttributes)
    (htarget : p.resolveAll target = .ok as) (hplaceholder : p.resolveAll placeholder = .ok bs)
    (has : ∀ x ∈ as, p.document.tree.isElement (some x) = true)
    (hbs : ∀ x ∈ bs, p.document.tree.isElement (some x) = true)
    (hdisjoint : ∀ x ∈ as, x ∉ bs) (c : Bool) :
    ∃ p₁ bs' p', Page.setHidden target (some !c) p = .ok () p₁ ∧
      p₁.resolveAll placeholder = .ok bs' ∧
      Page.showIf target c (some placeholder) p = .ok () p' ∧
      Page.hideIf target (!c) (some placeholder) p = .ok () p' ∧
      ShownApart p (as.filter (· ∉ bs')) bs' c p' ∧
      (ShownApart p as bs c p' ↔
        (∀ x ∈ as, x ∉ bs') ∧
        (∀ x ∈ bs, x ∉ bs' → p.isVisible (.node (some x)) = .ok (!c)) ∧
        ∀ x ∈ bs', x ∉ as → x ∉ bs → p.isVisible (.node (some x)) = .ok (!c)) ∧
      (¬ placeholder.LooksAt p.config.hiddenAttribute → ShownApart p as bs c p') := by
  obtain ⟨t₁, hfirst, h₁⟩ := setHidden_some hname hp htarget has (!c)
  have hsound : t₁.SoundAttributes :=
    h₁.soundAttributes (fun e he => e.sound_toggleAttribute he _ _) hp
  obtain ⟨bs', hagain, hbs'⟩ :=
    Page.exists_resolveAll (q := p.withTree t₁) hplaceholder hbs h₁.frame
  obtain ⟨t₂, hsecond, h₂⟩ := setHidden_some (p := p.withTree t₁) hname hsound hagain hbs' c
  have hrun : Page.showIf target c (some placeholder) p = .ok () (p.withTree t₂) := by
    unfold Page.showIf
    rw [bind_apply_of_ok hfirst]
    exact hsecond
  have hiff := shownApart_iff hp has h₁ hbs' h₂ hbs hdisjoint
  refine ⟨p.withTree t₁, bs', p.withTree t₂, hfirst, hagain, hrun, ?_,
    shownApart_of_changed hp has h₁ hbs' h₂, hiff, fun hblind => ?_⟩
  · rw [Page.hideIf, Bool.not_not]
    exact hrun
  · have hsame := h₁.sameBut has fun e =>
      e.sameBut_toggleAttribute p.config.hiddenAttribute (some !c)
    have hbs_eq : bs' = bs := by
      have hresolve := Page.resolveAll_eq_of_sameBut (q := p.withTree t₁) hsame hblind
      exact Except.ok.inj (hagain.symm.trans (hresolve.trans hplaceholder))
    rw [hbs_eq] at hiff
    exact hiff.mpr ⟨hdisjoint, fun x hx hxb => absurd hx hxb, fun x hx _ hxb => absurd hx hxb⟩

/-- A page whose head is hidden. -/
def hiddenHead : Page where
  document :=
    { tree := Document.skeletonTree.setElement 2 ((Element.ofTag "head").setAttribute "hidden" "")
      url := "about:blank" }

/-- The body is hidden, with everything that is hidden as its placeholder. The body is among it
then, so it is visible in the end. -/
theorem showIf_spec_hiddenHead :
    let target : Target := .node (some 3)
    let placeholder : Target := .selector "[hidden]"
    (Name.isValid hiddenHead.config.hiddenAttribute = true ∧
      hiddenHead.document.tree.SoundAttributes ∧ hiddenHead.resolveAll target = .ok [3] ∧
      hiddenHead.resolveAll placeholder = .ok [2] ∧
      (∀ x ∈ [3], hiddenHead.document.tree.isElement (some x) = true) ∧
      (∀ x ∈ [2], hiddenHead.document.tree.isElement (some x) = true) ∧
      ∀ x ∈ [3], x ∉ [2]) ∧
    ∃ p', Page.showIf target false (some placeholder) hiddenHead = .ok () p' ∧
      p'.isVisible (.node (some 3)) = .ok true ∧ ¬ ShownApart hiddenHead [3] [2] false p' := by
  intro target placeholder
  have hsound : hiddenHead.document.tree.SoundAttributes :=
    soundAttributes_skeletonTree.setElement (by decide +kernel)
      (Element.sound_setAttribute Attributes.sound_empty _ _)
  have hbody : hiddenHead.resolveAll target = .ok [3] := rfl
  have hbefore : hiddenHead.resolveAll placeholder = .ok [2] := by decide +kernel
  have hname : Name.isValid hiddenHead.config.hiddenAttribute = true := by decide +kernel
  have htarget : ∀ x ∈ [3], hiddenHead.document.tree.isElement (some x) = true := by
    decide +kernel
  have hhead : ∀ x ∈ [2], hiddenHead.document.tree.isElement (some x) = true := by
    decide +kernel
  obtain ⟨p₁, bs', p', hfirst, hagain, hrun, -, hdone, hiff, -⟩ :=
    showIf_spec hname hsound hbody hbefore htarget hhead (by decide) false
  have hmarked : (stateAfter (Page.setHidden target (some !false)) hiddenHead).resolveAll
      placeholder = .ok [2, 3] := by
    decide +kernel
  have hboth : bs' = [2, 3] := by
    rw [stateAfter_of_ok hfirst] at hmarked
    exact Except.ok.inj (hagain.symm.trans hmarked)
  refine ⟨⟨hname, hsound, hbody, hbefore, htarget, hhead, by decide⟩, p', hrun, ?_, ?_⟩
  · exact hdone.placeholder 3 (by simp [hboth])
  · intro hasked
    exact (hiff.mp hasked).1 3 (by simp) (by simp [hboth])

end WebPage
