import WebPage.Proofs.Page.Classes
import WebPage.Proofs.Tree.SameBut

/-!
# Verbs that change elements

A verb on attributes or classes makes one check, which does not look at the page, and one change of
an element, at each node of its target in turn. What it does to a page can be told from that change.

## Main definitions

* `Target.given?`: the nodes of a target that gives them itself
* `Page.changeAll`: a check and a change of an element, at each node of a target

## Main results

* `toggleAttribute_eq`, `setAttribute_eq`, …: the verbs of this kind
* `Element.toggleAttribute_toggleAttribute`, `Element.eraseAttribute_eraseAttribute`,
  `Element.setAttribute_setAttribute`: changes of sound attributes that do nothing the second time
* `ElementsChanged.sameBut`, `ElementsChanged.soundAttributes`: what a change of elements keeps
-/

namespace WebPage

open WebPage.Tree

theorem Name.validate_of_isValid {name : String} (h : isValid name = true) :
    validate name = .ok () := by
  rw [validate, if_pos h]

/-! ## Changes of one element -/

namespace Element

variable {e : Element}

theorem setAttribute_setAttribute (e : Element) (name value : String) :
    (e.setAttribute name value).setAttribute name value = e.setAttribute name value := by
  unfold setAttribute
  rw [Attributes.insert_insert]

theorem eraseAttribute_eraseAttribute (h : e.attributes.Sound) (name : String) :
    (e.eraseAttribute name).eraseAttribute name = e.eraseAttribute name := by
  unfold eraseAttribute
  rw [h.erase_erase]

theorem toggleAttribute_toggleAttribute (h : e.attributes.Sound) (name : String)
    (wanted : Bool) :
    (e.toggleAttribute name (some wanted)).toggleAttribute name (some wanted) =
      e.toggleAttribute name (some wanted) := by
  unfold toggleAttribute
  rw [h.toggle_toggle]

theorem sound_toggleAttribute (h : e.attributes.Sound) (name : String) (force : Option Bool) :
    (e.toggleAttribute name force).attributes.Sound :=
  h.toggle name force

theorem sound_eraseAttribute (h : e.attributes.Sound) (name : String) :
    (e.eraseAttribute name).attributes.Sound :=
  h.erase name

theorem sound_forceClasses (h : e.attributes.Sound) (wanted : Bool) (tokens : List String) :
    (e.forceClasses wanted tokens).attributes.Sound := by
  unfold forceClasses writeClasses
  split
  · exact sound_setAttribute h _ _
  · exact h

end Element

/-! ## Targets -/

/-- The nodes of a target that gives them itself, without the references to no node. -/
def Target.given? : Target → Option (List NodeId)
  | .selector _ => none
  | .node r => some r.toList
  | .nodes rs => some (rs.filterMap id)

@[simp] theorem Target.given?_nodes (ids : List NodeId) :
    (Target.nodes (ids.map some)).given? = some ids := by
  simp [given?]

/-- A verb goes through the nodes that its target gives. -/
theorem forAll_of_given {target : Target} {ids : List NodeId} (h : target.given? = some ids)
    (f : NodeId → Verb Unit) : Page.forAll target f = ids.forM f := by
  funext p
  cases target with
  | selector s => cases h
  | node r | nodes rs =>
    obtain rfl := Option.some.inj h
    rfl

/-! ## The verbs -/

/-- Makes a check, and changes an element, at each node of a target. -/
def Page.changeAll (target : Target) (check : Except DomError Unit) (f : Element → Element) :
    Verb Unit :=
  editTreeAll target fun t r => do
    check
    t.modifyElement r f

section Verbs

variable (target : Target) (name : String)

theorem setAttribute_eq (value : Option String) : Page.setAttribute target name value =
    Page.changeAll target (Name.validate name) (·.setAttribute name (value.getD "")) :=
  rfl

theorem setClassName_eq (value : String) : Page.setClassName target value =
    Page.changeAll target (Name.validate "class") (·.setAttribute "class" value) :=
  rfl

theorem removeAttribute_eq : Page.removeAttribute target name =
    Page.changeAll target (.ok ()) (·.eraseAttribute name) :=
  rfl

theorem Tree.toggleAttribute_eq (t : Tree) (r : NodeRef) (force : Option Bool) :
    (return (← t.toggleAttribute r name force).2) = (do
      Name.validate name
      t.modifyElement r (·.toggleAttribute name force)) := by
  unfold Tree.toggleAttribute updateElement modifyElement
  cases Name.validate name with
  | error e => rfl
  | ok _ => cases t.element r <;> rfl

theorem toggleAttribute_eq (force : Option Bool) : Page.toggleAttribute target name force =
    Page.changeAll target (Name.validate name) (·.toggleAttribute name force) :=
  congrArg (Page.editTreeAll target)
    (funext fun t => funext fun r => Tree.toggleAttribute_eq name t r force)

/-- The verbs on the hidden mark toggle the attribute that the page has for it. -/
theorem setHidden_apply (hidden : Option Bool) (p : Page) :
    Page.setHidden target hidden p =
      Page.changeAll target (Name.validate p.config.hiddenAttribute)
        (·.toggleAttribute p.config.hiddenAttribute hidden) p := by
  rw [Page.setHidden, get_bind_apply, toggleAttribute_eq]

theorem changeAll_ok (f : Element → Element) : Page.changeAll target (.ok ()) f =
    Page.editTreeAll target (·.modifyElement · f) :=
  rfl

end Verbs

/-! ## What a change of elements keeps -/

namespace ElementsChanged

variable {t t' : Tree} {ids : List NodeId} {f : Element → Element} {x : NodeId} {name : String}

theorem element?_of_notMem (h : ElementsChanged t ids f t') (hx : x ∉ ids) :
    t'.element? (some x) = t.element? (some x) := by
  rw [element?, element?, h.others x hx]

theorem soundAttributes (h : ElementsChanged t ids f t')
    (hf : ∀ e : Element, e.attributes.Sound → (f e).attributes.Sound) (ht : t.SoundAttributes) :
    t'.SoundAttributes := by
  intro r e he
  cases r with
  | none => cases he
  | some x =>
    by_cases hx : x ∈ ids
    · rw [h.targets x hx, Option.map_eq_some_iff] at he
      obtain ⟨e₀, he₀, rfl⟩ := he
      exact hf e₀ (ht _ _ he₀)
    · rw [h.element?_of_notMem hx] at he
      exact ht _ _ he

theorem sameBut (h : ElementsChanged t ids f t')
    (he : ∀ x ∈ ids, t.isElement (some x) = true) (hf : ∀ e : Element, e.SameBut name (f e)) :
    t.SameBut name t' := by
  refine ⟨h.frame, fun r e hread => ?_, fun r hr => ?_⟩
  · cases r with
    | none => cases hread
    | some x =>
      by_cases hx : x ∈ ids
      · refine ⟨f e, ?_, hf e⟩
        rw [h.targets x hx, hread, Option.map_some]
      · refine ⟨e, ?_, .refl name e⟩
        rw [h.element?_of_notMem hx, hread]
  · cases r with
    | none => rfl
    | some x =>
      by_cases hx : x ∈ ids
      · rw [he x hx] at hr
        cases hr
      · exact h.others x hx

end ElementsChanged

end WebPage
