import WebPage.Document.Focus
import WebPage.Proofs.Tree.Elements

/-!
# Trees that agree but for one attribute

A call that writes or removes an attribute touches the entries of one name, on the elements that it
is made for. What is read of the other attributes, of the tag and of the state of controls stays,
and so do all links.

## Main definitions

* `Attributes.Edited`: a map after a write or a removal under a name
* `Element.SameBut`, `Tree.SameBut`: elements and trees that agree but for one attribute
* `Tree.AttributeEdited`: a tree after a write or a removal under a name

## Main results

* `Tree.attributeEdited_modifyElement`: a change of one element that edits one attribute
* `Tree.AttributeEdited.soundAttributes`, `Tree.AttributeEdited.sameBut`: what an edit keeps
* `Element.SameBut.takesFocus`, `Element.SameBut.isDisabled`, `Element.SameBut.isChecked`: readings
  that look at certain other attributes
-/

namespace WebPage

/-! ## Maps -/

namespace Attributes

variable {a b : Attributes} {name other : String}

/-- A map after a write or a removal under a name, or without either. -/
inductive Edited (name : String) (a : Attributes) : Attributes → Prop
  | same : Edited name a a
  | inserted (value : String) : Edited name a (a.insert name value)
  | erased : Edited name a (a.erase name)

theorem edited_toggle (a : Attributes) (name : String) (force : Option Bool) :
    a.Edited name (a.toggle name force).2 := by
  unfold toggle
  dsimp only
  split
  · exact .inserted ""
  · split
    · exact .erased
    · exact .same

theorem Edited.sound (h : a.Edited name b) (ha : a.Sound) : b.Sound := by
  cases h with
  | same => exact ha
  | inserted value => exact ha.insert name value
  | erased => exact ha.erase name

/-- The other names have the values that they had. -/
theorem Edited.get?_of_ne (h : a.Edited name b) (hne : Text.equalsIgnoringCase name other = false) :
    b.get? other = a.get? other := by
  cases h with
  | same => rfl
  | inserted value => rw [get?_insert, if_neg (by simp [hne])]
  | erased => exact get?_erase_of_ne a hne

end Attributes

/-! ## Elements -/

namespace Element

variable {name other : String} {e e' e'' : Element}

/-- Flips or forces the presence of an attribute. -/
def toggleAttribute (e : Element) (name : String) (force : Option Bool) : Element :=
  { e with attributes := (e.attributes.toggle name force).2 }

/-- Takes an attribute out. -/
def eraseAttribute (e : Element) (name : String) : Element :=
  { e with attributes := e.attributes.erase name }

/-- The elements agree but for the attribute `name`. -/
structure SameBut (name : String) (e e' : Element) : Prop where
  rest : { e' with attributes := e.attributes } = e
  others : ∀ other, Text.equalsIgnoringCase name other = false →
    e'.attributes.get? other = e.attributes.get? other

theorem sameBut_of_edited {a : Attributes} (h : e.attributes.Edited name a) :
    e.SameBut name { e with attributes := a } :=
  ⟨rfl, fun _ hne => h.get?_of_ne hne⟩

theorem sameBut_toggleAttribute (e : Element) (name : String) (force : Option Bool) :
    e.SameBut name (e.toggleAttribute name force) :=
  sameBut_of_edited (e.attributes.edited_toggle name force)

namespace SameBut

theorem refl (name : String) (e : Element) : e.SameBut name e :=
  ⟨rfl, fun _ _ => rfl⟩

theorem trans (h : e.SameBut name e') (h' : e'.SameBut name e'') : e.SameBut name e'' := by
  refine ⟨?_, fun other hne => (h'.others other hne).trans (h.others other hne)⟩
  rw [← h.rest, ← h'.rest]

theorem tag_eq (h : e.SameBut name e') : e'.tag = e.tag :=
  (congrArg Element.tag h.rest :)

theorem form_eq (h : e.SameBut name e') : e'.form = e.form :=
  (congrArg Element.form h.rest :)

theorem contains_eq (h : e.SameBut name e') (hne : Text.equalsIgnoringCase name other = false) :
    e'.attributes.contains other = e.attributes.contains other := by
  rw [← Attributes.isSome_get?, ← Attributes.isSome_get?, h.others other hne]

theorem inputType?_eq (h : e.SameBut name e')
    (htype : Text.equalsIgnoringCase name "type" = false) : e'.inputType? = e.inputType? := by
  rw [inputType?, inputType?, h.tag_eq, h.others "type" htype]

theorem isFormControl_eq (h : e.SameBut name e') : e'.isFormControl = e.isFormControl := by
  rw [isFormControl, isFormControl, h.tag_eq]

/-- Whether a control is disabled is read off one attribute. -/
theorem isDisabled_eq (h : e.SameBut name e')
    (hdisabled : Text.equalsIgnoringCase name "disabled" = false) :
    e'.isDisabled = e.isDisabled := by
  rw [isDisabled, isDisabled, h.isFormControl_eq, h.contains_eq hdisabled]

/-- Whether an element takes the focus by itself is read off three attributes. -/
theorem takesFocus_eq (h : e.SameBut name e')
    (htabindex : Text.equalsIgnoringCase name "tabindex" = false)
    (hhref : Text.equalsIgnoringCase name "href" = false)
    (htype : Text.equalsIgnoringCase name "type" = false) : e'.takesFocus = e.takesFocus := by
  unfold takesFocus
  rw [h.tag_eq, h.contains_eq htabindex, h.contains_eq hhref, h.inputType?_eq htype]

/-- Whether a control that nobody wrote to is checked is read off one of two attributes. -/
theorem isChecked_eq (h : e.SameBut name e')
    (hchecked : Text.equalsIgnoringCase name "checked" = false)
    (hselected : Text.equalsIgnoringCase name "selected" = false) :
    e'.isChecked = e.isChecked := by
  unfold isChecked
  rw [h.form_eq, h.tag_eq]
  split
  · rw [h.contains_eq hselected]
  · rw [h.contains_eq hchecked]

end SameBut

end Element

/-! ## Trees -/

namespace Tree

variable {name : String} {t t' t'' : Tree} {r : NodeRef} {id : NodeId} {e e' : Element}

/-- The trees have the same nodes in the same places, and their elements agree but for the attribute
`name`. -/
structure SameBut (name : String) (t t' : Tree) : Prop where
  frame : SameFrame t t'
  elements : ∀ r e, t.element? r = some e → ∃ e', t'.element? r = some e' ∧ e.SameBut name e'
  others : ∀ r, t.isElement r = false → t'.node? r = t.node? r

namespace SameBut

theorem refl (name : String) (t : Tree) : t.SameBut name t :=
  ⟨.refl t, fun _ e he => ⟨e, he, .refl name e⟩, fun _ _ => rfl⟩

theorem trans (h : t.SameBut name t') (h' : t'.SameBut name t'') : t.SameBut name t'' := by
  refine ⟨h.frame.trans h'.frame, fun r e he => ?_, fun r hr => ?_⟩
  · obtain ⟨e', he', hsame⟩ := h.elements r e he
    obtain ⟨e'', he'', hsame'⟩ := h'.elements r e' he'
    exact ⟨e'', he'', hsame.trans hsame'⟩
  · have hr' : t'.isElement r = false := by rw [h.frame.isElement_eq, hr]
    rw [h'.others r hr', h.others r hr]

theorem setElement (he : t.element? (some id) = some e) (h : e.SameBut name e') :
    t.SameBut name (t.setElement id e') := by
  have hid := isElement_of_element? he
  refine ⟨sameFrame_setElement hid, fun r e₀ he₀ => ?_, fun r hr => ?_⟩
  · rw [element?_setElement hid]
    split
    next hr =>
      obtain rfl := hr
      obtain rfl : e = e₀ := Option.some.inj (he.symm.trans he₀)
      exact ⟨e', rfl, h⟩
    next => exact ⟨e₀, he₀, .refl name e₀⟩
  · have hne : r ≠ some id := by
      rintro rfl
      rw [hid] at hr
      cases hr
    rw [Tree.setElement, setData, node?_modify, if_neg hne]

/-- A reading of elements that agrees for elements that agree but for the attribute. -/
theorem element?_map_eq {α : Type} {f : Element → α} (h : t.SameBut name t')
    (hf : ∀ e e' : Element, e.SameBut name e' → f e' = f e) (r : NodeRef) :
    (t'.element? r).map f = (t.element? r).map f := by
  cases he : t.element? r with
  | some e =>
    obtain ⟨e', he', hsame⟩ := h.elements r e he
    rw [he', Option.map_some, Option.map_some, hf e e' hsame]
  | none =>
    have hnone : t'.isElement r = false := by
      rw [h.frame.isElement_eq, isElement, he]
      rfl
    rw [isElement, Option.isSome_eq_false_iff, Option.isNone_iff_eq_none] at hnone
    rw [hnone]

end SameBut

/-- A tree after one attribute of one element was edited, or none. -/
inductive AttributeEdited (name : String) (t : Tree) : Tree → Prop
  | same : AttributeEdited name t t
  | edited {id : NodeId} {e : Element} {a : Attributes} (he : t.element? (some id) = some e)
      (ha : e.attributes.Edited name a) :
      AttributeEdited name t (t.setElement id { e with attributes := a })

/-- A change of an element that gives a value is a change of an element. -/
theorem modifyElement_of_updateElement {α : Type} {a : α} {f : Element → α × Element}
    (h : t.updateElement r f = .ok (a, t')) : t.modifyElement r (fun e => (f e).2) = .ok t' := by
  unfold updateElement at h
  unfold modifyElement
  cases he : t.element r with
  | error err =>
    rw [he] at h
    cases h
  | ok e =>
    rw [he] at h
    obtain ⟨-, rfl⟩ := Prod.mk.inj (Except.ok.inj h)
    rfl

/-- **A change of one element that edits an attribute.** -/
theorem attributeEdited_modifyElement {f : Element → Element}
    (hf : ∀ e, ∃ a, f e = { e with attributes := a } ∧ e.attributes.Edited name a)
    (ht : t.modifyElement r f = .ok t') : t.AttributeEdited name t' := by
  obtain ⟨id, e, rfl, he, rfl⟩ := modifyElement_eq_ok.mp ht
  obtain ⟨a, hfe, ha⟩ := hf e
  rw [hfe]
  exact .edited he ha

namespace AttributeEdited

theorem soundAttributes (h : t.AttributeEdited name t') (ht : t.SoundAttributes) :
    t'.SoundAttributes := by
  cases h with
  | same => exact ht
  | edited he ha => exact ht.setElement (isElement_of_element? he) (ha.sound (ht _ _ he))

theorem sameBut (h : t.AttributeEdited name t') : t.SameBut name t' := by
  cases h with
  | same => exact .refl name t
  | edited he ha => exact .setElement he (Element.sameBut_of_edited ha)

end AttributeEdited

end Tree

end WebPage
