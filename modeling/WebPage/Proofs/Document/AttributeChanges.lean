import WebPage.Proofs.Tree.SameBut
import WebPage.Style.Inline

/-!
# What a change of attributes does

Attributes are also changed through the classes and through the inline style of an element. Whatever
the way, and whatever reads the style, one change edits the entries of one name on one element, or
nothing at all.

## Main definitions

* `AttributeChange`, `AttributeChange.apply`: the changes
* `AttributeChange.name`: the name whose entries a change edits

## Main results

* `AttributeChange.edited`: a change that succeeds edits that name
* `AttributeChange.sameFrame`: it changes no link
-/

namespace WebPage

/-- A change of the attributes of one element, also through its classes or its inline style. -/
inductive AttributeChange where
  | set (node : NodeRef) (name value : String)
  | remove (node : NodeRef) (name : String)
  | toggle (node : NodeRef) (name : String) (force : Option Bool)
  | addClasses (node : NodeRef) (tokens : List String)
  | removeClasses (node : NodeRef) (tokens : List String)
  | toggleClass (node : NodeRef) (token : String) (force : Option Bool)
  | setStyle (reader : Style.Reader) (node : NodeRef) (name value : String) (important : Bool)
  | removeStyle (reader : Style.Reader) (node : NodeRef) (name : String)

/-- The tree after a change of attributes, which may fail. -/
def AttributeChange.apply (t : Tree) : AttributeChange → Except DomError Tree
  | set node name value => t.setAttribute node name value
  | remove node name => t.removeAttribute node name
  | toggle node name force => return (← t.toggleAttribute node name force).2
  | addClasses node tokens => t.addClasses node tokens
  | removeClasses node tokens => t.removeClasses node tokens
  | toggleClass node token force => return (← t.toggleClass node token force).2
  | setStyle reader node name value important =>
    return (← t.setStylePropertyWith reader node name value important).2
  | removeStyle reader node name => return (← t.removeStylePropertyWith reader node name).2

/-- The name of the attribute that a change edits. -/
def AttributeChange.name : AttributeChange → String
  | set _ name _ | remove _ name | toggle _ name _ => name
  | addClasses _ _ | removeClasses _ _ | toggleClass _ _ _ => "class"
  | setStyle _ _ _ _ _ | removeStyle _ _ _ => "style"

namespace Tree

variable {t t' : Tree} {r : NodeRef}

/-- The classes of an element are written into its attribute, or not at all. -/
theorem attributeEdited_updateClasses {α : Type} {a : α} {f : ClassTokens → α × ClassTokens}
    (h : t.updateClasses r f = .ok (a, t')) : t.AttributeEdited "class" t' := by
  refine attributeEdited_modifyElement (fun e => ?_) (modifyElement_of_updateElement h)
  dsimp only
  split
  · exact ⟨_, rfl, .inserted _⟩
  · exact ⟨e.attributes, rfl, .same⟩

theorem attributeEdited_writeStyle {style : Style.Declarations}
    (h : t.writeStyle r style = .ok t') : t.AttributeEdited "style" t' := by
  refine attributeEdited_modifyElement (fun e => ?_) h
  split
  · exact ⟨_, rfl, .inserted _⟩
  · exact ⟨e.attributes, rfl, .same⟩

theorem attributeEdited_setStylePropertyWith {reader : Style.Reader} {name value : String}
    {important b : Bool} (h : t.setStylePropertyWith reader r name value important = .ok (b, t')) :
    t.AttributeEdited "style" t' := by
  unfold setStylePropertyWith at h
  obtain ⟨name, -, h⟩ := bind_eq_ok.mp h
  obtain ⟨style, -, h⟩ := bind_eq_ok.mp h
  split at h
  next =>
    obtain ⟨t₁, h₁, h⟩ := bind_eq_ok.mp h
    cases h
    exact attributeEdited_writeStyle h₁
  next =>
    split at h
    next =>
      cases h
      exact .same
    next =>
      obtain ⟨t₁, h₁, h⟩ := bind_eq_ok.mp h
      cases h
      exact attributeEdited_writeStyle h₁

theorem attributeEdited_removeStylePropertyWith {reader : Style.Reader} {name : String}
    {old : Option String} (h : t.removeStylePropertyWith reader r name = .ok (old, t')) :
    t.AttributeEdited "style" t' := by
  unfold removeStylePropertyWith at h
  obtain ⟨name, -, h⟩ := bind_eq_ok.mp h
  obtain ⟨style, -, h⟩ := bind_eq_ok.mp h
  dsimp only at h
  split at h
  next =>
    obtain ⟨t₁, h₁, h⟩ := bind_eq_ok.mp h
    cases h
    exact attributeEdited_writeStyle h₁
  next =>
    cases h
    exact .same

end Tree

/-- **A change of attributes edits one name** on one element, or nothing. -/
theorem AttributeChange.edited {t t' : Tree} (change : AttributeChange)
    (h : change.apply t = .ok t') : t.AttributeEdited change.name t' := by
  unfold apply at h
  cases change with
  | set node name value =>
    obtain ⟨_, -, h⟩ := bind_eq_ok.mp h
    exact Tree.attributeEdited_modifyElement (fun e => ⟨_, rfl, .inserted value⟩) h
  | remove node name =>
    exact Tree.attributeEdited_modifyElement (fun e => ⟨_, rfl, .erased⟩) h
  | toggle node name force =>
    obtain ⟨b, h⟩ := return_snd_eq_ok.mp h
    obtain ⟨_, -, h⟩ := bind_eq_ok.mp h
    exact Tree.attributeEdited_modifyElement
      (fun e => ⟨_, rfl, e.attributes.edited_toggle name force⟩)
      (Tree.modifyElement_of_updateElement h)
  | addClasses node tokens | removeClasses node tokens =>
    obtain ⟨_, h⟩ := return_snd_eq_ok.mp h
    exact Tree.attributeEdited_updateClasses h
  | toggleClass node token force =>
    obtain ⟨b, h⟩ := return_snd_eq_ok.mp h
    unfold Tree.toggleClass at h
    split at h
    next =>
      cases h
      exact .same
    next => exact Tree.attributeEdited_updateClasses h
  | setStyle reader node name value important =>
    obtain ⟨b, h⟩ := return_snd_eq_ok.mp h
    exact Tree.attributeEdited_setStylePropertyWith h
  | removeStyle reader node name =>
    obtain ⟨old, h⟩ := return_snd_eq_ok.mp h
    exact Tree.attributeEdited_removeStylePropertyWith h

/-- **A change of attributes changes no link.** -/
theorem AttributeChange.sameFrame {t t' : Tree} (change : AttributeChange)
    (h : change.apply t = .ok t') : t.SameFrame t' :=
  (change.edited h).sameBut.frame

end WebPage
