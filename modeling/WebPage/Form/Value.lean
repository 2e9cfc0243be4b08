import WebPage.Form.Checkedness
import WebPage.Tree.TextContent

/-!
# Values of form controls

A control for text shows what was last written to it, or else its attribute `value`. Buttons,
options and hidden or checkable inputs have no value but the attribute. A select control has the
value of the option that it shows.

## Main definitions

* `Element.ownValue?`: the value of a control that needs no other node for it
* `Tree.value`: the reading
* `Tree.setValue`: the writing
-/

namespace WebPage

/-- The value of a control as far as it lies in the control itself: what was written, or the
attribute. -/
def Element.ownValue? (e : Element) : Option String :=
  let initial := e.attributes.get? "value"
  match e.tag with
  | "textarea" => e.form.value
  | "option" => initial
  | "select" => none
  | "button" => some (initial.getD "")
  | _ =>
    match e.inputType? with
    | some type =>
      if type.isCheckable then some (initial.getD "on")
      else if type.valueIsAttribute then some (initial.getD "")
      else some ((e.form.value.or initial).getD "")
    | none => some ((e.form.value.or initial).getD "")

namespace Tree

/-- The value of an option: its attribute, or its text with single spaces. -/
def optionValue (t : Tree) (r : NodeRef) : Except DomError String := do
  match (← t.element r).ownValue? with
  | some value => pure value
  | none => return Text.collapse (← t.textContent r)

/-- The value of a control. -/
def value (t : Tree) (r : NodeRef) : Except DomError String := do
  let e ← t.element r
  match e.ownValue? with
  | some value => pure value
  | none =>
    match e.tag with
    | "select" =>
      match t.selectedOption r with
      | some id => t.optionValue (some id)
      | none => pure ""
    | "option" => t.optionValue r
    | _ => t.textContent r

/-- Selects the first option that has the value, and no other. -/
def selectValue (value : String) : List NodeId → Bool → Tree → Except DomError Tree
  | [], _, t => pure t
  | id :: rest, found, t => do
    let selected := !found && (← t.optionValue (some id)) == value
    selectValue value rest (found || selected) (← t.writeChecked (some id) selected)

/-- Writes the value of a control: into its attribute if that is all the value there is, into its
options if it is a select control, and else into the control. -/
def setValue (t : Tree) (r : NodeRef) (value : String) : Except DomError Tree := do
  let e ← t.element r
  if e.tag = "option" || e.tag = "button" || e.inputType?.any InputType.valueIsAttribute then
    t.modifyElement r fun e => e.setAttribute "value" value
  else if e.tag = "select" then
    selectValue value (t.options r) false t
  else
    t.modifyElement r fun e => { e with form := { e.form with value := some value } }

end Tree

end WebPage
