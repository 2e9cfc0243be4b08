import WebPage.Tree.Elements

/-!
# Checked controls and selected options

Whether a control is checked is what was last written to it, or else whether it has the attribute
for it. Of the radio buttons of a tree with one name, checking one unchecks the others.

## Main definitions

* `Element.isChecked`, `Tree.checked`: the reading
* `Tree.radioGroup`: the other radio buttons of the group
* `Tree.setChecked`: the writing
* `Tree.selectedOption`: the option that a select control shows
-/

namespace WebPage

/-- Whether a control is checked or an option is selected. -/
def Element.isChecked (e : Element) : Bool :=
  e.form.checked.getD (e.attributes.contains (if e.tag = "option" then "selected" else "checked"))

/-- The control after its checkedness was written. -/
def Element.writeChecked (e : Element) (checked : Bool) : Element :=
  { e with form := { e.form with checked := some checked } }

/-- The name of the group that a radio button belongs to; one without a name belongs to none. -/
def Element.radioName? (e : Element) : Option String :=
  if e.isRadio then (e.attributes.get? "name").filter fun name => !name.isEmpty else none

namespace Tree

/-- Whether a control is checked or an option is selected. -/
def checked (t : Tree) (r : NodeRef) : Except DomError Bool :=
  return (← t.element r).isChecked

/-- Whether a reference names an element that is checked or selected. -/
def isCheckedAt (t : Tree) (r : NodeRef) : Bool :=
  (t.element? r).any Element.isChecked

/-- The other radio buttons with the same name in the same tree, in document order. -/
def radioGroup (t : Tree) (r : NodeRef) : Except DomError (List NodeId) := do
  let e ← t.element r
  match e.radioName? with
  | none => pure []
  | some name =>
    pure ((t.descendants (t.treeRoot r)).filter fun other =>
      some other != r && (t.element? (some other)).any fun o => o.radioName? == some name)

/-- Writes the checkedness of one control and of no other. -/
def writeChecked (t : Tree) (r : NodeRef) (checked : Bool) : Except DomError Tree :=
  t.modifyElement r fun e => e.writeChecked checked

/-- Writes the checkedness of a control. Checking a radio button unchecks the rest of its group. -/
def setChecked (t : Tree) (r : NodeRef) (checked : Bool) : Except DomError Tree := do
  let t ← t.writeChecked r checked
  if checked then
    (← t.radioGroup r).foldlM (fun t other => t.writeChecked (some other) false) t
  else pure t

/-- The options below a node in document order. -/
def options (t : Tree) (r : NodeRef) : List NodeId :=
  (t.descendants r).filter fun id => t.hasTag "option" (some id)

/-- The option that a select control shows: of the selected ones the last, or the first where many
may be selected. If none is selected and nobody wrote to any, a control for one option shows the
first that is not disabled. -/
def selectedOption (t : Tree) (r : NodeRef) : NodeRef :=
  let options := t.options r
  let multiple := (t.element? r).any fun e => e.attributes.contains "multiple"
  let selected := options.filter fun id => t.isCheckedAt (some id)
  match if multiple then selected.head? else selected.getLast? with
  | some id => some id
  | none =>
    let written := options.any fun id => (t.element? (some id)).any fun e => e.form.checked.isSome
    if multiple || written then none
    else options.find? fun id =>
      !(t.element? (some id)).any fun e => e.attributes.contains "disabled"

end Tree

end WebPage
