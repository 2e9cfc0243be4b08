import WebPage.Document.Dispatch
import WebPage.Form.Checkedness

/-!
# Clicking

A click on a checkbox flips it, and a click on a radio button checks it, before the listeners are
called. If they prevent the default, the control and its group are put back; if not, and the control
has changed, it reports its new state with the events `input` and `change`. A disabled control does
not react.

Like giving the focus, clicking is written for any way to send an event.

## Main definitions

* `Document.preactivate`: the change before the listeners are called
* `Document.rollBack`: puts the control and its group back
* `Document.reportChangeBy`: the events after a change
* `Document.settleBy`: what comes after the event of the click
* `Document.clickBy`: the whole click, for any way to send events
* `Document.click`: the same with events that are dispatched
-/

namespace WebPage.Document

/-- The document with a control checked or unchecked. -/
def setChecked (d : Document) (r : NodeRef) (checked : Bool) : Except DomError Document :=
  return { d with tree := ← d.tree.setChecked r checked }

/-- What a click does to a control before its listeners are called. -/
def preactivate (d : Document) (r : NodeRef) (type : Option InputType) (wasChecked : Bool) :
    Except DomError Document :=
  match type with
  | some .checkbox => d.setChecked r (!wasChecked)
  | some .radio => d.setChecked r true
  | _ => pure d

/-- Puts a control back as it was, and checks the radio button again that was checked before. -/
def rollBack (d : Document) (r : NodeRef) (wasChecked : Bool) (previous : NodeRef) :
    Except DomError Document := do
  let d ← d.setChecked r wasChecked
  match previous with
  | some p => d.setChecked (some p) true
  | none => pure d

section Sending

variable {m : Type → Type} [Monad m] [MonadLiftT (Except DomError) m]
  (send : Document → Event → m (Bool × Document))

/-- Reports a new state of a control. -/
def reportChangeBy (d : Document) (r : NodeRef) : m Document := do
  let (_, d) ← send d { type := "input", target := r, bubbles := true }
  let (_, d) ← send d { type := "change", target := r, bubbles := true }
  return d

/-- What a click on the element `e` does when its listeners have been called: it goes through or is
taken back. -/
def settleBy (e : Element) (r previous : NodeRef) (proceed : Bool) (d : Document) :
    m (Bool × Document) := do
  if !e.isCheckable then return (proceed, d)
  if !proceed then return (false, ← d.rollBack r e.isChecked previous)
  if (← d.tree.checked r) != e.isChecked then return (true, ← reportChangeBy send d r)
  return (true, d)

/-- Clicks an element, and gives whether the click went through. -/
def clickBy (d : Document) (r : NodeRef) : m (Bool × Document) := do
  let e ← d.tree.element r
  if e.isDisabled then return (false, d)
  -- what is checked of the group is looked for before the control is written
  let previous := (← d.tree.radioGroup r).find? fun id => d.tree.isCheckedAt (some id)
  let d ← d.preactivate r e.inputType? e.isChecked
  let (proceed, d) ← send d { type := "click", target := r, bubbles := true, cancelable := true }
  settleBy send e r previous proceed d

end Sending

/-! ## With events that are dispatched -/

def click (behaviour : Behaviour) (d : Document) (r : NodeRef) :
    Except DomError (Bool × Document) :=
  clickBy (dispatch behaviour) d r

end WebPage.Document
