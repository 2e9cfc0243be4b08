import WebPage.Document.Dispatch

/-!
# Focus

One element at most has the focus. It is told when it gets it and when it loses it.

Giving and taking the focus are written for any way to send an event, in any monad to which the
failures of a document can be lifted. A document sends its events by dispatching them; whoever wants
to know which ones there are sends them in another way.

## Main definitions

* `Document.isFocusable`: whether an element can have the focus
* `Document.activeElement`: the element that has it
* `Document.focusBy`, `Document.blurBy`: giving and taking it, for any way to send events
* `Document.focus`, `Document.blur`: the same with events that are dispatched
-/

namespace WebPage

/-- Whether an element takes the focus by itself, in a document or not. -/
def Element.takesFocus (e : Element) : Bool :=
  e.attributes.contains "tabindex" ||
    match e.tag with
    | "a" | "area" => e.attributes.contains "href"
    | "input" => e.inputType? != some .hidden
    | "button" | "select" | "textarea" | "iframe" | "summary" => true
    | _ => false

namespace Document

/-- Whether a node is an element that can have the focus now. -/
def isFocusable (d : Document) (r : NodeRef) : Bool :=
  (d.tree.element? r).any fun e => d.isConnected r && !e.isDisabled && e.takesFocus

/-- The element with the focus, or else the body. -/
def activeElement (d : Document) : NodeRef :=
  (d.focused.filter fun id => d.isConnected (some id)).or d.body

section Sending

variable {m : Type → Type} [Monad m] [MonadLiftT (Except DomError) m]
  (send : Document → Event → m (Bool × Document))

/-- Tells an element that it gets or loses the focus. -/
def announceBy (d : Document) (type : String) (r : NodeRef) : m Document :=
  return (← send d { type, target := r }).2

/-- Takes the focus from the element that has it, and tells it so if it is still in the tree. -/
def dropFocusBy (d : Document) : m Document :=
  let old := d.focused
  let d := { d with focused := none }
  if d.isConnected old then announceBy send d "blur" old else pure d

/-- Gives an element the focus if it can have it, and gives whether it has it now. -/
def focusBy (d : Document) (r : NodeRef) : m (Bool × Document) := do
  let _ ← d.tree.element r
  if !d.isFocusable r then return (false, d)
  if d.focused = r then return (true, d)
  let d ← dropFocusBy send d
  let d ← announceBy send { d with focused := r } "focus" r
  return (true, d)

/-- Takes the focus from an element that has it. -/
def blurBy (d : Document) (r : NodeRef) : m Document := do
  let _ ← d.tree.element r
  if d.focused = r then announceBy send { d with focused := none } "blur" r else pure d

end Sending

/-! ## With events that are dispatched -/

def focus (behaviour : Behaviour) (d : Document) (r : NodeRef) :
    Except DomError (Bool × Document) :=
  focusBy (dispatch behaviour) d r

def blur (behaviour : Behaviour) (d : Document) (r : NodeRef) : Except DomError Document :=
  blurBy (dispatch behaviour) d r

end Document

end WebPage
