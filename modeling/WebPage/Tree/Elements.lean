import WebPage.Name
import WebPage.Tree.Insertion

/-!
# Changing the elements of a tree

Attributes and classes of an element that is named by its place in the arena. No link changes here.

## Main definitions

* `Tree.modifyElement`: applies a change to one element
* `Tree.setAttribute`, `Tree.removeAttribute`, `Tree.toggleAttribute`: attributes
* `Tree.addClasses`, `Tree.removeClasses`, `Tree.toggleClass`: classes
-/

namespace WebPage.Tree

/-- Replaces the data of one element. -/
def setElement (t : Tree) (id : NodeId) (e : Element) : Tree :=
  t.setData id (.element e)

/-- Changes one element and gives what the change gives. -/
def updateElement {α : Type} (t : Tree) (r : NodeRef) (f : Element → α × Element) :
    Except DomError (α × Tree) := do
  let (a, e) := f (← t.element r)
  pure (a, r.elim t fun id => t.setElement id e)

/-- Changes one element. -/
def modifyElement (t : Tree) (r : NodeRef) (f : Element → Element) : Except DomError Tree := do
  let e ← t.element r
  pure (r.elim t fun id => t.setElement id (f e))

/-! ## Attributes -/

/-- The value of an attribute. -/
def attribute? (t : Tree) (r : NodeRef) (name : String) : Except DomError (Option String) :=
  return (← t.element r).attributes.get? name

/-- Whether an attribute is present. -/
def hasAttribute (t : Tree) (r : NodeRef) (name : String) : Except DomError Bool :=
  return (← t.element r).attributes.contains name

/-- Writes an attribute with a valid name. -/
def setAttribute (t : Tree) (r : NodeRef) (name value : String) : Except DomError Tree := do
  Name.validate name
  t.modifyElement r fun e => e.setAttribute name value

/-- Takes an attribute out, if it is present. -/
def removeAttribute (t : Tree) (r : NodeRef) (name : String) : Except DomError Tree :=
  t.modifyElement r fun e => { e with attributes := e.attributes.erase name }

/-- Flips or forces the presence of an attribute with a valid name, and gives whether it is present
now. -/
def toggleAttribute (t : Tree) (r : NodeRef) (name : String) (force : Option Bool) :
    Except DomError (Bool × Tree) := do
  Name.validate name
  t.updateElement r fun e =>
    let (present, attributes) := e.attributes.toggle name force
    (present, { e with attributes })

/-! ## Classes -/

/-- Changes the classes of an element through its attribute. An element without the attribute does
not get one for an empty set. -/
def updateClasses {α : Type} (t : Tree) (r : NodeRef) (f : ClassTokens → α × ClassTokens) :
    Except DomError (α × Tree) :=
  t.updateElement r fun e =>
    let (a, classes) := f e.classes
    (a, if e.attributes.contains "class" || !classes.isEmpty
      then e.setAttribute "class" classes.value else e)

/-- Adds tokens to the classes of an element. -/
def addClasses (t : Tree) (r : NodeRef) (tokens : List String) : Except DomError Tree :=
  return (← t.updateClasses r fun classes => ((), classes.add tokens)).2

/-- Removes tokens from the classes of an element. -/
def removeClasses (t : Tree) (r : NodeRef) (tokens : List String) : Except DomError Tree :=
  return (← t.updateClasses r fun classes => ((), classes.remove tokens)).2

/-- Flips or forces one token of the classes of an element, and gives whether it is one now. The
empty token is never one, on whatever node. -/
def toggleClass (t : Tree) (r : NodeRef) (token : String) (force : Option Bool) :
    Except DomError (Bool × Tree) :=
  if token.isEmpty then .ok (false, t)
  else t.updateClasses r fun classes => classes.toggle token force

/-- Whether a text is a class of an element. -/
def hasClass (t : Tree) (r : NodeRef) (token : String) : Except DomError Bool :=
  return (← t.element r).hasClass token

end WebPage.Tree
