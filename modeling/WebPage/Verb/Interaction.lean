import WebPage.Document.Activation
import WebPage.Document.Focus
import WebPage.Verb

/-!
# Verbs on events

## Main definitions

* `Page.addListener`, `Page.removeListener`, `Page.setListener`, `Page.clearListener`: who is called
* `Page.trigger`, `Page.click`, `Page.focus`, `Page.blur`: what happens
* `Page.isElement`: whether a node is the one that a target means
-/

namespace WebPage.Page

/-- Registers a listener with every node. -/
def addListener (target : Target) (type : String) (listener : Listener)
    (options : ListenerOptions) : Verb Unit :=
  editAll target fun d r => d.addEventListener r type listener options

/-- Takes the registration of a listener out of every node. -/
def removeListener (target : Target) (type : String) (listener : Listener)
    (options : ListenerOptions) : Verb Unit :=
  editAll target fun d r => d.removeEventListener r type listener options

/-- Assigns the handler of every node for a type of events. -/
def setListener (target : Target) (type : String) (listener : Listener) : Verb Unit :=
  editAll target fun d r => d.setEventHandler r type (some listener)

/-- Clears the handler of every node for a type of events. -/
def clearListener (target : Target) (type : String) : Verb Unit :=
  editAll target fun d r => d.setEventHandler r type none

/-- Dispatches an event that bubbles and can be cancelled at every node. -/
def trigger (behaviour : Behaviour) (target : Target) (type : String) : Verb Unit :=
  editAll target fun d r => do
    let (_, d) ← d.dispatch behaviour { type, target := r, bubbles := true, cancelable := true }
    pure d

/-- Clicks the first node, and gives whether the click went through. -/
def click (behaviour : Behaviour) (target : Target) : Verb Bool :=
  actOnFirst target fun d r => d.click behaviour r

/-- Gives the first node the focus, and gives whether it has it now. -/
def focus (behaviour : Behaviour) (target : Target) : Verb Bool :=
  actOnFirst target fun d r => d.focus behaviour r

/-- Takes the focus from the first node. -/
def blur (behaviour : Behaviour) (target : Target) : Verb Unit :=
  actOnFirst target fun d r => return ((), ← d.blur behaviour r)

/-- Whether a node is the first of a target. -/
def isElement (p : Page) (target : Target) (node : NodeRef) : Except VerbError Bool :=
  match node with
  | none => pure false
  | some _ => return (← lift (p.resolve target)) == node

end WebPage.Page
