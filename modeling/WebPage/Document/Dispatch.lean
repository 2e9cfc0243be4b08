import WebPage.Document

/-!
# Dispatching events

An event goes down from the topmost ancestor of its target to the target and, if it bubbles, back
up. At each element it calls the listeners that are registered for its type and, except on the way
down, the handler for its type. A listener that stops the event lets it finish with the element that
it is at.

A listener can change the type of the event. Which listeners are called at an element is fixed on
arrival there; a registration for one call is taken out under the type that the event has then.

## Main definitions

* `Journey`: an event on its way through a document
* `Journey.visit`: calls the listeners of one element
* `Document.dispatch`: the whole journey
* `Document.addEventListener`, `Document.removeEventListener`, `Document.setEventHandler`: who is
  called
-/

namespace WebPage

/-- An event on its way through a document. -/
structure Journey where
  document : Document
  event : Event

namespace Journey

/-- Calls a listener: it is shown the event, which goes into the journal, and acts on it. -/
def call (behaviour : Behaviour) (listener : Listener) (registration : Option Registration)
    (j : Journey) : Journey where
  document :=
    { j.document with journal := j.document.journal ++ [⟨listener, registration, j.event⟩] }
  event := (behaviour listener j.event).foldl Event.apply j.event

/-- Takes a registration out of the listeners of a node. -/
def unregister (node : NodeId) (listener : Listener) (capture : Bool) (j : Journey) : Journey :=
  match j.document.tree.element? (some node) with
  | none => j
  | some e =>
    let e := { e with listeners := (e.listeners.remove j.event.type listener capture).2 }
    { j with document := { j.document with tree := j.document.tree.setElement node e } }

/-- Calls a registered listener as its options say: a registration for one call is taken out before
the call. -/
def callRegistered (behaviour : Behaviour) (node : NodeId) (j : Journey) (r : Registration) :
    Journey :=
  let j := if r.options.once then j.unregister node r.listener r.options.capture else j
  let j := { j with event := { j.event with inPassiveListener := r.options.passive } }
  let j := j.call behaviour r.listener (some r)
  { j with event := { j.event with inPassiveListener := false } }

/-- Calls the listeners of one node on one leg, and then its handler. A node that is no element has
none. -/
def visit (behaviour : Behaviour) (phase : EventPhase) (j : Journey) (node : NodeId) : Journey :=
  match j.document.tree.element? (some node) with
  | none => j
  | some e =>
    let registered := e.listeners.registered j.event.type phase
    let handler := if phase = .capturing then none else e.handlers.get? j.event.type
    let j := { j with event := { j.event with currentTarget := some node, phase } }
    let j := registered.foldl (callRegistered behaviour node) j
    match handler with
    | some listener => j.call behaviour listener none
    | none => j

/-- Calls the listeners of one node, unless the event has been stopped. -/
def visitUnlessStopped (behaviour : Behaviour) (phase : EventPhase) (j : Journey)
    (node : NodeId) : Journey :=
  if j.event.propagationStopped then j else j.visit behaviour phase node

/-- Takes an event down its path to the target, and back up if it bubbles then. The path holds the
elements above the target, the lowest first. -/
def run (behaviour : Behaviour) (path : List NodeId) (target : NodeId) (j : Journey) : Journey :=
  let j := path.reverse.foldl (visitUnlessStopped behaviour .capturing) j
  let j := j.visitUnlessStopped behaviour .atTarget target
  if j.event.bubbles then path.foldl (visitUnlessStopped behaviour .bubbling) j else j

end Journey

namespace Document

/-- Dispatches an event at its target, and gives whether its default goes ahead. -/
def dispatch (behaviour : Behaviour) (d : Document) (event : Event) :
    Except DomError (Bool × Document) := do
  let _ ← d.tree.node event.target
  let path := (d.tree.ancestors event.target).filter fun id => d.tree.isElement (some id)
  match event.target with
  | none => throw (.notFound none)
  | some target =>
    let j := Journey.run behaviour path target ⟨d, event⟩
    pure (!j.event.defaultPrevented, j.document)

/-- Registers a listener with an element. -/
def addEventListener (d : Document) (r : NodeRef) (type : String) (listener : Listener)
    (options : ListenerOptions) : Except DomError Document := do
  let tree ← d.tree.modifyElement r fun e =>
    { e with listeners := (e.listeners.add type listener options).2 }
  pure { d with tree }

/-- Takes the registration of a listener out of an element. -/
def removeEventListener (d : Document) (r : NodeRef) (type : String) (listener : Listener)
    (options : ListenerOptions) : Except DomError Document := do
  let tree ← d.tree.modifyElement r fun e =>
    { e with listeners := (e.listeners.remove type listener options.capture).2 }
  pure { d with tree }

/-- Assigns the handler of an element for a type of events, or clears it. -/
def setEventHandler (d : Document) (r : NodeRef) (type : String) (handler : Option Listener) :
    Except DomError Document := do
  let tree ← d.tree.modifyElement r fun e => { e with handlers := e.handlers.set type handler }
  pure { d with tree }

/-- The handler of an element for a type of events. -/
def eventHandler (d : Document) (r : NodeRef) (type : String) : Except DomError (Option Listener) :=
  return (← d.tree.element r).handlers.get? type

end Document

end WebPage
