import WebPage.NodeId

/-!
# Events

An event travels down to its target and, if it bubbles, back up. A listener that is called is shown
the event, and may act on it.

## Main definitions

* `EventPhase`: the leg of the journey
* `Event`: an event on its way
* `EventAction`: what a listener may do to an event
* `Event.apply`: the event after an action
-/

namespace WebPage

/-- The leg of its journey that an event is on. -/
inductive EventPhase where
  | none
  | capturing
  | atTarget
  | bubbling
deriving DecidableEq, Repr, Inhabited

/-- An event on its way. A fresh one is on no leg, does not bubble and cannot be cancelled. -/
structure Event where
  type : String
  target : NodeRef
  currentTarget : NodeRef := Option.none
  phase : EventPhase := EventPhase.none
  bubbles : Bool := false
  cancelable : Bool := false
  defaultPrevented : Bool := false
  propagationStopped : Bool := false
  /-- The listener that runs has promised not to prevent the default. -/
  inPassiveListener : Bool := false
deriving DecidableEq, Repr

/-- What a listener may do to the event that it is shown. -/
inductive EventAction where
  | preventDefault
  | stopPropagation
  | setBubbles (bubbles : Bool)
  | setCancelable (cancelable : Bool)
  | setType (type : String)
deriving DecidableEq, Repr

namespace Event

/-- Prevents the default, if the event can be cancelled and the listener that runs may do so. -/
def preventDefault (e : Event) : Event :=
  if e.cancelable && !e.inPassiveListener then { e with defaultPrevented := true } else e

/-- Ends the journey after the node that the event is at. -/
def stopPropagation (e : Event) : Event :=
  { e with propagationStopped := true }

/-- The event after one action. -/
def apply (e : Event) : EventAction → Event
  | .preventDefault => e.preventDefault
  | .stopPropagation => e.stopPropagation
  | .setBubbles bubbles => { e with bubbles }
  | .setCancelable cancelable => { e with cancelable }
  | .setType type => { e with type }

end Event

end WebPage
