import WebPage.Event

/-!
# Listeners of an element

An element keeps its listeners in the order of their registration. A registration is known by the
type of the event, the listener and the capture flag, and no two agree in all three.

## Main definitions

* `Listener`: the identity of a listener
* `ListenerOptions`, `Registration`: how it is registered
* `Registration.key`: the type, the listener and the capture flag of a registration
* `Listeners`: the registrations of one element
* `Listeners.add`, `Listeners.remove`: changes, with whether there was one
* `Listeners.registered`, `Listeners.matching`: what an event calls
* `Handlers`: the one handler per event type that an element has besides
-/

namespace WebPage

/-- A listener is an identity; what it does to an event is a `Behaviour`. -/
structure Listener where
  id : Nat
deriving DecidableEq, Repr, Inhabited

/-- What each listener does to the event that it is shown. -/
abbrev Behaviour := Listener → Event → List EventAction

/-- How a listener is registered. -/
structure ListenerOptions where
  /-- It is called on the way down instead of on the way up. -/
  capture : Bool := false
  /-- It is called once at most. -/
  once : Bool := false
  /-- It cannot prevent the default. -/
  passive : Bool := false
deriving DecidableEq, Repr, Inhabited

/-- One registration. -/
structure Registration where
  type : String
  listener : Listener
  options : ListenerOptions
deriving DecidableEq, Repr

/-- What a registration is known by. -/
def Registration.key (r : Registration) : String × Listener × Bool :=
  (r.type, r.listener, r.options.capture)

/-- Whether a registration is the one that these three name. -/
def Registration.isFor (type : String) (listener : Listener) (capture : Bool)
    (r : Registration) : Bool :=
  r.type == type && r.listener == listener && r.options.capture == capture

theorem Registration.isFor_iff {type : String} {listener : Listener} {capture : Bool}
    {r : Registration} :
    r.isFor type listener capture = true ↔ r.key = (type, listener, capture) := by
  simp [isFor, key, and_assoc]

/-- Whether a registration is called on a leg of the journey, its type apart. -/
def Registration.firesIn (r : Registration) : EventPhase → Bool
  | .none => false
  | .capturing => r.options.capture
  | .atTarget => true
  | .bubbling => !r.options.capture

/-- The registrations of one element, in order. -/
structure Listeners where
  entries : List Registration
  distinct : (entries.map Registration.key).Nodup
deriving DecidableEq, Repr

namespace Listeners

theorem distinct_nil : (([] : List Registration).map Registration.key).Nodup :=
  List.nodup_nil

/-- No registrations. -/
def empty : Listeners :=
  ⟨[], distinct_nil⟩

instance : EmptyCollection Listeners := ⟨empty⟩

instance : Inhabited Listeners := ⟨empty⟩

/-- Whether there is a registration for these three. -/
def contains (l : Listeners) (type : String) (listener : Listener) (capture : Bool) : Bool :=
  l.entries.any (Registration.isFor type listener capture)

/-- The number of registrations. -/
def size (l : Listeners) : Nat :=
  l.entries.length

/-- Whether there is no registration. -/
def isEmpty (l : Listeners) : Bool :=
  l.entries.isEmpty

/-- The number of registrations for a type. -/
def count (l : Listeners) (type : String) : Nat :=
  l.entries.countP fun r => r.type == type

theorem distinct_concat (l : Listeners) {type : String} {listener : Listener}
    {options : ListenerOptions} (h : ¬ l.contains type listener options.capture) :
    ((l.entries ++ [(⟨type, listener, options⟩ : Registration)]).map Registration.key).Nodup := by
  simp only [contains, List.any_eq_true, Registration.isFor_iff] at h
  rw [List.map_append, List.nodup_append]
  refine ⟨l.distinct, by simp, ?_⟩
  rintro _ hr _ hs rfl
  obtain ⟨r, hr, he⟩ := List.mem_map.mp hr
  exact h ⟨r, hr, he.trans (List.mem_singleton.mp hs)⟩

/-- Registers a listener and gives `true`, or leaves all as it is if there is such a
registration. -/
def add (l : Listeners) (type : String) (listener : Listener) (options : ListenerOptions) :
    Bool × Listeners :=
  if h : l.contains type listener options.capture then (false, l)
  else (true, ⟨l.entries ++ [⟨type, listener, options⟩], l.distinct_concat h⟩)

/-- Takes a registration out, and gives whether there was one. -/
def remove (l : Listeners) (type : String) (listener : Listener) (capture : Bool) :
    Bool × Listeners :=
  (l.contains type listener capture,
    ⟨l.entries.eraseP (Registration.isFor type listener capture),
      l.distinct.sublist (List.eraseP_sublist.map Registration.key)⟩)

/-- The registrations that an event of this type finds on this leg. -/
def registered (l : Listeners) (type : String) (phase : EventPhase) : List Registration :=
  l.entries.filter fun r => r.type == type && r.firesIn phase

/-- The listeners that an event of this type calls on this leg, with their options. -/
def matching (l : Listeners) (type : String) (phase : EventPhase) :
    List (Listener × ListenerOptions) :=
  (l.registered type phase).map fun r => (r.listener, r.options)

end Listeners

/-- The handler of each event type, one at most. -/
structure Handlers where
  entries : List (String × Listener) := []
deriving DecidableEq, Repr, Inhabited

namespace Handlers

/-- The handler of a type. -/
def get? (h : Handlers) (type : String) : Option Listener :=
  h.entries.lookup type

/-- The handlers without the one of a type. -/
def erase (h : Handlers) (type : String) : Handlers :=
  ⟨h.entries.filter fun entry => entry.1 != type⟩

/-- Assigns the handler of a type, or clears it. -/
def set (h : Handlers) (type : String) : Option Listener → Handlers
  | some listener => ⟨(h.erase type).entries ++ [(type, listener)]⟩
  | none => h.erase type

/-- The types that have a handler, sorted. -/
def types (h : Handlers) : List String :=
  (h.entries.map Prod.fst).mergeSort fun s t => decide (s ≤ t)

end Handlers

end WebPage
