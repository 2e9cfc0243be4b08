import WebPage.Proofs.Document.Registrations

/-!
# Transcripts

An event that is shown to one listener after another is changed by each, so what a listener is
shown depends on what those before it did. The transcript of an event is the list of the calls that
this makes, each with the event as the listener is shown it; the outcome is the event afterwards.

Where an event stands is set anew for each call. Events that agree once they are at rest have the
same transcript.

## Main definitions

* `Callee`: someone whom an event calls, and where
* `Event.transcript`, `Event.outcome`: the calls, and the event after them
* `Event.atRest`: an event apart from where it stands
* `Behaviour.KeepsType`: listeners that do not write the type
* `Behaviour.Quiet`: listeners that prevent and stop, and do nothing else
* `ListenerCall.prevents`, `ListenerCall.stops`: what such a call does to the event

## Main results

* `Event.transcript_append`, `Event.outcome_append`: callees after callees
* `Event.pairwise_transcript`: a relation between callees, read off their calls
* `Event.type_of_mem_transcript`: the type that the callees are shown, if nobody writes it
* `Event.outcome_of_quiet`: a quiet outcome is prevented or stopped if one of the calls did it
* `Event.event_of_transcript_eq`: a quiet listener is shown what the calls before have left
-/

namespace WebPage

/-- Someone whom an event calls: a registered listener, or a handler. -/
structure Callee where
  node : NodeId
  phase : EventPhase
  listener : Listener
  registration : Option Registration

namespace Callee

/-- The event as a callee is shown it. -/
def shown (k : Callee) (e : Event) : Event :=
  { e with
    currentTarget := some k.node
    phase := k.phase
    inPassiveListener := k.registration.elim e.inPassiveListener fun r => r.options.passive }

/-- The call of a callee. -/
def call (k : Callee) (e : Event) : ListenerCall :=
  ⟨k.listener, k.registration, k.shown e⟩

/-- The event after a callee has acted on it. -/
def after (behaviour : Behaviour) (k : Callee) (e : Event) : Event :=
  let e' := (behaviour k.listener (k.shown e)).foldl Event.apply (k.shown e)
  { e' with inPassiveListener := k.registration.elim e'.inPassiveListener fun _ => false }

end Callee

namespace Event

/-- The calls that showing an event to one callee after another makes. -/
def transcript (behaviour : Behaviour) (e : Event) : List Callee → List ListenerCall
  | [] => []
  | k :: ks => k.call e :: transcript behaviour (k.after behaviour e) ks

/-- The event after it was shown to one callee after another. -/
def outcome (behaviour : Behaviour) (e : Event) (ks : List Callee) : Event :=
  ks.foldl (fun e k => k.after behaviour e) e

/-- The event apart from where it stands. -/
def atRest (e : Event) : Event :=
  { e with currentTarget := none, phase := .none }

section Transcript

variable {behaviour : Behaviour} {e e' : Event} {k : Callee} {ks ks' : List Callee}
  {c : ListenerCall}

theorem transcript_append :
    e.transcript behaviour (ks ++ ks') =
      e.transcript behaviour ks ++ (e.outcome behaviour ks).transcript behaviour ks' := by
  induction ks generalizing e with
  | nil => rfl
  | cons k ks ih => exact congrArg (k.call e :: ·) ih

theorem outcome_append :
    e.outcome behaviour (ks ++ ks') = (e.outcome behaviour ks).outcome behaviour ks' :=
  List.foldl_append

/-- What a callee is shown does not depend on where the event stood before. -/
theorem shown_congr (h : e.atRest = e'.atRest) : k.shown e = k.shown e' := by
  have hs : k.shown e.atRest = k.shown e'.atRest := congrArg k.shown h
  exact hs

theorem transcript_congr (h : e.atRest = e'.atRest) :
    e.transcript behaviour ks = e'.transcript behaviour ks := by
  cases ks with
  | nil => rfl
  | cons k ks => simp only [transcript, Callee.call, Callee.after, shown_congr h]

theorem outcome_congr (behaviour : Behaviour) (ks : List Callee) (h : e.atRest = e'.atRest) :
    (e.outcome behaviour ks).atRest = (e'.outcome behaviour ks).atRest := by
  cases ks with
  | nil => exact h
  | cons k ks => simp only [outcome, List.foldl_cons, Callee.after, shown_congr h]

/-- A call in a transcript is the call of one of the callees. -/
theorem exists_of_mem_transcript (h : c ∈ e.transcript behaviour ks) :
    ∃ k ∈ ks, ∃ e', c = k.call e' := by
  induction ks generalizing e with
  | nil => cases h
  | cons k ks ih =>
    rcases List.mem_cons.mp h with rfl | h
    · exact ⟨k, List.mem_cons_self, e, rfl⟩
    · obtain ⟨k', hk, he⟩ := ih h
      exact ⟨k', List.mem_cons_of_mem k hk, he⟩

/-- **A relation between callees in order is one between their calls.** -/
theorem pairwise_transcript {R : Callee → Callee → Prop} {S : ListenerCall → ListenerCall → Prop}
    (hRS : ∀ k k' e e', R k k' → S (k.call e) (k'.call e')) (h : ks.Pairwise R) :
    (e.transcript behaviour ks).Pairwise S := by
  induction ks generalizing e with
  | nil => exact List.Pairwise.nil
  | cons k ks ih =>
    obtain ⟨hk, h⟩ := List.pairwise_cons.mp h
    refine List.pairwise_cons.mpr ⟨fun c hc => ?_, ih h⟩
    obtain ⟨k', hk', e', rfl⟩ := exists_of_mem_transcript hc
    exact hRS k k' e e' (hk k' hk')

end Transcript

end Event

/-! ## Listeners that keep the type -/

/-- Listeners that do not write the type of an event. -/
def Behaviour.KeepsType (behaviour : Behaviour) : Prop :=
  ∀ listener e type, EventAction.setType type ∉ behaviour listener e

namespace Event

variable {behaviour : Behaviour} {e : Event} {k : Callee} {ks : List Callee} {c : ListenerCall}

theorem type_foldl_apply {actions : List EventAction}
    (h : ∀ type, EventAction.setType type ∉ actions) :
    (actions.foldl apply e).type = e.type := by
  induction actions generalizing e with
  | nil => rfl
  | cons action actions ih =>
    refine (ih fun type hmem => h type (List.mem_cons_of_mem action hmem)).trans ?_
    cases action with
    | setType type => exact absurd List.mem_cons_self (h type)
    | preventDefault =>
      simp only [apply, preventDefault]
      split <;> rfl
    | _ => rfl

theorem type_after (hb : behaviour.KeepsType) (k : Callee) (e : Event) :
    (k.after behaviour e).type = e.type :=
  type_foldl_apply (e := k.shown e) (hb k.listener (k.shown e))

/-- Listeners that keep the type are all shown the one that the event set out with. -/
theorem type_of_mem_transcript (hb : behaviour.KeepsType) (h : c ∈ e.transcript behaviour ks) :
    c.event.type = e.type := by
  induction ks generalizing e with
  | nil => cases h
  | cons k ks ih =>
    rcases List.mem_cons.mp h with rfl | h
    · rfl
    · exact (ih h).trans (type_after hb k e)

end Event

/-! ## Quiet listeners -/

/-- Listeners that prevent the default and stop the event, and write no field of it. -/
def Behaviour.Quiet (behaviour : Behaviour) : Prop :=
  ∀ listener e, ∀ action ∈ behaviour listener e,
    action = .preventDefault ∨ action = .stopPropagation

theorem Behaviour.Quiet.keepsType {behaviour : Behaviour} (hb : behaviour.Quiet) :
    behaviour.KeepsType := by
  intro listener e type hmem
  rcases hb listener e _ hmem with h | h <;> cases h

namespace ListenerCall

/-- Whether a call prevents the default: the listener asks for it, and it may. -/
def prevents (behaviour : Behaviour) (c : ListenerCall) : Bool :=
  c.event.cancelable && !c.event.inPassiveListener &&
    (behaviour c.listener c.event).contains .preventDefault

/-- Whether a call stops the event. -/
def stops (behaviour : Behaviour) (c : ListenerCall) : Bool :=
  (behaviour c.listener c.event).contains .stopPropagation

end ListenerCall

namespace Event

/-- The event after calls that prevented its default or stopped it. -/
def heard (behaviour : Behaviour) (e : Event) (calls : List ListenerCall) : Event :=
  { e with
    defaultPrevented := e.defaultPrevented || calls.any (ListenerCall.prevents behaviour)
    propagationStopped := e.propagationStopped || calls.any (ListenerCall.stops behaviour) }

variable {behaviour : Behaviour} {e : Event} {k : Callee} {ks : List Callee} {c : ListenerCall}

theorem heard_append {calls calls' : List ListenerCall} :
    (e.heard behaviour calls).heard behaviour calls' = e.heard behaviour (calls ++ calls') := by
  simp [heard, Bool.or_assoc]

theorem foldl_apply_of_quiet {actions : List EventAction}
    (h : ∀ action ∈ actions, action = .preventDefault ∨ action = .stopPropagation) :
    actions.foldl apply e =
      { e with
        defaultPrevented := e.defaultPrevented ||
          (e.cancelable && !e.inPassiveListener && actions.contains .preventDefault)
        propagationStopped := e.propagationStopped || actions.contains .stopPropagation } := by
  induction actions generalizing e with
  | nil => simp
  | cons action actions ih =>
    obtain ⟨ha, h⟩ := List.forall_mem_cons.mp h
    rw [List.foldl_cons, ih h]
    rcases ha with rfl | rfl
    -- preventing counts only for an event that allows it
    · cases hc : e.cancelable && !e.inPassiveListener <;> simp [apply, preventDefault, hc]
    · simp [apply, stopPropagation]

/-- Quiet listeners write neither the type of an event nor whether it bubbles. -/
theorem outcome_fields_of_quiet (hb : behaviour.Quiet) (ks : List Callee) (e : Event) :
    (e.outcome behaviour ks).type = e.type ∧ (e.outcome behaviour ks).bubbles = e.bubbles := by
  induction ks generalizing e with
  | nil => exact ⟨rfl, rfl⟩
  | cons k ks ih =>
    have hf := foldl_apply_of_quiet (e := k.shown e) (hb k.listener (k.shown e))
    have hk : (k.after behaviour e).type = e.type ∧ (k.after behaviour e).bubbles = e.bubbles := by
      simp only [Callee.after, hf]
      exact ⟨rfl, rfl⟩
    exact ⟨(ih _).1.trans hk.1, (ih _).2.trans hk.2⟩

theorem after_of_quiet (hb : behaviour.Quiet) (he : e.inPassiveListener = false) :
    (k.after behaviour e).atRest = (e.heard behaviour [k.call e]).atRest := by
  have hf := foldl_apply_of_quiet (e := k.shown e) (hb k.listener (k.shown e))
  simp only [Callee.after, hf]
  cases hr : k.registration <;>
    simp [atRest, heard, ListenerCall.prevents, ListenerCall.stops, Callee.call, Callee.shown, hr,
      he]

/-- **A quiet outcome**: the default is prevented if it was before or if one of the calls prevents
it, and the event is stopped if it was before or if one of the calls stops it. -/
theorem outcome_of_quiet (hb : behaviour.Quiet) (he : e.inPassiveListener = false)
    (ks : List Callee) :
    (e.outcome behaviour ks).atRest = (e.heard behaviour (e.transcript behaviour ks)).atRest := by
  induction ks generalizing e with
  | nil => simp [outcome, transcript, heard]
  | cons k ks ih =>
    have ha := after_of_quiet (k := k) hb he
    have hp : (k.after behaviour e).inPassiveListener = false :=
      (congrArg inPassiveListener ha).trans he
    -- the first call is heard, then the others, of the event that it left
    calc (e.outcome behaviour (k :: ks)).atRest
        = ((k.after behaviour e).outcome behaviour ks).atRest := rfl
      _ = (k.after behaviour e).atRest.heard behaviour
            ((k.after behaviour e).transcript behaviour ks) := ih hp
      _ = (e.heard behaviour [k.call e]).atRest.heard behaviour
            ((k.after behaviour e).transcript behaviour ks) := by rw [ha]
      _ = ((e.heard behaviour [k.call e]).heard behaviour
            ((k.after behaviour e).transcript behaviour ks)).atRest := rfl
      _ = (e.heard behaviour (e.transcript behaviour (k :: ks))).atRest := by
            rw [heard_append, List.singleton_append, transcript]

/-- **What quiet listeners are shown**: the event as the calls before have left it, at the node and
on the leg of the call; in a passive listener it cannot be prevented. -/
theorem event_of_transcript_eq (hb : behaviour.Quiet) (he : e.inPassiveListener = false)
    {xs ys : List ListenerCall} (h : e.transcript behaviour ks = xs ++ c :: ys) :
    c.event =
      { e.heard behaviour xs with
        currentTarget := c.event.currentTarget
        phase := c.event.phase
        inPassiveListener := c.registration.any fun r => r.options.passive } := by
  induction ks generalizing e xs with
  | nil => simp [transcript] at h
  | cons k ks ih =>
    have ha := after_of_quiet (k := k) hb he
    have hp : (k.after behaviour e).inPassiveListener = false :=
      (congrArg inPassiveListener ha).trans he
    rw [transcript] at h
    -- the call is that of `k`, or one of those after it
    cases xs with
    | nil =>
      obtain ⟨rfl, -⟩ := List.cons.inj h
      cases hr : k.registration <;> simp [Callee.call, Callee.shown, heard, hr, he]
    | cons x xs =>
      obtain ⟨rfl, htail⟩ := List.cons.inj h
      have hheard : ((k.after behaviour e).heard behaviour xs).atRest =
          (e.heard behaviour (k.call e :: xs)).atRest := by
        calc ((k.after behaviour e).heard behaviour xs).atRest
            = (k.after behaviour e).atRest.heard behaviour xs := rfl
          _ = ((e.heard behaviour [k.call e]).heard behaviour xs).atRest := by
                rw [ha]
                rfl
          _ = (e.heard behaviour (k.call e :: xs)).atRest := by
                rw [heard_append, List.singleton_append]
      have hshow := congrArg (fun e' : Event =>
        { e' with
          currentTarget := c.event.currentTarget
          phase := c.event.phase
          inPassiveListener := c.registration.any fun r : Registration => r.options.passive })
        hheard
      exact (ih hp htail).trans hshow

end Event

end WebPage
