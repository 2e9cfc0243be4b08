import WebPage.Proofs.Document.Transcript

/-!
# Journeys

A journey is a list of visits. What one visit calls is read off the document at the arrival: the
registrations for the type and the leg in order, then the handler. A journey of several visits calls
what each of them finds when the event arrives there, and not before.

A registration that is taken out on the way down is one for the way down, so it is not missed on the
way up. Visits that do not meet the same listeners therefore find what they would have found in the
document from which the journey set out.

## Main definitions

* `Visit`: a node, and the leg on which the event is there
* `Document.registrationsAt`, `Document.handlerAt?`, `Document.callees`: whom a visit calls
* `Journey.Hears j ks j'`: calling `ks` turns one journey into the other
* `Journey.travel`: the event visits one node after another
* `itinerary`: the visits of an event, from the path above its target

## Main results

* `Journey.hears_visit`: a visit calls its callees
* `Document.callees_of_apart`: visits apart do not disturb each other
* `Journey.run_eq_travel`: an event travels along its itinerary
-/

namespace WebPage

/-- A node, and the leg of the journey on which the event is there. -/
structure Visit where
  phase : EventPhase
  node : NodeId
deriving DecidableEq

/-- The handler of a node for a type of events: the listener of the first entry for the type. -/
def Document.handlerAt? (d : Document) (type : String) (n : NodeId) : Option Listener :=
  (d.tree.element? (some n)).bind fun e =>
    (e.handlers.entries.find? fun entry => entry.1 = type).map Prod.snd

/-- The registrations that an event of a type calls on a visit, in order: on the way down those with
capture, at the target all of them, and on the way up those without capture. -/
def Document.registrationsAt (d : Document) (type : String) (v : Visit) : List Registration :=
  let forType := (d.registrations v.node).filter fun r => r.type == type
  match v.phase with
  | .none => []
  | .capturing => forType.filter fun r => r.options.capture
  | .atTarget => forType
  | .bubbling => forType.filter fun r => !r.options.capture

/-- A registration as a callee. -/
def Visit.registered (v : Visit) (r : Registration) : Callee :=
  ⟨v.node, v.phase, r.listener, some r⟩

/-- A handler as a callee. -/
def Visit.handling (v : Visit) (listener : Listener) : Callee :=
  ⟨v.node, v.phase, listener, none⟩

/-- Whom an event of a type calls on a visit: the registrations for this leg and then, except on the
way down, the handler. -/
def Document.callees (d : Document) (type : String) (v : Visit) : List Callee :=
  (d.registrationsAt type v).map v.registered ++
    if v.phase = .capturing then [] else (d.handlerAt? type v.node).toList.map v.handling

/-! ## What the code looks up -/

/-- The lookup of a handler finds the first entry for its type. -/
theorem Handlers.get?_eq_find? (h : Handlers) (type : String) :
    h.get? type = (h.entries.find? fun entry => entry.1 = type).map Prod.snd := by
  unfold get?
  induction h.entries with
  | nil => rfl
  | cons entry entries ih =>
    obtain ⟨key, listener⟩ := entry
    rw [List.lookup_cons, List.find?_cons]
    by_cases hkey : key = type
    · simp [hkey]
    · simp [beq_eq_false_iff_ne.mpr (Ne.symm hkey), hkey, ih]

namespace Document

variable {d : Document} {e : Element} {type : String} {v : Visit} {n : NodeId} {r : Registration}

theorem handlerAt?_of_element? (he : d.tree.element? (some n) = some e) :
    d.handlerAt? type n = e.handlers.get? type := by
  rw [handlerAt?, he, Handlers.get?_eq_find?]
  rfl

/-- The registrations that fire on a leg are those that it calls. -/
theorem registrationsAt_eq_filter (d : Document) (type : String) (v : Visit) :
    d.registrationsAt type v =
      (d.registrations v.node).filter fun r => r.type == type && r.firesIn v.phase := by
  obtain ⟨phase, n⟩ := v
  cases phase with
  | none => simp [registrationsAt, Registration.firesIn]
  | capturing => simp [registrationsAt, Registration.firesIn, List.filter_filter, Bool.and_comm]
  | atTarget => simp [registrationsAt, Registration.firesIn]
  | bubbling => simp [registrationsAt, Registration.firesIn, List.filter_filter, Bool.and_comm]

theorem registrationsAt_of_element? (he : d.tree.element? (some v.node) = some e) :
    d.registrationsAt type v = e.listeners.registered type v.phase := by
  rw [registrationsAt_eq_filter, registrations_of_element he]
  rfl

theorem mem_registrationsAt :
    r ∈ d.registrationsAt type v ↔
      r ∈ d.registrations v.node ∧ r.type = type ∧ r.firesIn v.phase = true := by
  rw [registrationsAt_eq_filter, List.mem_filter, Bool.and_eq_true, beq_iff_eq]

end Document

namespace Journey

variable {behaviour : Behaviour} {j j' j'' : Journey} {k : Callee} {ks ks' : List Callee}

/-- Calling callees turns one journey into the other. -/
structure Hears (behaviour : Behaviour) (j : Journey) (ks : List Callee) (j' : Journey) : Prop where
  event : j'.event.atRest = (j.event.outcome behaviour ks).atRest
  called : j.document.Called (j.event.transcript behaviour ks) j'.document
  content : j.document.SameContent j'.document

namespace Hears

theorem type_eq (h : Hears behaviour j ks j') :
    j'.event.type = (j.event.outcome behaviour ks).type := by
  have ht := congrArg Event.type h.event
  exact ht

theorem bubbles_eq (h : Hears behaviour j ks j') :
    j'.event.bubbles = (j.event.outcome behaviour ks).bubbles := by
  have hb := congrArg Event.bubbles h.event
  exact hb

theorem refl (j : Journey) : Hears behaviour j [] j := ⟨rfl, .refl _, .refl _⟩

theorem trans (h : Hears behaviour j ks j') (h' : Hears behaviour j' ks' j'') :
    Hears behaviour j (ks ++ ks') j'' := by
  refine ⟨?_, ?_, h.content.trans h'.content⟩
  · rw [h'.event, Event.outcome_congr behaviour ks' h.event, Event.outcome_append]
  · rw [Event.transcript_append, ← Event.transcript_congr h.event]
    exact h.called.trans h'.called

end Hears

/-! ## One call -/

/-- The event is at a node, on a leg. -/
structure At (v : Visit) (j : Journey) : Prop where
  node : j.event.currentTarget = some v.node
  phase : j.event.phase = v.phase

/-- Actions leave the event where it is. -/
theorem foldl_apply_at (actions : List EventAction) (e : Event) :
    (actions.foldl Event.apply e).currentTarget = e.currentTarget ∧
      (actions.foldl Event.apply e).phase = e.phase := by
  induction actions generalizing e with
  | nil => exact ⟨rfl, rfl⟩
  | cons action actions ih =>
    have ha : (e.apply action).currentTarget = e.currentTarget ∧
        (e.apply action).phase = e.phase := by
      cases action with
      | preventDefault =>
        simp only [Event.apply, Event.preventDefault]
        constructor <;> split <;> rfl
      | _ => exact ⟨rfl, rfl⟩
    exact ⟨(ih _).1.trans ha.1, (ih _).2.trans ha.2⟩

/-- The journal is no content. -/
theorem sameContent_journal (d : Document) (journal : List ListenerCall) :
    d.SameContent { d with journal } :=
  ⟨rfl, rfl, fun _ => rfl⟩

variable {v w : Visit}

/-- A registration for one call is unregistered before the call. What is taken out then is what the
call strikes. -/
theorem registrations_unregister (v : Visit) (j : Journey) (r : Registration) (n : NodeId) :
    (if r.options.once then j.unregister v.node r.listener r.options.capture
      else j).document.registrations n =
      Registration.surviving [(v.registered r).call j.event] n (j.document.registrations n) := by
  split
  next ho =>
    rw [unregister_registrations]
    refine List.filter_congr fun x _ => ?_
    simp [ListenerCall.strikes, Callee.call, Callee.shown, Visit.registered, ho]
  next ho =>
    refine (List.filter_eq_self.mpr fun x _ => ?_).symm
    simp [ListenerCall.strikes, Callee.call, Callee.shown, Visit.registered, ho]

/-- **A registered listener is called**, and if it is registered for one call, it is unregistered
under the type that the event has. -/
theorem hears_callRegistered (behaviour : Behaviour) (h : At v j) (r : Registration) :
    Hears behaviour j [v.registered r] (j.callRegistered behaviour v.node r) ∧
      At v (j.callRegistered behaviour v.node r) := by
  have hs : (v.registered r).shown j.event =
      { j.event with inPassiveListener := r.options.passive } := by
    simp [Callee.shown, Visit.registered, ← h.node, ← h.phase]
  have hreg := registrations_unregister v j r
  unfold Journey.callRegistered call
  generalize hj : (if r.options.once then j.unregister v.node r.listener r.options.capture
    else j) = j₁ at hreg ⊢
  have he : j₁.event = j.event := by
    subst hj
    split <;> simp
  have hjournal : j₁.document.journal = j.document.journal := by
    subst hj
    split <;> simp
  have hcontent : j.document.SameContent j₁.document := by
    subst hj
    split
    next => exact sameContent_unregister j v.node r.listener r.options.capture
    next => exact .refl _
  dsimp only
  rw [he, ← hs]
  refine ⟨⟨rfl, ⟨?_, hreg⟩, hcontent.trans (sameContent_journal _ _)⟩, ?_⟩
  · rw [hjournal]
    rfl
  · exact ⟨(foldl_apply_at _ _).1, (foldl_apply_at _ _).2⟩

/-- A handler is called, and stays. -/
theorem hears_handler (behaviour : Behaviour) (h : At v j) (listener : Listener) :
    Hears behaviour j [v.handling listener] (j.call behaviour listener none) := by
  have hs : (v.handling listener).shown j.event = j.event := by
    simp [Callee.shown, Visit.handling, ← h.node, ← h.phase]
  have hcall : (v.handling listener).call j.event = ⟨listener, none, j.event⟩ := congrArg _ hs
  refine ⟨?_, ⟨?_, fun n => ?_⟩, sameContent_journal _ _⟩
  · have ha : (v.handling listener).after behaviour j.event =
        (behaviour listener j.event).foldl Event.apply j.event := by
      rw [Callee.after, hs]
      rfl
    exact congrArg Event.atRest ha.symm
  · exact congrArg (fun c => j.document.journal ++ [c]) hcall.symm
  · have ht : j.event.transcript behaviour [v.handling listener] = [⟨listener, none, j.event⟩] :=
      congrArg (fun c => [c]) hcall
    -- a call without registration strikes none
    rw [ht]
    exact (List.filter_eq_self.mpr fun x _ => by simp [ListenerCall.strikes]).symm

/-! ## One visit -/

/-- The registrations that a visit found are called one after another. -/
theorem hears_foldl_callRegistered (behaviour : Behaviour) (h : At v j)
    (rs : List Registration) :
    Hears behaviour j (rs.map v.registered) (rs.foldl (callRegistered behaviour v.node) j) ∧
      At v (rs.foldl (callRegistered behaviour v.node) j) := by
  induction rs generalizing j with
  | nil => exact ⟨.refl j, h⟩
  | cons r rs ih =>
    obtain ⟨hr, hat⟩ := hears_callRegistered behaviour h r
    obtain ⟨hrs, hat⟩ := ih hat
    exact ⟨hr.trans hrs, hat⟩

/-- **A visit calls its callees**, as the document has them at the arrival. -/
theorem hears_visit (behaviour : Behaviour) (j : Journey) (v : Visit) :
    Hears behaviour j (j.document.callees j.event.type v) (j.visit behaviour v.phase v.node) := by
  unfold visit
  split
  next he =>
    have hr : j.document.registrations v.node = [] := by
      rw [Document.registrations, he]
      rfl
    have hh : j.document.handlerAt? j.event.type v.node = none := by
      rw [Document.handlerAt?, he]
      rfl
    have hk : j.document.callees j.event.type v = [] := by
      simp [Document.callees, Document.registrationsAt_eq_filter, hr, hh]
    rw [hk]
    exact .refl j
  next e he =>
    rw [Document.callees, Document.registrationsAt_of_element? he, Document.handlerAt?_of_element? he]
    -- the arrival says where the event is, which no callee depends on
    have harrive : Hears behaviour j []
        { j with event := { j.event with currentTarget := some v.node, phase := v.phase } } :=
      ⟨rfl, .refl _, .refl _⟩
    obtain ⟨hrs, hat⟩ := hears_foldl_callRegistered (v := v) behaviour
      (j := { j with event := { j.event with currentTarget := some v.node, phase := v.phase } })
      ⟨rfl, rfl⟩ (e.listeners.registered j.event.type v.phase)
    have hregistered := harrive.trans hrs
    dsimp only
    by_cases hp : v.phase = .capturing
    · rw [if_pos hp, if_pos hp, List.append_nil]
      exact hregistered
    · rw [if_neg hp, if_neg hp]
      cases e.handlers.get? j.event.type with
      | none => exact hregistered.trans (.refl _)
      | some listener => exact hregistered.trans (hears_handler behaviour hat listener)

/-! ## Visit after visit -/

/-- The event visits one node after another, until it is stopped. -/
def travel (behaviour : Behaviour) (vs : List Visit) (j : Journey) : Journey :=
  vs.foldl (fun j v => j.visitUnlessStopped behaviour v.phase v.node) j

theorem travel_append {vs ws : List Visit} :
    j.travel behaviour (vs ++ ws) = (j.travel behaviour vs).travel behaviour ws :=
  List.foldl_append

theorem travel_of_stopped (h : j.event.propagationStopped = true) (vs : List Visit) :
    j.travel behaviour vs = j := by
  induction vs with
  | nil => rfl
  | cons v vs ih =>
    have hv : j.visitUnlessStopped behaviour v.phase v.node = j := by
      rw [visitUnlessStopped, if_pos h]
    rw [travel, List.foldl_cons, hv]
    exact ih

theorem travel_cons_of_not_stopped (h : j.event.propagationStopped = false) (vs : List Visit) :
    j.travel behaviour (v :: vs) = (j.visit behaviour v.phase v.node).travel behaviour vs := by
  rw [travel, List.foldl_cons, visitUnlessStopped, if_neg (by simp [h])]
  rfl

end Journey

/-- The visits on the way to the target, from the topmost element on the path above it. -/
def descent (path : List NodeId) (target : NodeId) : List Visit :=
  path.reverse.map (Visit.mk .capturing) ++ [⟨.atTarget, target⟩]

/-- The visits on the way back. -/
def ascent (path : List NodeId) : List Visit :=
  path.map (Visit.mk .bubbling)

/-- The visits of an event: down to the target and, if it bubbles, back up. -/
def itinerary (path : List NodeId) (target : NodeId) (bubbles : Bool) : List Visit :=
  descent path target ++ if bubbles then ascent path else []

namespace Journey

variable {behaviour : Behaviour} {j : Journey} {path : List NodeId} {target : NodeId}

/-- **An event travels along its itinerary**, which it settles after the visit to the target. -/
theorem run_eq_travel :
    j.run behaviour path target =
      j.travel behaviour
        (itinerary path target (j.travel behaviour (descent path target)).event.bubbles) := by
  have hdown : j.travel behaviour (descent path target) =
      (path.reverse.foldl (visitUnlessStopped behaviour .capturing) j).visitUnlessStopped
        behaviour .atTarget target := by
    simp only [travel, descent, List.foldl_append, List.foldl_map, List.foldl_cons, List.foldl_nil]
  have hup : ∀ j : Journey, j.travel behaviour (ascent path) =
      path.foldl (visitUnlessStopped behaviour .bubbling) j := by
    intro j
    simp only [travel, ascent, List.foldl_map]
  rw [run, itinerary, travel_append, ← hdown]
  split
  next => exact (hup _).symm
  next => rfl

end Journey

/-! ## Visits apart -/

namespace Visit

/-- Two visits of a journey meet different listeners: at one node, the first is on the way down and
the second on the way up. -/
def Apart (v w : Visit) : Prop :=
  v.node = w.node → v.phase = .capturing ∧ w.phase = .bubbling

end Visit

/-- The visits along a path that repeats no node are apart. -/
theorem pairwise_apart_itinerary {path : List NodeId} {target : NodeId} (hp : path.Nodup)
    (ht : target ∉ path) (bubbles : Bool) :
    (itinerary path target bubbles).Pairwise Visit.Apart := by
  -- on one leg, the nodes differ
  have hleg : ∀ (phase : EventPhase) (l : List NodeId), l.Nodup →
      (l.map (Visit.mk phase)).Pairwise Visit.Apart := by
    intro phase l hl
    exact List.pairwise_map.mpr (hl.imp fun hne he => absurd he hne)
  have hdown : (descent path target).Pairwise Visit.Apart := by
    have hreverse : path.reverse.Nodup := List.pairwise_reverse.mpr (hp.imp Ne.symm)
    refine List.pairwise_append.mpr
      ⟨hleg .capturing _ hreverse, List.pairwise_singleton _ _, ?_⟩
    intro v hv w hw hn
    obtain ⟨n, hmem, rfl⟩ := List.mem_map.mp hv
    obtain rfl := List.mem_singleton.mp hw
    obtain rfl : n = target := hn
    exact absurd (List.mem_reverse.mp hmem) ht
  have hup : (if bubbles then ascent path else []).Pairwise Visit.Apart := by
    split
    next => exact hleg .bubbling _ hp
    next => exact List.Pairwise.nil
  refine List.pairwise_append.mpr ⟨hdown, hup, ?_⟩
  intro v hv w hw hn
  have hw : w ∈ ascent path := by
    split at hw
    next => exact hw
    next => cases hw
  obtain ⟨n, hmem, rfl⟩ := List.mem_map.mp hw
  rcases List.mem_append.mp hv with hv | hv
  · obtain ⟨m, -, rfl⟩ := List.mem_map.mp hv
    exact ⟨rfl, rfl⟩
  · obtain rfl := List.mem_singleton.mp hv
    obtain rfl : target = n := hn
    exact absurd hmem ht

namespace Document

variable {d d' : Document} {type type' : String} {behaviour : Behaviour} {e : Event} {v w : Visit}
  {k : Callee}

/-- A callee is called where the visit is, and fires there. -/
theorem of_mem_callees (h : k ∈ d.callees type v) :
    k.node = v.node ∧ k.phase = v.phase ∧ ∀ r, k.registration = some r →
      k.listener = r.listener ∧ r ∈ d.registrations v.node ∧ r.type = type ∧
        r.firesIn v.phase = true := by
  rcases List.mem_append.mp h with h | h
  · obtain ⟨r, hr, rfl⟩ := List.mem_map.mp h
    refine ⟨rfl, rfl, ?_⟩
    rintro s hs
    obtain rfl : r = s := Option.some.inj hs
    exact ⟨rfl, mem_registrationsAt.mp hr⟩
  · split at h
    next => cases h
    next =>
      obtain ⟨listener, -, rfl⟩ := List.mem_map.mp h
      refine ⟨rfl, rfl, ?_⟩
      rintro s hs
      cases hs

/-- **Visits apart do not disturb each other**: what the first takes out, the second does not look
for. -/
theorem callees_of_apart (h : d.Called (e.transcript behaviour (d.callees type v)) d')
    (hc : d.SameContent d') (hvw : v.Apart w) : d'.callees type' w = d.callees type' w := by
  have hhandler : d'.handlerAt? type' w.node = d.handlerAt? type' w.node :=
    hc.element_bind_eq fun _ => rfl
  have hregs : d'.registrationsAt type' w = d.registrationsAt type' w := by
    rw [registrationsAt_eq_filter, registrationsAt_eq_filter, h.registrations,
      Registration.surviving, List.filter_filter]
    refine List.filter_congr fun x _ => ?_
    cases hx : x.firesIn w.phase with
    | false => simp
    | true =>
      -- what was struck fires on the way down, and what is looked for on the way up
      have hstrikes : ∀ c ∈ e.transcript behaviour (d.callees type v),
          c.strikes w.node x = false := by
        intro c hc
        rw [← Bool.not_eq_true, ListenerCall.strikes_iff]
        rintro ⟨r, ⟨hn, hr⟩, -, hkey⟩
        obtain ⟨k, hk, e', rfl⟩ := Event.exists_of_mem_transcript hc
        obtain ⟨hkn, -, hkr⟩ := of_mem_callees hk
        obtain ⟨-, -, -, hf⟩ := hkr r hr
        obtain ⟨hv, hw⟩ := hvw (hkn.symm.trans (Option.some.inj hn))
        have hcapture : x.options.capture = r.options.capture := congrArg (fun k => k.2.2) hkey
        rw [hv] at hf
        rw [hw] at hx
        simp only [Registration.firesIn] at hf hx
        rw [hcapture, hf] at hx
        cases hx
      have hany : ((e.transcript behaviour (d.callees type v)).any fun c => c.strikes w.node x) =
          false := by
        rw [List.any_eq_false]
        intro c hc
        rw [hstrikes c hc]
        exact Bool.false_ne_true
      rw [hany, Bool.not_false, Bool.and_true]
  rw [callees, callees, hregs, hhandler]

end Document

end WebPage
