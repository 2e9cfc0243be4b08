import WebPage.Proofs.Document.Journey
import WebPage.Proofs.Tree.Loading

/-!
# Dispatching to quiet listeners

Listeners that prevent and stop, and write no field of the event, leave its type and its itinerary
alone. The calls of a dispatch can then be read off the document before it: each visit calls its
callees in order, and the journey is cut after the first visit at whose end the event is stopped.
The visits of a journey are apart because a path to the root repeats no node.

## Main definitions

* `Document.callsOf`: the calls of an event on some visits, read off a document
* `Cut`: a journey that ends with the visit that stops it
* `Delivery`: what a dispatch to quiet listeners does

## Main results

* `Document.dispatch_eq_ok_iff`: a dispatch is the run of a journey
* `Journey.travel_of_quiet`: a quiet journey calls whom its visits called for before it
* `delivery_of_quiet`: every dispatch to quiet listeners is such a delivery
-/

namespace WebPage

/-! ## Dispatch as a journey -/

namespace Document

variable {behaviour : Behaviour} {d d' : Document} {e : Event} {target : NodeId} {b : Bool}

/-- The elements above a node, its parent first. -/
def elementsAbove (d : Document) (n : NodeId) : List NodeId :=
  (d.tree.ancestors (some n)).filter fun a => d.tree.isElement (some a)

/-- The journey of an event through a document. -/
def journey (behaviour : Behaviour) (d : Document) (e : Event) (target : NodeId) : Journey :=
  Journey.run behaviour (d.elementsAbove target) target ⟨d, e⟩

/-- **A dispatch is the run of a journey**, if its target exists. -/
theorem dispatch_eq_ok_iff :
    d.dispatch behaviour e = .ok (b, d') ↔
      ∃ target, e.target = some target ∧ (d.tree.kind? (some target)).isSome ∧
        b = !(d.journey behaviour e target).event.defaultPrevented ∧
        d' = (d.journey behaviour e target).document := by
  unfold dispatch Tree.node
  cases ht : e.target with
  | none => simp [Tree.node?, bind, Except.bind]
  | some target =>
    cases hn : d.tree.node? (some target) with
    | none => simp [Tree.kind?, hn, bind, Except.bind]
    | some n =>
      simp only [bind, Except.bind, pure, Except.pure, Except.ok.injEq, Prod.mk.injEq, journey,
        elementsAbove, Option.some.injEq]
      constructor
      · rintro ⟨rfl, rfl⟩
        exact ⟨target, rfl, by simp [Tree.kind?, hn], rfl, rfl⟩
      · rintro ⟨_, rfl, -, rfl, rfl⟩
        exact ⟨rfl, rfl⟩

/-- In a well-formed tree, the visits of an event are apart. -/
theorem pairwise_apart (hd : d.tree.WellFormed) (target : NodeId) (bubbles : Bool) :
    (itinerary (d.elementsAbove target) target bubbles).Pairwise Visit.Apart := by
  have hpath := hd.path_ancestors (some target)
  have hwhole : Tree.Path d.tree.parent (some target)
      (target :: d.tree.ancestors (some target)) none := ⟨rfl, hpath⟩
  refine pairwise_apart_itinerary (hpath.nodup.filter _) (fun ht => ?_) bubbles
  exact (List.nodup_cons.mp hwhole.nodup).1 (List.mem_filter.mp ht).1

end Document

/-! ## Journeys that are cut -/

/-- A journey of `total` visits is cut after `n` of them: no earlier visit stopped it, and the last
one did unless all visits were made. -/
structure Cut (stopped : Nat → Bool) (total n : Nat) : Prop where
  le : n ≤ total
  running : ∀ i < n, stopped i = false
  ended : n = total ∨ stopped n = true

theorem Cut.succ {stopped : Nat → Bool} {total n : Nat} (h₀ : stopped 0 = false)
    (h : Cut (fun i => stopped (i + 1)) total n) : Cut stopped (total + 1) (n + 1) := by
  refine ⟨Nat.succ_le_succ h.le, fun i hi => ?_, ?_⟩
  · cases i with
    | zero => exact h₀
    | succ i => exact h.running i (Nat.lt_of_succ_lt_succ hi)
  · rcases h.ended with rfl | hs
    · exact Or.inl rfl
    · exact Or.inr hs

/-- A journey is cut after the first visit at whose end it is stopped. -/
theorem Cut.eq_of_first {stopped : Nat → Bool} {total n k : Nat} (h : Cut stopped total n)
    (hk : k ≤ total) (hbefore : ∀ i < k, stopped i = false) (hstop : stopped k = true) : n = k := by
  rcases Nat.lt_trichotomy n k with hlt | heq | hgt
  · rcases h.ended with rfl | hn
    · exact absurd hlt (Nat.not_lt.mpr hk)
    · rw [hbefore n hlt] at hn
      cases hn
  · exact heq
  · rw [h.running k hgt] at hstop
    cases hstop

/-- Whom some visits call, one visit after another. -/
def Document.roster (d : Document) (type : String) (vs : List Visit) : List Callee :=
  vs.flatMap (d.callees type)

theorem Document.roster_cons (d : Document) (type : String) (v : Visit) (vs : List Visit) :
    d.roster type (v :: vs) = d.callees type v ++ d.roster type vs :=
  List.flatMap_cons

theorem Document.roster_congr {d d' : Document} {type type' : String} {vs : List Visit}
    (h : ∀ v ∈ vs, d'.callees type' v = d.callees type v) :
    d'.roster type' vs = d.roster type vs := by
  induction vs with
  | nil => rfl
  | cons v vs ih =>
    obtain ⟨hv, h⟩ := List.forall_mem_cons.mp h
    rw [roster_cons, roster_cons, hv, ih h]

namespace Journey

variable {behaviour : Behaviour} {j : Journey} {vs : List Visit}

/-- **A quiet journey calls whom its visits called for before it**, up to the visit that stops
it. -/
theorem travel_of_quiet (hb : behaviour.Quiet) (hv : vs.Pairwise Visit.Apart) (j : Journey) :
    ∃ n, Hears behaviour j (j.document.roster j.event.type (vs.take n)) (j.travel behaviour vs) ∧
      Cut (fun i => (j.event.outcome behaviour
        (j.document.roster j.event.type (vs.take i))).propagationStopped) vs.length n := by
  -- by induction on the visits; what one visit leaves is where the next sets out
  induction vs generalizing j with
  | nil => exact ⟨0, .refl j, ⟨Nat.le_refl 0, fun i hi => absurd hi (Nat.not_lt_zero i), .inl rfl⟩⟩
  | cons v vs ih =>
    obtain ⟨hapart, hv⟩ := List.pairwise_cons.mp hv
    cases hs : j.event.propagationStopped with
    | true =>
      rw [travel_of_stopped hs]
      exact ⟨0, .refl j, ⟨Nat.zero_le _, fun i hi => absurd hi (Nat.not_lt_zero i), .inr hs⟩⟩
    | false =>
      rw [travel_cons_of_not_stopped hs]
      have hvisit := hears_visit behaviour j v
      generalize j.visit behaviour v.phase v.node = j' at hvisit ⊢
      obtain ⟨n, hn, hcut⟩ := ih hv j'
      have htype : j'.event.type = j.event.type :=
        hvisit.type_eq.trans (Event.outcome_fields_of_quiet hb _ _).1
      -- the visits to come find what they would have found before this one
      have hroster : ∀ i, j'.document.roster j'.event.type (vs.take i) =
          j.document.roster j.event.type (vs.take i) := by
        intro i
        rw [htype]
        refine Document.roster_congr fun w hw => ?_
        have hvw := hapart w (List.mem_of_mem_take hw)
        exact Document.callees_of_apart hvisit.called hvisit.content hvw
      refine ⟨n + 1, ?_, Cut.succ hs ?_⟩
      · rw [List.take_succ_cons, Document.roster_cons, ← hroster]
        exact hvisit.trans hn
      · have hstopped : ∀ i, (j.event.outcome behaviour
            (j.document.roster j.event.type ((v :: vs).take (i + 1)))).propagationStopped =
            (j'.event.outcome behaviour
              (j'.document.roster j'.event.type (vs.take i))).propagationStopped := by
          intro i
          rw [List.take_succ_cons, Document.roster_cons, ← hroster, Event.outcome_append]
          have ho := congrArg Event.propagationStopped (Event.outcome_congr behaviour
            (j'.document.roster j'.event.type (vs.take i)) hvisit.event)
          exact ho.symm
        simp only [hstopped]
        exact hcut

end Journey

/-! ## Deliveries -/

namespace Document

variable {behaviour : Behaviour} {d d' : Document} {e : Event} {vs : List Visit}
  {c : ListenerCall} {m : NodeId} {r s : Registration}

/-- The calls of an event on some visits, read off a document. -/
def callsOf (behaviour : Behaviour) (d : Document) (e : Event) (vs : List Visit) :
    List ListenerCall :=
  e.transcript behaviour (d.roster e.type vs)

theorem eq_of_key_eq (hr : r ∈ d.registrations m) (hs : s ∈ d.registrations m)
    (hk : r.key = s.key) : r = s := by
  unfold registrations at hr hs
  cases he : d.tree.element? (some m) with
  | none => simp [he] at hr
  | some e =>
    rw [he] at hr hs
    exact Listeners.eq_of_key_eq hr hs hk

/-- Whoever is called is registered where the call is made, for the type of the event. -/
theorem mem_registrations_of_mem_callsOf (h : c ∈ d.callsOf behaviour e vs) (hc : c.IsFor m r) :
    r ∈ d.registrations m ∧ r.type = e.type := by
  obtain ⟨k, hk, e', rfl⟩ := Event.exists_of_mem_transcript h
  obtain ⟨v, -, hk⟩ := List.mem_flatMap.mp hk
  obtain ⟨hn, -, hkr⟩ := of_mem_callees hk
  obtain ⟨-, hr, ht, -⟩ := hkr r hc.2
  obtain rfl : k.node = m := Option.some.inj hc.1
  exact ⟨hn ▸ hr, ht⟩

/-- A quiet call strikes the registration that is called, if it is for one call. -/
theorem strikes_iff_of_quiet (hb : behaviour.Quiet) (h : c ∈ d.callsOf behaviour e vs)
    (hr : r ∈ d.registrations m) :
    c.strikes m r = true ↔ r.options.once = true ∧ c.IsFor m r := by
  have htype : c.event.type = e.type := Event.type_of_mem_transcript hb.keepsType h
  rw [ListenerCall.strikes_iff]
  constructor
  · rintro ⟨s, hs, ho, hk⟩
    obtain ⟨hsm, hst⟩ := mem_registrations_of_mem_callsOf h hs
    obtain rfl : r = s := eq_of_key_eq hr hsm (by rw [hk, htype, ← hst]; rfl)
    exact ⟨ho, hs⟩
  · rintro ⟨ho, hc⟩
    have ht := (mem_registrations_of_mem_callsOf h hc).2
    exact ⟨r, hc, ho, by rw [htype, ← ht]; rfl⟩

end Document

/-- What a dispatch does when `n` of the visits of its event are made. -/
structure Delivery (behaviour : Behaviour) (d : Document) (e : Event) (visits : List Visit)
    (n : Nat) (d' : Document) : Prop where
  /-- The answer is whether the default goes ahead: nobody prevented it before or on the way. -/
  answer : d.dispatch behaviour e =
    .ok (!(e.heard behaviour (d.callsOf behaviour e (visits.take n))).defaultPrevented, d')
  /-- The calls are those of the visits in order. -/
  called : d.Called (d.callsOf behaviour e (visits.take n)) d'
  /-- Each callee is shown the event as the calls before it have left it. -/
  shown : ∀ xs c ys, d.callsOf behaviour e (visits.take n) = xs ++ c :: ys →
    c.event =
      { e.heard behaviour xs with
        currentTarget := c.event.currentTarget
        phase := c.event.phase
        inPassiveListener := c.registration.any fun r => r.options.passive }
  /-- Nothing else of the document changes. -/
  content : d.SameContent d'
  /-- The registrations for one call that were called are gone, and no others. -/
  once : ∀ m r, r ∈ d'.registrations m ↔ r ∈ d.registrations m ∧
    ¬ (r.options.once = true ∧
      ∃ c ∈ d.callsOf behaviour e (visits.take n), c.IsFor m r)
  /-- The last visit is the first at whose end the event is stopped. -/
  cut : Cut (fun i => (e.heard behaviour
    (d.callsOf behaviour e (visits.take i))).propagationStopped) visits.length n

section Delivery

variable {behaviour : Behaviour} {d : Document} {e : Event} {target : NodeId}

/-- A quiet journey goes along the itinerary that the event has at the start. -/
theorem journey_of_quiet (hd : d.tree.WellFormed) (hb : behaviour.Quiet) (e : Event)
    (target : NodeId) :
    d.journey behaviour e target =
      Journey.travel behaviour (itinerary (d.elementsAbove target) target e.bubbles) ⟨d, e⟩ := by
  have hdown : (descent (d.elementsAbove target) target).Pairwise Visit.Apart :=
    List.Pairwise.sublist (List.sublist_append_left _ _) (d.pairwise_apart hd target false)
  obtain ⟨n, hn, -⟩ := Journey.travel_of_quiet hb hdown ⟨d, e⟩
  have hbubbles := hn.bubbles_eq.trans (Event.outcome_fields_of_quiet hb _ _).2
  rw [Document.journey, Journey.run_eq_travel, hbubbles]

/-- The visits that a quiet journey makes are those of a delivery. -/
theorem exists_delivery (hd : d.tree.WellFormed) (hb : behaviour.Quiet)
    (ht : (d.tree.kind? (some target)).isSome) (he : e.target = some target)
    (hp : e.inPassiveListener = false) :
    ∃ n, Delivery behaviour d e (itinerary (d.elementsAbove target) target e.bubbles) n
      (d.journey behaviour e target).document := by
  have hjourney := journey_of_quiet hd hb e target
  obtain ⟨n, hn, hcut⟩ :=
    Journey.travel_of_quiet hb (d.pairwise_apart hd target e.bubbles) ⟨d, e⟩
  rw [← hjourney] at hn
  refine ⟨n, ?_, hn.called, fun _ _ _ h => Event.event_of_transcript_eq hb hp h, hn.content,
    fun m r => ?_, ?_⟩
  · have hprevented := congrArg Event.defaultPrevented
      (hn.event.trans (Event.outcome_of_quiet hb hp _))
    exact Document.dispatch_eq_ok_iff.mpr ⟨target, he, ht, congrArg not hprevented.symm, rfl⟩
  · rw [hn.called.mem_registrations_iff]
    refine and_congr_right fun hr => ?_
    constructor
    · rintro hs ⟨ho, c, hc, hfor⟩
      have hstrikes := (Document.strikes_iff_of_quiet hb hc hr).mpr ⟨ho, hfor⟩
      rw [hs c hc] at hstrikes
      cases hstrikes
    · intro hs c hc
      rw [← Bool.not_eq_true, Document.strikes_iff_of_quiet hb hc hr]
      rintro ⟨ho, hfor⟩
      exact hs ⟨ho, c, hc, hfor⟩
  · have hstopped : ∀ ks, (e.outcome behaviour ks).propagationStopped =
        (e.heard behaviour (e.transcript behaviour ks)).propagationStopped := by
      intro ks
      have hs := congrArg Event.propagationStopped (Event.outcome_of_quiet hb hp ks)
      exact hs
    simp only [hstopped] at hcut
    exact hcut

end Delivery

/-- **A dispatch to quiet listeners is a delivery.** In a well-formed tree, the nodes above the
target are its chain of parents, and the calls are those of the elements among them on the way down,
of the target, and of the elements again on the way up if the event bubbles; they are cut after the
first visit at whose end the event is stopped. The event may have been prevented or stopped
before. -/
theorem delivery_of_quiet {behaviour : Behaviour} {d : Document} {target : NodeId}
    (hd : d.tree.WellFormed) (ht : (d.tree.kind? (some target)).isSome) (hb : behaviour.Quiet)
    (type : String) (bubbles cancelable prevented stopped : Bool) :
    ∃ above n d', Tree.Path d.tree.parent (d.tree.parent (some target)) above none ∧
      Delivery behaviour d
        { type, target := some target, bubbles, cancelable, defaultPrevented := prevented,
          propagationStopped := stopped }
        (itinerary (above.filter fun a => d.tree.isElement (some a)) target bubbles) n d' := by
  obtain ⟨n, hn⟩ := exists_delivery
    (e := { type, target := some target, bubbles, cancelable, defaultPrevented := prevented,
            propagationStopped := stopped }) hd hb ht rfl rfl
  exact ⟨d.tree.ancestors (some target), n, _, hd.path_ancestors _, hn⟩

/-- An empty page whose body has listeners. -/
def Document.skeletonWith (listeners : Listeners) : Document :=
  { Document.skeleton "about:blank" with
    tree := skeletonTree.setElement 3 { Element.ofTag "body" with listeners } }

theorem Document.wellFormed_skeletonWith (listeners : Listeners) :
    (skeletonWith listeners).tree.WellFormed :=
  (Tree.sameFrame_setElement (by decide)).wellFormed Tree.wellFormed_skeletonTree

/-- An empty page where clicks are heard: `html` has a passive listener for the way down and another
one for the way up, and the body has a listener for one call and a handler. -/
def Document.listeningSkeleton : Document :=
  let down := (Listeners.empty.add "click" ⟨0⟩ { capture := true, passive := true }).2
  let html := { Element.ofTag "html" with listeners := (down.add "click" ⟨1⟩ {}).2 }
  let body := { Element.ofTag "body" with
    listeners := (Listeners.empty.add "click" ⟨2⟩ { once := true }).2
    handlers := Handlers.set {} "click" (some ⟨3⟩) }
  { Document.skeleton "about:blank" with
    tree := (skeletonTree.setElement 1 html).setElement 3 body }

theorem Document.wellFormed_listeningSkeleton : listeningSkeleton.tree.WellFormed := by
  apply (Tree.sameFrame_setElement (by decide)).wellFormed
  exact (Tree.sameFrame_setElement (by decide)).wellFormed Tree.wellFormed_skeletonTree

/-- The body is clicked. The listener of `html` is passive, so it cannot prevent the default; that
of the body does, and the handler stops the event. The listener for the way up is not called. -/
theorem delivery_of_quiet_listeningSkeleton :
    let d := Document.listeningSkeleton
    let behaviour : Behaviour := fun listener _ =>
      if listener = ⟨3⟩ then [.stopPropagation] else [.preventDefault]
    let click : Event := { type := "click", target := some 3, bubbles := true, cancelable := true }
    let passive : Registration := ⟨"click", ⟨0⟩, { capture := true, passive := true }⟩
    let once : Registration := ⟨"click", ⟨2⟩, { once := true }⟩
    let down := { click with
      currentTarget := some 1, phase := .capturing, inPassiveListener := true }
    let there := { click with currentTarget := some 3, phase := .atTarget }
    let calls : List ListenerCall :=
      [⟨⟨0⟩, some passive, down⟩, ⟨⟨2⟩, some once, there⟩,
        ⟨⟨3⟩, none, { there with defaultPrevented := true }⟩]
    (d.tree.WellFormed ∧ (d.tree.kind? (some 3)).isSome ∧ behaviour.Quiet) ∧
      ∃ d', d.dispatch behaviour click = .ok (false, d') ∧ d'.journal = calls ∧
        (∀ n r, r ∈ d'.registrations n ↔ r ∈ d.registrations n ∧ ¬ (n = 3 ∧ r = once)) ∧
        d.SameContent d' := by
  intro d behaviour click passive once down there calls
  have hd : d.tree.WellFormed := Document.wellFormed_listeningSkeleton
  have ht : (d.tree.kind? (some 3)).isSome := by decide
  have hb : behaviour.Quiet := by
    intro listener e action haction
    dsimp only [behaviour] at haction
    split at haction
    next => exact .inr (List.mem_singleton.mp haction)
    next => exact .inl (List.mem_singleton.mp haction)
  obtain ⟨above, n, d', habove, h⟩ := delivery_of_quiet hd ht hb "click" true true false false
  -- the only element above the body is `html`, so there are three visits
  obtain rfl : above = [1, 0] := habove.unique ⟨by decide, by decide, rfl⟩
  have hvisits : itinerary ([1, 0].filter fun a => d.tree.isElement (some a)) 3 true =
      [⟨.capturing, 1⟩, ⟨.atTarget, 3⟩, ⟨.bubbling, 1⟩] := by decide
  rw [hvisits] at h
  -- the event is stopped at the end of the second one
  obtain rfl : n = 2 := h.cut.eq_of_first (by decide) (by decide +kernel) (by decide +kernel)
  have hcalls : d.callsOf behaviour click [⟨.capturing, 1⟩, ⟨.atTarget, 3⟩] = calls := by
    decide +kernel
  refine ⟨⟨hd, ht, hb⟩, d', h.answer, h.called.journal.trans hcalls, fun n r => ?_, h.content⟩
  refine (h.once n r).trans (and_congr_right fun _ => not_congr ?_)
  rw [List.take_succ_cons, List.take_succ_cons, List.take_zero, hcalls]
  constructor
  · rintro ⟨ho, c, hc, hn, hr⟩
    simp only [calls, List.mem_cons, List.not_mem_nil, or_false] at hc
    rcases hc with rfl | rfl | rfl
    · obtain rfl : passive = r := Option.some.inj hr
      cases ho
    · exact ⟨(Option.some.inj hn).symm, (Option.some.inj hr).symm⟩
    · cases hr
  · rintro ⟨rfl, rfl⟩
    exact ⟨rfl, ⟨⟨2⟩, some once, there⟩, by simp [calls], rfl, rfl⟩

end WebPage
