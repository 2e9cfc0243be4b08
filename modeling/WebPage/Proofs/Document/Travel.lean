import WebPage.Proofs.Document.Dispatch

/-!
# What any listeners do to registrations

Listeners may write the type of an event, and then a registration for one call is taken out under
another type than the one that it was found by. Whatever they do, a call is that of a registration
that was there, and a registration for one call is called again only after a call under another
type: a call under its own type takes it out. If no listener writes the type, there are no calls
under another one.

On visits apart, the calls at one node for one leg are those of one visit, so their registrations
are for one type and differ.

## Main definitions

* `Document.Tells behaviour d calls d'`: what a history of calls has done to the registrations
* `Travelled`: the calls along some visits

## Main results

* `Document.Tells.trans`: calls after calls
* `Travelled.append`, `Travelled.travel`: visits after visits
* `exists_travelled`: a dispatch travels
* `Document.sameContent_dispatch`: it changes nothing but registrations and journal
-/

namespace WebPage

/-! ## Visits -/

namespace ListenerCall

/-- A call of a registration for one call was not followed by another one, unless it was made under
another type. -/
def Again (c c' : ListenerCall) : Prop :=
  ∀ n r, c.IsFor n r → c'.IsFor n r → r.options.once = true → c.event.type ≠ r.type

/-- Two calls at one node for the same leg are those of two registrations for one type. -/
def Clear (c c' : ListenerCall) : Prop :=
  ∀ n r r', c.IsFor n r → c'.IsFor n r' → r.options.capture = r'.options.capture →
    r.type = r'.type ∧ r ≠ r'

end ListenerCall

/-- A history of calls, as the registrations show it: of those that there were at the start, the
calls have taken out the ones that they strike, and every called registration is one of them. -/
structure Document.Tells (behaviour : Behaviour) (d : Document) (calls : List ListenerCall)
    (d' : Document) : Prop where
  called : d.Called calls d'
  source : ∀ c ∈ calls, ∀ n r, c.IsFor n r → r ∈ d.registrations n
  again : calls.Pairwise ListenerCall.Again
  type_eq : behaviour.KeepsType → ∀ c ∈ calls, ∀ n r, c.IsFor n r → c.event.type = r.type

/-- The calls that an event makes on some visits, and what they do to a document. -/
structure Travelled (behaviour : Behaviour) (d : Document) (vs : List Visit)
    (calls : List ListenerCall) (d' : Document) : Prop where
  tells : d.Tells behaviour calls d'
  content : d.SameContent d'
  visited : ∀ c ∈ calls, ∀ n r, c.IsFor n r → ∃ v ∈ vs, n = v.node ∧ r.firesIn v.phase = true
  clear : vs.Pairwise Visit.Apart → calls.Pairwise ListenerCall.Clear

section Histories

variable {behaviour : Behaviour} {d d' d'' : Document} {calls calls' : List ListenerCall}
  {n : NodeId} {r : Registration} {c : ListenerCall}

namespace Document.Tells

theorem silent (h : d.Called [] d') : d.Tells behaviour [] d' :=
  ⟨h, by simp, List.Pairwise.nil, by simp⟩

/-- A registration for one call that was called under its own type is gone. -/
theorem type_ne_of_mem (h : d.Tells behaviour calls d') (hc : c ∈ calls) (hfor : c.IsFor n r)
    (ho : r.options.once = true) (hr : r ∈ d'.registrations n) : c.event.type ≠ r.type := by
  intro ht
  have hs : c.strikes n r = false := (h.called.mem_registrations_iff.mp hr).2 c hc
  have hstrikes : c.strikes n r = true :=
    ListenerCall.strikes_iff.mpr ⟨r, hfor, ho, by rw [ht]; rfl⟩
  rw [hs] at hstrikes
  cases hstrikes

/-- **Calls after calls**: what is called later was there at the start, and it was still there after
the earlier calls. -/
theorem trans (h : d.Tells behaviour calls d') (h' : d'.Tells behaviour calls' d'') :
    d.Tells behaviour (calls ++ calls') d'' := by
  refine ⟨h.called.trans h'.called, fun c hc n r hfor => ?_, ?_, fun hb c hc n r hfor => ?_⟩
  · rcases List.mem_append.mp hc with hc | hc
    · exact h.source c hc n r hfor
    · exact (h.called.mem_registrations_iff.mp (h'.source c hc n r hfor)).1
  · refine List.pairwise_append.mpr ⟨h.again, h'.again, ?_⟩
    intro c hc c' hc' n r hfor hfor' ho
    exact h.type_ne_of_mem hc hfor ho (h'.source c' hc' n r hfor')
  · rcases List.mem_append.mp hc with hc | hc
    · exact h.type_eq hb c hc n r hfor
    · exact h'.type_eq hb c hc n r hfor

end Document.Tells

end Histories

namespace Travelled

variable {d d' d'' : Document} {vs ws : List Visit} {calls calls' : List ListenerCall}
  {behaviour : Behaviour} {e : Event} {v : Visit}

theorem refl (d : Document) (vs : List Visit) : Travelled behaviour d vs [] d :=
  ⟨.silent (.refl d), .refl d, by simp, fun _ => List.Pairwise.nil⟩

/-- **Visits after visits.** -/
theorem append (h : Travelled behaviour d vs calls d')
    (h' : Travelled behaviour d' ws calls' d'') :
    Travelled behaviour d (vs ++ ws) (calls ++ calls') d'' := by
  refine ⟨h.tells.trans h'.tells, h.content.trans h'.content, ?_, fun hapart => ?_⟩
  · intro c hc n r hfor
    rcases List.mem_append.mp hc with hc | hc
    · obtain ⟨v, hv, hf⟩ := h.visited c hc n r hfor
      exact ⟨v, List.mem_append_left ws hv, hf⟩
    · obtain ⟨v, hv, hf⟩ := h'.visited c hc n r hfor
      exact ⟨v, List.mem_append_right vs hv, hf⟩
  · obtain ⟨hvs, hws, hvw⟩ := List.pairwise_append.mp hapart
    refine List.pairwise_append.mpr ⟨h.clear hvs, h'.clear hws, ?_⟩
    intro c hc c' hc' n r r' hfor hfor' hcapture
    -- at one node, the earlier call was made on the way down and the later one on the way up
    obtain ⟨v, hv, hnv, hf⟩ := h.visited c hc n r hfor
    obtain ⟨w, hw, hnw, hf'⟩ := h'.visited c' hc' n r' hfor'
    obtain ⟨hpv, hpw⟩ := hvw v hv w hw (hnv.symm.trans hnw)
    rw [hpv] at hf
    rw [hpw] at hf'
    simp only [Registration.firesIn] at hf hf'
    rw [← hcapture, hf] at hf'
    cases hf'

theorem nodup_registrations (d : Document) (n : NodeId) : (d.registrations n).Nodup := by
  unfold Document.registrations
  cases d.tree.element? (some n) with
  | none => exact List.nodup_nil
  | some e => exact e.listeners.nodup_entries

/-- The registrations that one visit calls differ, and are for one type. -/
theorem pairwise_callees (d : Document) (type : String) (v : Visit) :
    (d.callees type v).Pairwise fun k k' => ∀ r r', k.registration = some r →
      k'.registration = some r' → r.type = r'.type ∧ r ≠ r' := by
  have hregistered : (d.registrationsAt type v).Pairwise fun r r' => r.type = r'.type ∧ r ≠ r' := by
    have hnodup : (d.registrationsAt type v).Nodup := by
      rw [Document.registrationsAt_eq_filter]
      exact (nodup_registrations d v.node).filter _
    have htype : ∀ r ∈ d.registrationsAt type v, r.type = type :=
      fun r hr => (Document.mem_registrationsAt.mp hr).2.1
    refine (List.Pairwise.and_mem.mp hnodup).imp ?_
    rintro r r' ⟨hr, hr', hne⟩
    exact ⟨(htype r hr).trans (htype r' hr').symm, hne⟩
  have hhandler : ∀ k ∈ if v.phase = .capturing then [] else
      (d.handlerAt? type v.node).toList.map v.handling, k.registration = none := by
    intro k hk
    split at hk
    next => cases hk
    next =>
      obtain ⟨listener, -, rfl⟩ := List.mem_map.mp hk
      rfl
  unfold Document.callees
  refine List.pairwise_append.mpr ⟨List.pairwise_map.mpr (hregistered.imp ?_), ?_, ?_⟩
  · rintro r r' hrr' _ _ ⟨rfl⟩ ⟨rfl⟩
    exact hrr'
  · refine List.pairwise_of_forall_mem_list fun k hk k' _ r r' hr => ?_
    rw [hhandler k hk] at hr
    cases hr
  · intro k _ k' hk' r r' _ hr'
    rw [hhandler k' hk'] at hr'
    cases hr'

/-- **One visit.** -/
theorem of_called (h : d.Called (e.transcript behaviour (d.callees e.type v)) d')
    (hc : d.SameContent d') :
    Travelled behaviour d [v] (e.transcript behaviour (d.callees e.type v)) d' := by
  have hclear : (e.transcript behaviour (d.callees e.type v)).Pairwise ListenerCall.Clear :=
    Event.pairwise_transcript (fun k k' e e' hR n r r' hfor hfor' _ => hR r r' hfor.2 hfor'.2)
      (pairwise_callees d e.type v)
  have hsource : ∀ c ∈ e.transcript behaviour (d.callees e.type v), ∀ n r, c.IsFor n r →
      r ∈ d.registrations n ∧ r.type = e.type ∧ n = v.node ∧ r.firesIn v.phase = true := by
    intro c hc n r hfor
    obtain ⟨k, hk, e', rfl⟩ := Event.exists_of_mem_transcript hc
    obtain ⟨hkn, -, hkr⟩ := Document.of_mem_callees hk
    obtain ⟨-, hr, ht, hf⟩ := hkr r hfor.2
    obtain rfl : v.node = n := hkn.symm.trans (Option.some.inj hfor.1)
    exact ⟨hr, ht, rfl, hf⟩
  refine ⟨⟨h, fun c hc n r hfor => (hsource c hc n r hfor).1, ?_, ?_⟩, hc, ?_, fun _ => hclear⟩
  · -- no registration is called twice on one visit
    refine hclear.imp fun hc n r hfor hfor' _ => ?_
    exact absurd rfl (hc n r r hfor hfor' rfl).2
  · intro hb c hc n r hfor
    exact (Event.type_of_mem_transcript hb hc).trans (hsource c hc n r hfor).2.1.symm
  · intro c hc n r hfor
    exact ⟨v, List.mem_singleton_self v, (hsource c hc n r hfor).2.2⟩

/-- **Visit after visit**, until the event is stopped. -/
theorem travel (behaviour : Behaviour) (vs : List Visit) (j : Journey) :
    ∃ calls, Travelled behaviour j.document vs calls (j.travel behaviour vs).document := by
  induction vs generalizing j with
  | nil => exact ⟨[], .refl _ _⟩
  | cons v vs ih =>
    cases hs : j.event.propagationStopped with
    | true =>
      rw [Journey.travel_of_stopped hs]
      exact ⟨[], .refl _ _⟩
    | false =>
      rw [Journey.travel_cons_of_not_stopped hs]
      have hvisit := Journey.hears_visit behaviour j v
      obtain ⟨calls, hcalls⟩ := ih (j.visit behaviour v.phase v.node)
      exact ⟨_, (of_called hvisit.called hvisit.content).append hcalls⟩

end Travelled

/-- **A dispatch travels**, and where the tree is well formed its visits are apart. -/
theorem exists_travelled {behaviour : Behaviour} {d d' : Document} {e : Event} {b : Bool}
    (h : d.dispatch behaviour e = .ok (b, d')) :
    ∃ vs calls, Travelled behaviour d vs calls d' ∧
      (d.tree.WellFormed → vs.Pairwise Visit.Apart) := by
  obtain ⟨target, -, -, -, rfl⟩ := Document.dispatch_eq_ok_iff.mp h
  rw [Document.journey, Journey.run_eq_travel]
  obtain ⟨calls, hcalls⟩ := Travelled.travel behaviour (itinerary _ target _) ⟨d, e⟩
  exact ⟨_, calls, hcalls, fun hd => d.pairwise_apart hd target _⟩

/-- A dispatch changes nothing but registrations and journal, whatever the listeners do. -/
theorem Document.sameContent_dispatch {behaviour : Behaviour} {d d' : Document} {e : Event}
    {b : Bool} (h : d.dispatch behaviour e = .ok (b, d')) : d.SameContent d' := by
  obtain ⟨_, _, ht, -⟩ := exists_travelled h
  exact ht.content

/-- An event whose target exists can be dispatched. -/
theorem Document.exists_dispatch {d : Document} (behaviour : Behaviour) (e : Event)
    (h : (d.tree.kind? e.target).isSome) :
    ∃ b d', d.dispatch behaviour e = .ok (b, d') ∧ d.SameContent d' := by
  cases ht : e.target with
  | none =>
    rw [ht] at h
    cases h
  | some target =>
    have hsent : d.dispatch behaviour e = .ok (_, (d.journey behaviour e target).document) :=
      dispatch_eq_ok_iff.mpr ⟨target, ht, ht ▸ h, rfl, rfl⟩
    exact ⟨_, _, hsent, sameContent_dispatch hsent⟩

end WebPage
