import WebPage.Document.Focus
import WebPage.Proofs.Document.Activation

/-!
# Registrations for one call

A registration for one call is taken out before its call, under the type that the event has then.
Which listeners a visit calls is settled at the arrival, under the type that the event has there.
The two types are the same unless an earlier listener of the same visit has written another one. If
they are the same, the registration that is taken out is the one that is called; otherwise it stays,
and the registration of the same listener for the other type is taken out in its place, if there is
one.

So a registration for one call that is called under its own type is called once at most, in a
history of whatever length. For a single dispatch the conditions are exact: a called registration is
gone afterwards just if it was called under its own type, and no other registration goes just if no
call under another type meets one.

## Main definitions

* `Interaction`, `Document.afterInteractions`: histories
* `Document.Leads`: there is a history of calls from one document to the other
* `OnceLaw`: what one dispatch does to registrations for one call

## Main results

* `Document.chain_focus`, `Document.chain_blur`: what holds of every dispatch and of writing who has
  the focus holds of giving and taking it
* `Interaction.leads`, `Document.leads_afterInteractions`: one interaction, and histories
* `Travelled.onceLaw`: the law for one dispatch
* `Document.Tells.length_filter_isFor_le_one_iff`: when a history calls a registration once at most
* `once_registrations`: registrations for one call, in histories and in single dispatches
-/

namespace WebPage

/-! ## Interactions -/

/-- Something that clients do to a document. -/
inductive Interaction where
  | dispatch (event : Event)
  | click (node : NodeRef)
  | focus (node : NodeRef)
  | blur (node : NodeRef)

/-- The document after a result, or as it was if there is none. -/
def Document.orElse {α : Type} (d : Document) (result : Except DomError (α × Document)) :
    Document :=
  match result with
  | .ok (_, d') => d'
  | .error _ => d

/-- What an interaction does. One that fails does nothing. -/
def Interaction.perform (behaviour : Behaviour) (i : Interaction) (d : Document) : Document :=
  match i with
  | .dispatch event => d.orElse (d.dispatch behaviour event)
  | .click node => d.orElse (d.click behaviour node)
  | .focus node => d.orElse (d.focus behaviour node)
  | .blur node => d.orElse (return ((), ← d.blur behaviour node))

/-- The document after a history of interactions. -/
def Document.afterInteractions (behaviour : Behaviour) (d : Document)
    (interactions : List Interaction) : Document :=
  interactions.foldl (fun d i => i.perform behaviour d) d

/-! ## What holds along giving and taking the focus -/

namespace Document

section Chain

variable {behaviour : Behaviour} {d d' : Document} {r : NodeRef} {b : Bool}
  {R : Document → Document → Prop} (hrefl : ∀ d, R d d)
  (htrans : ∀ {d d' d'' : Document}, R d d' → R d' d'' → R d d'')
  (hrefocus : ∀ (d : Document) (focused : NodeRef), R d { d with focused })
  (hdispatch : ∀ {d d' : Document} {event : Event} {b : Bool},
    d.dispatch behaviour event = .ok (b, d') → R d d')

include hdispatch in
theorem chain_announceBy {type : String}
    (h : announceBy (dispatch behaviour) d type r = .ok d') : R d d' := by
  obtain ⟨b, h⟩ := return_snd_eq_ok.mp h
  exact hdispatch h

include htrans hrefocus hdispatch in
theorem chain_dropFocusBy (h : dropFocusBy (dispatch behaviour) d = .ok d') : R d d' := by
  unfold dropFocusBy at h
  dsimp only at h
  split at h
  next => exact htrans (hrefocus d none) (chain_announceBy hdispatch h)
  next =>
    obtain rfl := Except.ok.inj h
    exact hrefocus d none

include hrefl htrans hrefocus hdispatch

/-- **Giving the focus is made of dispatches and of writing who has it**: what each of these relates,
and what can be chained, is related by it. -/
theorem chain_focus (h : d.focus behaviour r = .ok (b, d')) : R d d' := by
  unfold focus focusBy at h
  rw [bind_eq_ok] at h
  obtain ⟨_, -, h⟩ := h
  split at h
  next =>
    cases h
    exact hrefl d
  next =>
    split at h
    next =>
      cases h
      exact hrefl d
    next =>
      rw [bind_eq_ok] at h
      obtain ⟨d₁, h₁, h⟩ := h
      rw [bind_eq_ok] at h
      obtain ⟨d₂, h₂, h⟩ := h
      cases h
      have hdropped : R d d₁ := chain_dropFocusBy htrans hrefocus hdispatch h₁
      exact htrans (htrans hdropped (hrefocus d₁ r)) (chain_announceBy hdispatch h₂)

/-- **So is taking it.** -/
theorem chain_blur (h : d.blur behaviour r = .ok d') : R d d' := by
  unfold blur blurBy at h
  rw [bind_eq_ok] at h
  obtain ⟨_, -, h⟩ := h
  split at h
  next => exact htrans (hrefocus d none) (chain_announceBy hdispatch h)
  next =>
    obtain rfl := Except.ok.inj h
    exact hrefl d

end Chain

end Document

/-! ## Histories of calls -/

/-- There is a history of calls from one document to the other. -/
def Document.Leads (behaviour : Behaviour) (d d' : Document) : Prop :=
  ∃ calls, d.Tells behaviour calls d'

namespace Document

variable {behaviour : Behaviour} {d d' d'' : Document} {e : Event} {node : NodeRef} {b : Bool}

theorem Leads.trans (h : d.Leads behaviour d') (h' : d'.Leads behaviour d'') :
    d.Leads behaviour d'' := by
  obtain ⟨calls, h⟩ := h
  obtain ⟨calls', h'⟩ := h'
  exact ⟨calls ++ calls', h.trans h'⟩

theorem Leads.refl (d : Document) : d.Leads behaviour d :=
  ⟨[], .silent (.refl d)⟩

theorem Leads.orElse {α : Type} {result : Except DomError (α × Document)}
    (h : ∀ a d', result = .ok (a, d') → d.Leads behaviour d') :
    d.Leads behaviour (d.orElse result) := by
  unfold Document.orElse
  split
  next a d' => exact h a d' rfl
  next => exact .refl d

theorem leads_dispatch (h : d.dispatch behaviour e = .ok (b, d')) : d.Leads behaviour d' := by
  obtain ⟨_, calls, hcalls, -⟩ := exists_travelled h
  exact ⟨calls, hcalls.tells⟩

/-- A change of controls or focus calls nobody. -/
theorem leads_of_silent (hj : d'.journal = d.journal)
    (hr : ∀ n, d'.registrations n = d.registrations n) : d.Leads behaviour d' :=
  ⟨[], .silent (.silent hj hr)⟩

theorem leads_setChecked (h : d.setChecked node b = .ok d') : d.Leads behaviour d' := by
  obtain ⟨t, ht, rfl⟩ := setChecked_eq_ok.mp h
  refine leads_of_silent rfl fun n => ?_
  have hread := Tree.element?_bind_setChecked ht (f := fun e => some e.listeners.entries)
    (fun _ _ => rfl) (some n)
  unfold registrations
  dsimp only
  cases ho : d.tree.element? (some n) <;> cases ho' : t.element? (some n) <;> simp_all

/-- A click leads on, whatever it comes to. -/
theorem leads_click (h : d.click behaviour node = .ok (b, d')) : d.Leads behaviour d' :=
  chain_click Leads.refl Leads.trans leads_setChecked leads_dispatch h

/-- Giving the focus to someone else calls nobody by itself. -/
theorem leads_refocus (d : Document) (focused : NodeRef) : d.Leads behaviour { d with focused } :=
  leads_of_silent rfl fun _ => rfl

theorem leads_focus (h : d.focus behaviour node = .ok (b, d')) : d.Leads behaviour d' :=
  chain_focus Leads.refl Leads.trans leads_refocus leads_dispatch h

theorem leads_blur (h : d.blur behaviour node = .ok d') : d.Leads behaviour d' :=
  chain_blur Leads.refl Leads.trans leads_refocus leads_dispatch h

end Document

variable {behaviour : Behaviour} {d d' : Document} {vs : List Visit} {calls : List ListenerCall}

/-- **One interaction leads on**, whether it succeeds or fails. -/
theorem Interaction.leads (d : Document) (i : Interaction) :
    d.Leads behaviour (i.perform behaviour d) := by
  cases i with
  | dispatch event => exact .orElse fun _ _ h => Document.leads_dispatch h
  | click node => exact .orElse fun _ _ h => Document.leads_click h
  | focus node => exact .orElse fun _ _ h => Document.leads_focus h
  | blur node =>
    refine .orElse fun _ d' h => ?_
    rw [bind_eq_ok] at h
    obtain ⟨d₁, h₁, h⟩ := h
    cases h
    exact Document.leads_blur h₁

/-- **So does every history.** -/
theorem Document.leads_afterInteractions (behaviour : Behaviour) (d : Document)
    (interactions : List Interaction) :
    d.Leads behaviour (d.afterInteractions behaviour interactions) := by
  induction interactions generalizing d with
  | nil => exact .refl d
  | cons i interactions ih => exact (i.leads d).trans (ih _)

/-! ## The law for one dispatch -/

/-- What a dispatch with these calls does to registrations for one call. -/
structure OnceLaw (d : Document) (calls : List ListenerCall) (d' : Document) : Prop where
  /-- A registration for one call that was called is gone just if it was called under its own
  type. -/
  gone_iff : ∀ c ∈ calls, ∀ n r, c.IsFor n r → r.options.once = true →
    (r ∉ d'.registrations n ↔ c.event.type = r.type)
  /-- Whatever is gone is a registration for one call that was called, just if no call under another
  type meets a registration of its listener for that type. -/
  gone_only_iff :
    (∀ n x, x ∈ d.registrations n → x ∉ d'.registrations n →
      x.options.once = true ∧ ∃ c ∈ calls, c.IsFor n x) ↔
    ∀ c ∈ calls, ∀ n r, c.IsFor n r → r.options.once = true → c.event.type ≠ r.type →
      ∀ x ∈ d.registrations n, x.key ≠ (c.event.type, r.listener, r.options.capture)

/-- Two calls of a dispatch on visits apart, in whatever order they were made. -/
theorem Travelled.clear_of_mem (h : Travelled behaviour d vs calls d')
    (hv : vs.Pairwise Visit.Apart) {c c' : ListenerCall} (hc : c ∈ calls) (hc' : c' ∈ calls) :
    c = c' ∨ c.Clear c' := by
  have hclear := h.clear hv
  have hsymm : ∀ {c c' : ListenerCall}, c.Clear c' → c'.Clear c :=
    fun hcl n r r' hr hr' he => (hcl n r' r hr' hr he.symm).imp Eq.symm Ne.symm
  exact List.Pairwise.forall_of_forall_of_flip (R := fun c c' => c = c' ∨ c.Clear c')
    (fun _ _ => .inl rfl) (hclear.imp .inr) (hclear.imp fun hcl => .inr (hsymm hcl)) hc hc'

/-- **On visits apart, the law holds**: at one node, the calls for one leg are those of different
registrations for one type, so a call strikes another registration than its own just if it is made
under another type. -/
theorem Travelled.onceLaw (h : Travelled behaviour d vs calls d') (hv : vs.Pairwise Visit.Apart) :
    OnceLaw d calls d' := by
  have hcalled := h.tells.called
  refine ⟨fun c hc n r hfor ho => ?_, ?_⟩
  · have hr := h.tells.source c hc n r hfor
    constructor
    · intro hgone
      -- some call strikes `r`; it is the call of `r`, since others are of its type and differ
      by_cases ht : c.event.type = r.type
      · exact ht
      · exfalso
        refine hgone (hcalled.mem_registrations_iff.mpr ⟨hr, fun c' hc' => ?_⟩)
        rw [← Bool.not_eq_true, ListenerCall.strikes_iff]
        rintro ⟨s, hs, -, hkey⟩
        have hcapture : r.options.capture = s.options.capture := congrArg (fun k => k.2.2) hkey
        have htype : r.type = c'.event.type := congrArg (fun k => k.1) hkey
        rcases h.clear_of_mem hv hc hc' with rfl | hclear
        · exact ht htype.symm
        · obtain ⟨hst, hne⟩ := hclear n r s hfor hs hcapture
          refine hne (Document.eq_of_key_eq hr (h.tells.source c' hc' n s hs) ?_)
          rw [hkey, ← htype, hst]
          rfl
    · intro ht hmem
      exact h.tells.type_ne_of_mem hc hfor ho hmem ht
  · constructor
    · intro honly c hc n r hfor ho hne x hx hkey
      have hstrikes : c.strikes n x = true := ListenerCall.strikes_iff.mpr ⟨r, hfor, ho, hkey⟩
      have hgone : x ∉ d'.registrations n := by
        intro hmem
        rw [(hcalled.mem_registrations_iff.mp hmem).2 c hc] at hstrikes
        cases hstrikes
      obtain ⟨-, c', hc', hfor'⟩ := honly n x hx hgone
      have hcapture : x.options.capture = r.options.capture := congrArg (fun k => k.2.2) hkey
      have htype : x.type = c.event.type := congrArg (fun k => k.1) hkey
      -- the struck registration was called too, so it is for the type of `r`
      rcases h.clear_of_mem hv hc hc' with rfl | hclear
      · obtain rfl : r = x := Option.some.inj (hfor.2.symm.trans hfor'.2)
        exact hne htype.symm
      · have hst := (hclear n r x hfor hfor' hcapture.symm).1
        exact hne (htype.symm.trans hst.symm)
    · intro hnone n x hx hgone
      by_cases hstruck : ∃ c ∈ calls, c.strikes n x = true
      · obtain ⟨c, hc, hstrikes⟩ := hstruck
        obtain ⟨r, hfor, ho, hkey⟩ := ListenerCall.strikes_iff.mp hstrikes
        by_cases ht : c.event.type = r.type
        · have hr := h.tells.source c hc n r hfor
          obtain rfl : x = r := Document.eq_of_key_eq hx hr (by rw [hkey, ht]; rfl)
          exact ⟨ho, c, hc, hfor⟩
        · exact absurd hkey (hnone c hc n r hfor ho ht x hx)
      · refine absurd (hcalled.mem_registrations_iff.mpr ⟨hx, fun c hc => ?_⟩) hgone
        rw [← Bool.not_eq_true]
        exact fun hs => hstruck ⟨c, hc, hs⟩

/-! ## Both laws -/

/-- A list has one entry of a kind at most, just if no two entries are of that kind. -/
theorem length_filter_le_one_iff {α : Type} {p : α → Bool} {l : List α} :
    (l.filter p).length ≤ 1 ↔ l.Pairwise fun a b => p a = true → p b = false := by
  induction l with
  | nil => simp
  | cons a l ih =>
    rw [List.pairwise_cons]
    cases hp : p a with
    | false =>
      rw [List.filter_cons_of_neg (by simp [hp]), ih]
      simp
    | true =>
      rw [List.filter_cons_of_pos hp, List.length_cons]
      constructor
      · intro hl
        have hnil : l.filter p = [] := List.length_eq_zero_iff.mp (by omega)
        refine ⟨fun b hb _ => ?_, ih.mp (by simp [hnil])⟩
        simpa using List.filter_eq_nil_iff.mp hnil b hb
      · rintro ⟨hnone, -⟩
        have hnil : l.filter p = [] :=
          List.filter_eq_nil_iff.mpr fun b hb => by simp [hnone b hb rfl]
        simp [hnil]

namespace Document.Tells

variable {n : NodeId} {r : Registration}

/-- A registration for one call is called once at most, just if no call of it under another type
comes before another call of it. -/
theorem length_filter_isFor_le_one_iff (h : d.Tells behaviour calls d')
    (ho : r.options.once = true) :
    (calls.filter fun c => c.IsFor n r).length ≤ 1 ↔
      calls.Pairwise fun c c' => c.IsFor n r → c'.IsFor n r → c.event.type = r.type := by
  rw [length_filter_le_one_iff]
  constructor
  · intro honce
    refine honce.imp fun hcc hc hc' => ?_
    have hnot := hcc (decide_eq_true hc)
    exact absurd hc' (of_decide_eq_false hnot)
  · intro hown
    -- a second call comes after a call under another type, and there is none
    refine (h.again.and hown).imp fun hcc hc => decide_eq_false fun hc' => ?_
    exact hcc.1 n r (of_decide_eq_true hc) hc' ho (hcc.2 (of_decide_eq_true hc) hc')

/-- If no listener writes the type, a registration for one call is called once at most. -/
theorem length_filter_isFor_le_one (h : d.Tells behaviour calls d') (hb : behaviour.KeepsType)
    (ho : r.options.once = true) : (calls.filter fun c => c.IsFor n r).length ≤ 1 := by
  refine (h.length_filter_isFor_le_one_iff ho).mpr ?_
  exact List.pairwise_of_forall_mem_list fun c hc _ _ hfor _ => h.type_eq hb c hc n r hfor

end Document.Tells

/-- If no listener writes the type, only registrations for one call that were called are gone. -/
theorem Travelled.isFor_of_gone (h : Travelled behaviour d vs calls d')
    (hv : vs.Pairwise Visit.Apart) (hb : behaviour.KeepsType) :
    ∀ n x, x ∈ d.registrations n → x ∉ d'.registrations n →
      x.options.once = true ∧ ∃ c ∈ calls, c.IsFor n x := by
  refine (h.onceLaw hv).gone_only_iff.mpr fun c hc n r hfor _ hne => ?_
  exact absurd (h.tells.type_eq hb c hc n r hfor) hne

/-- **Registrations for one call.** In every history of interactions, a registration for one call is
called once at most, just if no call of it under another type comes before another call of it. In
every dispatch through a well-formed tree, a registration for one call that is called is gone
afterwards just if it is called under its own type, and only such registrations are gone just if no
call under another type meets one. If no listener writes the type, every registration for one call
is called once at most, and a dispatch takes out only those that it has called. -/
theorem once_registrations (behaviour : Behaviour) (d : Document) :
    (∀ interactions : List Interaction, ∃ calls,
      (d.afterInteractions behaviour interactions).journal = d.journal ++ calls ∧
      (∀ n r, r.options.once = true →
        ((calls.filter fun c => c.IsFor n r).length ≤ 1 ↔
          calls.Pairwise fun c c' => c.IsFor n r → c'.IsFor n r → c.event.type = r.type)) ∧
      (behaviour.KeepsType → ∀ n r, r.options.once = true →
        (calls.filter fun c => c.IsFor n r).length ≤ 1)) ∧
    ∀ e b d', d.tree.WellFormed → d.dispatch behaviour e = .ok (b, d') →
      ∃ calls, d'.journal = d.journal ++ calls ∧ OnceLaw d calls d' ∧
        (behaviour.KeepsType → ∀ n x, x ∈ d.registrations n → x ∉ d'.registrations n →
          x.options.once = true ∧ ∃ c ∈ calls, c.IsFor n x) := by
  constructor
  · intro interactions
    obtain ⟨calls, hcalls⟩ := d.leads_afterInteractions behaviour interactions
    refine ⟨calls, hcalls.called.journal, ?_, ?_⟩
    · intro n r ho
      exact hcalls.length_filter_isFor_le_one_iff ho
    · intro hb n r ho
      exact hcalls.length_filter_isFor_le_one hb ho
  · intro e b d' hd h
    obtain ⟨vs, calls, ht, hv⟩ := exists_travelled h
    exact ⟨calls, ht.tells.called.journal, ht.onceLaw (hv hd), ht.isFor_of_gone (hv hd)⟩

/-- The body hears of two events. Its first listener writes the type of each, so the second one,
which is registered for one call, is called under another type, stays, and is called again. -/
theorem once_registrations_skeletonWith :
    let listeners := (Listeners.empty.add "click" ⟨0⟩ {}).2
    let d := Document.skeletonWith (listeners.add "click" ⟨1⟩ { once := true }).2
    let behaviour : Behaviour := fun l _ => if l = ⟨0⟩ then [.setType "change"] else []
    let click : Interaction := .dispatch { type := "click", target := some 3 }
    let r : Registration := ⟨"click", ⟨1⟩, { once := true }⟩
    let calls := (d.afterInteractions behaviour [click, click]).journal
    r ∈ d.registrations 3 ∧ (calls.filter fun c => c.IsFor 3 r).length = 2 ∧
      ¬ calls.Pairwise fun c c' => c.IsFor 3 r → c'.IsFor 3 r → c.event.type = r.type := by
  intro listeners d behaviour click r calls
  have htwice : (calls.filter fun c => c.IsFor 3 r).length = 2 := by decide +kernel
  refine ⟨by decide +kernel, htwice, fun hown => ?_⟩
  obtain ⟨calls', hcalls, honce, -⟩ := (once_registrations behaviour d).1 [click, click]
  rw [show d.journal = [] from rfl, List.nil_append] at hcalls
  have hiff := honce 3 r rfl
  rw [← hcalls] at hiff
  exact absurd (htwice ▸ hiff.mpr hown) (by decide)

end WebPage
