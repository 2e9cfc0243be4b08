import WebPage.Document.Dispatch
import WebPage.Proofs.FirstPlaces
import WebPage.Proofs.Tree.Frame

/-!
# What a dispatch leaves of a document

An event that travels through a document changes two things of it: the journal gets the calls that
the event makes, and the registrations for one call that it uses up are taken out. Everything else
stays, so every reading of the tree that does not look at registrations stays too.

Which registrations are taken out can be read from the calls. The call of a registration for one
call strikes the registration of that listener, on that leg, under the type that the event has when
it is shown. This is the called registration itself unless an earlier listener of the same node
has changed the type.

## Main definitions

* `Document.registrations`: the registrations of a node
* `ListenerCall.IsFor`, `ListenerCall.strikes`: what a call is for, and what it takes out
* `Document.SameContent`: two documents differ in registrations and journal only
* `Document.Called d calls d'`: the calls were made between two documents

## Main results

* `Listeners.remove_entries`: taking a registration out leaves those with another key
* `Journey.unregister_registrations`, `Journey.sameContent_unregister`: the same, within a document
* `Document.Called.trans`: calls after calls
-/

namespace WebPage

/-! ## The registrations of one element -/

namespace Listeners

variable {l : Listeners} {r s : Registration}

theorem nodup_entries (l : Listeners) : l.entries.Nodup :=
  List.Pairwise.of_map Registration.key (fun _ _ hne he => hne (congrArg _ he)) l.distinct

theorem eq_of_key_eq (hr : r ∈ l.entries) (hs : s ∈ l.entries) (hk : r.key = s.key) : r = s := by
  have hd := List.pairwise_map.mp l.distinct
  exact List.Pairwise.forall_of_forall_of_flip (R := fun r s => r.key = s.key → r = s)
    (fun _ _ _ => rfl) (hd.imp fun hne he => absurd he hne)
    (hd.imp fun hne he => absurd he.symm hne) hr hs hk

end Listeners

/-- Of entries with distinct keys, erasing the first with a key leaves those with another one. -/
theorem eraseP_isFor {type : String} {listener : Listener} {capture : Bool}
    {entries : List Registration} (h : (entries.map Registration.key).Nodup) :
    entries.eraseP (Registration.isFor type listener capture) =
      entries.filter fun r => !r.isFor type listener capture := by
  refine eraseP_eq_filter ((List.pairwise_map.mp h).imp fun {r s} hne hr => ?_)
  rw [← Bool.not_eq_true, Registration.isFor_iff, ← Registration.isFor_iff.mp hr]
  exact Ne.symm hne

/-- **Taking a registration out leaves those with another key.** -/
theorem Listeners.remove_entries (l : Listeners) (type : String) (listener : Listener)
    (capture : Bool) :
    (l.remove type listener capture).2.entries =
      l.entries.filter fun r => !r.isFor type listener capture :=
  eraseP_isFor l.distinct

/-! ## Content apart from registrations -/

/-- A node without the listeners that are registered with it. -/
def Node.unheard (n : Node) : Node :=
  match n.data with
  | .element e => { n with data := .element { e with listeners := .empty } }
  | _ => n

/-- A document without its registrations and its journal: trees with the same nodes, up to
registrations, and the same address and focus. -/
structure Document.SameContent (d d' : Document) : Prop where
  url : d'.url = d.url
  focused : d'.focused = d.focused
  node : ∀ r, (d'.tree.node? r).map Node.unheard = (d.tree.node? r).map Node.unheard

namespace Document.SameContent

variable {d d' d'' : Document} {r : NodeRef}

theorem refl (d : Document) : SameContent d d := ⟨rfl, rfl, fun _ => rfl⟩

theorem trans (h : SameContent d d') (h' : SameContent d' d'') : SameContent d d'' :=
  ⟨h'.url.trans h.url, h'.focused.trans h.focused, fun r => (h'.node r).trans (h.node r)⟩

/-- A reading of a node that does not look at registrations is the same. -/
theorem map_eq {α : Type} (h : SameContent d d') {f : Node → α} (hf : ∀ n, f n.unheard = f n) :
    (d'.tree.node? r).map f = (d.tree.node? r).map f := by
  have hfc : f ∘ Node.unheard = f := funext hf
  rw [← hfc, ← Option.map_map, h.node, Option.map_map]

theorem bind_eq {α : Type} (h : SameContent d d') {f : Node → Option α}
    (hf : ∀ n, f n.unheard = f n) : (d'.tree.node? r).bind f = (d.tree.node? r).bind f := by
  have hj : ∀ o : Option Node, o.bind f = (o.map f).join := fun o => by cases o <;> rfl
  rw [hj, hj, h.map_eq hf]

theorem kind_unheard (n : Node) : n.unheard.data.kind = n.data.kind := by
  unfold Node.unheard
  split <;> simp [NodeData.kind, *]

theorem sameFrame (h : SameContent d d') : Tree.SameFrame d.tree d'.tree := by
  -- a link is a reading that does not look at registrations
  refine ⟨funext fun r => h.map_eq kind_unheard, ?_, ?_, ?_, ?_, ?_⟩
  all_goals
    refine funext fun r => h.bind_eq fun n => ?_
    unfold Node.unheard
    split <;> rfl

/-- A reading of an element that does not look at registrations is the same. -/
theorem element_bind_eq {α : Type} (h : SameContent d d') {f : Element → Option α}
    (hf : ∀ e, f { e with listeners := .empty } = f e) :
    (d'.tree.element? r).bind f = (d.tree.element? r).bind f := by
  unfold Tree.element?
  rw [Option.bind_assoc, Option.bind_assoc]
  refine h.bind_eq fun n => ?_
  unfold Node.unheard
  split
  next e he => simp [Node.element?, he, hf]
  next => rfl

theorem element_map_eq {α : Type} (h : SameContent d d') {f : Element → α}
    (hf : ∀ e, f { e with listeners := .empty } = f e) :
    (d'.tree.element? r).map f = (d.tree.element? r).map f := by
  rw [Option.map_eq_bind, Option.map_eq_bind]
  exact h.element_bind_eq fun e => congrArg some (hf e)

end Document.SameContent

/-! ## Calls and the registrations that they take out -/

/-- The registrations of a node; one that is no element has none. -/
def Document.registrations (d : Document) (n : NodeId) : List Registration :=
  (d.tree.element? (some n)).elim [] fun e => e.listeners.entries

theorem Document.registrations_of_element {d : Document} {n : NodeId} {e : Element}
    (h : d.tree.element? (some n) = some e) : d.registrations n = e.listeners.entries := by
  rw [registrations, h, Option.elim_some]

namespace ListenerCall

/-- Whether a call is the call of a registration at a node. -/
def IsFor (c : ListenerCall) (n : NodeId) (r : Registration) : Prop :=
  c.event.currentTarget = some n ∧ c.registration = some r

instance (c : ListenerCall) (n : NodeId) (r : Registration) : Decidable (c.IsFor n r) :=
  inferInstanceAs (Decidable (_ ∧ _))

/-- Whether a call takes out a registration at a node: it is for one call, and names that
registration by its listener, its leg and the type that the event has at the call. -/
def strikes (c : ListenerCall) (n : NodeId) (x : Registration) : Bool :=
  c.event.currentTarget == some n &&
    c.registration.any fun r =>
      r.options.once && x.isFor c.event.type r.listener r.options.capture

theorem strikes_iff {c : ListenerCall} {n : NodeId} {x : Registration} :
    c.strikes n x = true ↔ ∃ r, c.IsFor n r ∧ r.options.once = true ∧
      x.key = (c.event.type, r.listener, r.options.capture) := by
  simp only [strikes, Bool.and_eq_true, beq_iff_eq, Option.any_eq_true, Registration.isFor_iff,
    IsFor]
  constructor
  · rintro ⟨hn, r, hr, ho, hk⟩
    exact ⟨r, ⟨hn, hr⟩, ho, hk⟩
  · rintro ⟨r, ⟨hn, hr⟩, ho, hk⟩
    exact ⟨hn, r, hr, ho, hk⟩

end ListenerCall

/-- The registrations at a node that calls leave. -/
def Registration.surviving (calls : List ListenerCall) (n : NodeId) (entries : List Registration) :
    List Registration :=
  entries.filter fun x => !calls.any fun c => c.strikes n x

/-- The calls were made between two documents: they stand in the journal, and of the registrations
just those that they strike are gone. -/
structure Document.Called (d : Document) (calls : List ListenerCall) (d' : Document) : Prop where
  journal : d'.journal = d.journal ++ calls
  registrations : ∀ n, d'.registrations n = Registration.surviving calls n (d.registrations n)

namespace Document.Called

variable {d d' d'' : Document} {calls calls' : List ListenerCall} {n : NodeId} {x : Registration}

/-- A change that leaves the journal and the registrations alone makes no calls. -/
theorem silent (hj : d'.journal = d.journal) (hr : ∀ n, d'.registrations n = d.registrations n) :
    d.Called [] d' := by
  refine ⟨hj.trans (List.append_nil _).symm, fun n => (hr n).trans ?_⟩
  exact (List.filter_eq_self.mpr fun _ _ => rfl).symm

theorem refl (d : Document) : d.Called [] d :=
  silent rfl fun _ => rfl

/-- **Calls after calls.** -/
theorem trans (h : d.Called calls d') (h' : d'.Called calls' d'') :
    d.Called (calls ++ calls') d'' := by
  refine ⟨?_, fun n => ?_⟩
  · rw [h'.journal, h.journal, List.append_assoc]
  · rw [h'.registrations, h.registrations]
    simp only [Registration.surviving, List.filter_filter, List.any_append, Bool.not_or]
    exact List.filter_congr fun x _ => Bool.and_comm _ _

theorem mem_registrations_iff (h : d.Called calls d') :
    x ∈ d'.registrations n ↔ x ∈ d.registrations n ∧ ∀ c ∈ calls, c.strikes n x = false := by
  simp [h.registrations, Registration.surviving]

end Document.Called

/-! ## Taking a registration out -/

namespace Journey

variable (j : Journey) (node : NodeId) (listener : Listener) (capture : Bool)

@[simp] theorem unregister_event : (j.unregister node listener capture).event = j.event := by
  unfold unregister
  split <;> rfl

@[simp] theorem unregister_journal :
    (j.unregister node listener capture).document.journal = j.document.journal := by
  unfold unregister
  split <;> rfl

theorem sameContent_unregister :
    j.document.SameContent (j.unregister node listener capture).document := by
  unfold unregister
  split
  next => exact .refl _
  next e he =>
    refine ⟨rfl, rfl, fun r => ?_⟩
    simp only [Tree.setElement, Tree.setData, Tree.node?_modify]
    split
    next hr =>
      subst hr
      obtain ⟨m, hm, hme⟩ := Option.bind_eq_some_iff.mp he
      rw [hm]
      unfold Node.element? at hme
      split at hme
      next e' hd =>
        obtain rfl : e' = e := Option.some.inj hme
        simp [Node.unheard, hd]
      next => cases hme
    next => rfl

theorem unregister_registrations (n : NodeId) :
    (j.unregister node listener capture).document.registrations n =
      (j.document.registrations n).filter fun x =>
        !(some node == some n && x.isFor j.event.type listener capture) := by
  by_cases hn : node = n
  · subst hn
    unfold unregister
    split
    next he => simp [Document.registrations, he]
    next e he =>
      have hi : j.document.tree.isElement (some node) = true := by
        rw [Tree.isElement, he, Option.isSome_some]
      rw [Document.registrations_of_element he, Document.registrations]
      dsimp only
      rw [Tree.element?_setElement hi, if_pos rfl, Option.elim_some, Listeners.remove_entries]
      simp
  · have hne : (some n : NodeRef) ≠ some node := fun he => hn (Option.some.inj he).symm
    rw [eq_comm, List.filter_eq_self.mpr (by simp [hn])]
    unfold unregister
    split
    next => rfl
    next e he =>
      have hi : j.document.tree.isElement (some node) = true := by
        rw [Tree.isElement, he, Option.isSome_some]
      rw [Document.registrations, Document.registrations]
      dsimp only
      rw [Tree.element?_setElement hi, if_neg hne]

end Journey

end WebPage
