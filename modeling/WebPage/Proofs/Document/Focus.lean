import WebPage.Proofs.Document.AttributeChanges
import WebPage.Proofs.Document.Once

/-!
# Focus and blur events

An element is told with one event that it gets the focus and with another one that it loses it. The
two kinds of events are bracketed: whoever is told that it gets the focus is told that it loses it
before anyone else hears of the focus. This needs that the element with the focus stays in the tree,
for one that is taken out loses the focus silently. So it holds of histories that change no link.

To say which events a call sends, it is run with a dispatch that also keeps a record of the events.
This is the same text as that of the call itself, which sends its events by dispatching them only.

## Main definitions

* `Recording`, `Recording.Gives`: computations that keep a record of the events that they send
* `Document.recordDispatch`: dispatches an event, and keeps a record of it
* `FocusCall`: calls that change no link
* `Document.Moved`: what such a call does about the focus
* `Watched`: a document with the events by which elements were told of the focus

## Main results

* `Document.moved_focus`, `Document.moved_blur`, `FocusCall.moved`: what each call does
* `Bracketed.step`: one call keeps the events bracketed
* `focus_blur_bracketed`: so does every history, and the last event tells who has the focus
-/

namespace WebPage

/-! ## Recording what is sent -/

/-- What succeeds without an effect can be put in. -/
theorem liftM_ok_bind {m : Type → Type} [Monad m] [LawfulMonad m] [MonadLiftT (Except DomError) m]
    [LawfulMonadLiftT (Except DomError) m] {α β : Type} (a : α) (f : α → m β) :
    (liftM (.ok a : Except DomError α) >>= f) = f a := by
  have hpure : (liftM (.ok a : Except DomError α) : m α) = pure a := liftM_pure a
  rw [hpure, pure_bind]

/-- Computations that keep a record of the events that they send, also of those before a failure. -/
abbrev Recording := EStateM DomError (List Event)

namespace Recording

variable {α β : Type}

/-- A failure of a document sends nothing. -/
instance : MonadLift (Except DomError) Recording where
  monadLift := MonadExcept.ofExcept

instance : LawfulMonadLift (Except DomError) Recording where
  monadLift_pure _ := rfl
  monadLift_bind x f := by cases x <;> rfl

/-- The events that a computation sends. -/
def events (x : Recording α) : List Event :=
  stateAfter x []

/-- A computation gives this result and sends these events, whatever was sent before. -/
def Gives (x : Recording α) (result : Except DomError α) (events : List Event) : Prop :=
  ∀ log, x log =
    match result with
    | .ok a => .ok a (log ++ events)
    | .error e => .error e (log ++ events)

namespace Gives

variable {x : Recording α} {f : α → Recording β} {a : α} {e : DomError}
  {result : Except DomError β} {events events' : List Event}

theorem pure (a : α) : Gives (Pure.pure a) (.ok a) [] := by
  intro log
  rw [List.append_nil]
  rfl

theorem lift (result : Except DomError α) : Gives (liftM result) result [] := by
  intro log
  rw [List.append_nil]
  cases result <;> rfl

/-- What runs in sequence sends its events in sequence. -/
theorem bind (hx : Gives x (.ok a) events) (hf : Gives (f a) result events') :
    Gives (x >>= f) result (events ++ events') := by
  intro log
  have hstep : (x >>= f) log = f a (log ++ events) := by
    simp [Bind.bind, EStateM.bind, hx log]
  rw [hstep, hf, List.append_assoc]

theorem bind_pure {g : α → β} (hx : Gives x (.ok a) events) :
    Gives (x >>= fun a => Pure.pure (g a)) (.ok (g a)) events := by
  rw [← List.append_nil events]
  exact hx.bind (pure (g a))

theorem bind_error (hx : Gives x (.error e) events) : Gives (x >>= f) (.error e) events := by
  intro log
  simp [Bind.bind, EStateM.bind, hx log]

/-- The record of a computation is the list of events that it sends. -/
theorem events_eq {result : Except DomError α} (hx : Gives x result events) :
    x.events = events := by
  unfold Recording.events stateAfter
  rw [hx []]
  cases result <;> rfl

end Gives

end Recording

/-! ## Dispatching and recording -/

/-- The event by which an element is told that it gets the focus. -/
def focusEvent (n : NodeId) : Event :=
  { type := "focus", target := some n }

/-- The event by which an element is told that it loses the focus. -/
def blurEvent (n : NodeId) : Event :=
  { type := "blur", target := some n }

namespace Document

variable {behaviour : Behaviour} {d d' : Document} {r : NodeRef}

/-- Dispatches an event, and keeps a record of it. -/
def recordDispatch (behaviour : Behaviour) (d : Document) (e : Event) :
    Recording (Bool × Document) := do
  modify (· ++ [e])
  d.dispatch behaviour e

theorem gives_recordDispatch (behaviour : Behaviour) (d : Document) (e : Event) :
    (recordDispatch behaviour d e).Gives (d.dispatch behaviour e) [e] := by
  have hlog : Recording.Gives (modify (· ++ [e]) : Recording PUnit) (.ok ⟨⟩) [e] := fun _ => rfl
  exact hlog.bind (.lift _)

/-- A node that is there can be told of the focus. This changes registrations and journal only. -/
theorem exists_announceBy (behaviour : Behaviour) (type : String) (h : (d.tree.kind? r).isSome) :
    ∃ d', announceBy (dispatch behaviour) d type r = .ok d' ∧
      (announceBy (recordDispatch behaviour) d type r).Gives (.ok d') [{ type, target := r }] ∧
      d.SameContent d' := by
  obtain ⟨b, d', hsent, hsame⟩ := exists_dispatch behaviour { type, target := r } h
  have hrecord : (recordDispatch behaviour d { type, target := r }).Gives (.ok (b, d'))
      [{ type, target := r }] := hsent ▸ gives_recordDispatch _ _ _
  exact ⟨d', return_snd_eq_ok.mpr ⟨b, hsent⟩, hrecord.bind_pure, hsame⟩

section Sending

variable {m : Type → Type} [Monad m] [MonadLiftT (Except DomError) m]
  (send : Document → Event → m (Bool × Document))

theorem focusBy_of_stays (h : d.isFocusable r = true → d.focused = r) :
    focusBy send d r = (do
      let _ ← d.tree.element r
      pure (d.isFocusable r, d)) := by
  unfold focusBy
  cases hf : d.isFocusable r with
  | false => rfl
  | true =>
    rw [if_neg (by decide), if_pos (h hf)]

theorem focusBy_of_moves (hf : d.isFocusable r = true) (hn : d.focused ≠ r) :
    focusBy send d r = (do
      let _ ← d.tree.element r
      let d ← dropFocusBy send d
      let d ← announceBy send { d with focused := r } "focus" r
      pure (true, d)) := by
  unfold focusBy
  rw [hf, if_neg (by decide), if_neg hn]

end Sending

end Document

/-! ## What a call does about the focus -/

theorem Tree.kind?_isSome_of_isConnected {t : Tree} {r : NodeRef} (h : t.isConnected r = true) :
    (t.kind? r).isSome := by
  rw [isConnected, Bool.and_eq_true] at h
  rw [isSome_kind?]
  exact h.1

/-- What a call that changes no link does about the focus, with the events that it sends for it. -/
inductive Document.Moved (d : Document) : List Event → Document → Prop where
  /-- The focus stays where it is. -/
  | stays {d' : Document} (frame : d.tree.SameFrame d'.tree) (hf : d'.focused = d.focused) :
      Moved d [] d'
  /-- An element in the tree gets the focus, after the one that had it has lost it. -/
  | given {d' : Document} {x : NodeId} (frame : d.tree.SameFrame d'.tree)
      (hx : d.isConnected (some x) = true) (hf : d'.focused = some x) :
      Moved d (d.focused.toList.map blurEvent ++ [focusEvent x]) d'
  /-- The element with the focus loses it. -/
  | taken {d' : Document} {x : NodeId} (frame : d.tree.SameFrame d'.tree)
      (hx : d.focused = some x) (hf : d'.focused = none) : Moved d [blurEvent x] d'

namespace Document

variable {behaviour : Behaviour} {d d' : Document} {r : NodeRef} {b : Bool} {x : NodeId}

/-- The element with the focus is in the tree, if any element has the focus. -/
def FocusConnected (d : Document) : Prop :=
  ∀ x, d.focused = some x → d.isConnected (some x) = true

/-- What can have the focus is an element in the tree. -/
theorem exists_of_isFocusable (h : d.isFocusable r = true) :
    ∃ x e, r = some x ∧ d.tree.element r = .ok e ∧ d.isConnected r = true := by
  unfold isFocusable at h
  cases he : d.tree.element? r with
  | none => simp [he] at h
  | some e =>
    simp only [he, Option.any_some, Bool.and_eq_true] at h
    cases r with
    | none => cases he
    | some x => exact ⟨x, e, rfl, Tree.element_eq_ok.mpr he, h.1.1⟩

/-- An element that has the focus and is in the tree is told that it loses it. -/
theorem exists_dropFocusBy (behaviour : Behaviour) (h : d.FocusConnected) :
    ∃ d', dropFocusBy (dispatch behaviour) d = .ok d' ∧
      (dropFocusBy (recordDispatch behaviour) d).Gives (.ok d') (d.focused.toList.map blurEvent) ∧
      { d with focused := none }.SameContent d' := by
  unfold dropFocusBy
  cases hold : d.focused with
  | none => exact ⟨{ d with focused := none }, rfl, .pure _, .refl _⟩
  | some y =>
    have hy : { d with focused := none }.isConnected (some y) = true := h y hold
    dsimp only
    rw [if_pos hy, if_pos hy]
    exact exists_announceBy behaviour "blur" (Tree.kind?_isSome_of_isConnected hy)

/-- **Giving the focus**: it fails without an event where there is no element; otherwise it leaves
the focus where it is, or gives it to the element. -/
theorem moved_focus (behaviour : Behaviour) (h : d.FocusConnected) (r : NodeRef) :
    ∃ events, (focusBy (recordDispatch behaviour) d r).Gives (d.focus behaviour r) events ∧
      d.Moved events (d.orElse (d.focus behaviour r)) := by
  unfold focus
  by_cases hstays : d.isFocusable r = true → d.focused = r
  · rw [focusBy_of_stays _ hstays, focusBy_of_stays _ hstays]
    cases d.tree.element r with
    | error err => exact ⟨[], .bind_error (.lift _), .stays (.refl _) rfl⟩
    | ok e =>
      simp only [liftM_ok_bind]
      exact ⟨[], .pure _, .stays (.refl _) rfl⟩
  · obtain ⟨hf, hn⟩ : d.isFocusable r = true ∧ d.focused ≠ r := by
      simpa [Classical.not_imp] using hstays
    rw [focusBy_of_moves _ hf hn, focusBy_of_moves _ hf hn]
    obtain ⟨x, e, rfl, he, hx⟩ := exists_of_isFocusable hf
    simp only [he, liftM_ok_bind]
    -- the one that has the focus is told first; the tree is linked as before then
    obtain ⟨d₁, hdrop, hdropped, hsame₁⟩ := exists_dropFocusBy behaviour h
    have hx₁ : d₁.tree.isConnected (some x) = true := by
      rw [hsame₁.sameFrame.isConnected_eq]
      exact hx
    obtain ⟨d₂, hsend, hsent, hsame₂⟩ := exists_announceBy (d := { d₁ with focused := some x })
      behaviour "focus" (Tree.kind?_isSome_of_isConnected hx₁)
    refine ⟨d.focused.toList.map blurEvent ++ [focusEvent x], ?_⟩
    simp only [hdrop, hsend, ok_bind]
    exact ⟨.bind hdropped (.bind_pure hsent),
      .given (hsame₁.sameFrame.trans hsame₂.sameFrame) hx hsame₂.focused⟩

/-- **Taking the focus**: it fails without an event where there is no element; otherwise it leaves
the focus where it is, or takes it from the element that has it. -/
theorem moved_blur (behaviour : Behaviour) (r : NodeRef) :
    ∃ events, (blurBy (recordDispatch behaviour) d r).Gives (d.blur behaviour r) events ∧
      d.Moved events (d.orElse (return ((), ← d.blur behaviour r))) := by
  unfold blur blurBy
  cases he : d.tree.element r with
  | error err => exact ⟨[], .bind_error (.lift _), .stays (.refl _) rfl⟩
  | ok e =>
    simp only [liftM_ok_bind]
    by_cases hhas : d.focused = r
    · obtain ⟨x, rfl⟩ : ∃ x, r = some x := by
        cases r with
        | none => cases he
        | some x => exact ⟨x, rfl⟩
      have hx : (d.tree.kind? (some x)).isSome :=
        Tree.kind?_isSome_of_isElement (Tree.isElement_of_element? (Tree.element_eq_ok.mp he))
      obtain ⟨d', hsend, hsent, hsame⟩ :=
        exists_announceBy (d := { d with focused := none }) behaviour "blur" hx
      refine ⟨[blurEvent x], ?_⟩
      rw [if_pos hhas, if_pos hhas, hsend]
      exact ⟨hsent, .taken hsame.sameFrame hhas hsame.focused⟩
    · rw [if_neg hhas, if_neg hhas]
      exact ⟨[], .pure _, .stays (.refl _) rfl⟩

end Document

/-! ## Calls that change no link -/

/-- A call that changes no link: an interaction with listeners that behave in some way, or a change
of attributes. -/
inductive FocusCall where
  | interact (behaviour : Behaviour) (interaction : Interaction)
  | change (change : AttributeChange)

namespace FocusCall

/-- What a call does. One that fails does nothing. -/
def perform (d : Document) : FocusCall → Document
  | interact behaviour i => i.perform behaviour d
  | change c => d.orElse (return ((), { d with tree := ← c.apply d.tree }))

/-- The events that giving and taking the focus send. -/
def told (d : Document) : FocusCall → List Event
  | interact behaviour (.focus node) => (Document.focusBy (Document.recordDispatch behaviour) d node).events
  | interact behaviour (.blur node) => (Document.blurBy (Document.recordDispatch behaviour) d node).events
  | _ => []

end FocusCall

/-- A document with the events by which elements were told that they get or lose the focus. -/
structure Watched where
  document : Document
  told : List Event := []

/-- A call, with the events that it sends for the focus. -/
def Watched.step (w : Watched) (call : FocusCall) : Watched where
  document := call.perform w.document
  told := w.told ++ call.told w.document

/-- A document after a history of calls, with the events that were sent for the focus. -/
def Document.watch (d : Document) (calls : List FocusCall) : Watched :=
  calls.foldl Watched.step { document := d }

namespace Document

variable {behaviour : Behaviour} {d d' : Document} {r : NodeRef} {b : Bool}

/-- What writes controls and dispatches events leaves the links and the focus alone. -/
def SamePlaces (d d' : Document) : Prop :=
  d.tree.SameFrame d'.tree ∧ d'.focused = d.focused

theorem samePlaces_click (h : d.click behaviour r = .ok (b, d')) : SamePlaces d d' := by
  refine chain_click (R := SamePlaces) (fun d => ⟨.refl _, rfl⟩) ?_ ?_ ?_ h
  · intro d d' d'' h h'
    exact ⟨h.1.trans h'.1, h'.2.trans h.2⟩
  · intro d d' r b h
    obtain ⟨t, ht, rfl⟩ := setChecked_eq_ok.mp h
    exact ⟨Tree.sameFrame_setChecked ht, rfl⟩
  · intro d d' event b h
    have hsame := sameContent_dispatch h
    exact ⟨hsame.sameFrame, hsame.focused⟩

theorem Moved.orElse_of_samePlaces {α : Type} {result : Except DomError (α × Document)}
    (h : ∀ a d', result = .ok (a, d') → SamePlaces d d') : d.Moved [] (d.orElse result) := by
  unfold Document.orElse
  split
  next a d' =>
    obtain ⟨hframe, hf⟩ := h a d' rfl
    exact .stays hframe hf
  next => exact .stays (.refl _) rfl

end Document

/-- **What one call does about the focus**, and the events that it sends for it. -/
theorem FocusCall.moved {d : Document} (h : d.FocusConnected) (call : FocusCall) :
    d.Moved (call.told d) (call.perform d) := by
  cases call with
  | interact behaviour i =>
    cases i with
    | dispatch event =>
      refine .orElse_of_samePlaces fun b d' hd => ?_
      have hsame := Document.sameContent_dispatch hd
      exact ⟨hsame.sameFrame, hsame.focused⟩
    | click node => exact .orElse_of_samePlaces fun b d' hd => Document.samePlaces_click hd
    | focus node =>
      obtain ⟨events, hgives, hmoved⟩ := Document.moved_focus behaviour h node
      rw [told, hgives.events_eq]
      exact hmoved
    | blur node =>
      obtain ⟨events, hgives, hmoved⟩ := Document.moved_blur behaviour (d := d) node
      rw [told, hgives.events_eq]
      exact hmoved
  | change c =>
    refine .orElse_of_samePlaces fun _ d' hd => ?_
    obtain ⟨t, ht, hd⟩ := bind_eq_ok.mp hd
    cases hd
    exact ⟨c.sameFrame ht, rfl⟩

/-! ## Histories -/

/-- The events of an element that gets the focus and loses it again. -/
def bracket (n : NodeId) : List Event :=
  [focusEvent n, blurEvent n]

/-- The events so far are brackets, followed by the open one of the element with the focus, which is
in the tree. -/
structure Bracketed (w : Watched) : Prop where
  connected : w.document.FocusConnected
  told : ∃ xs : List NodeId,
    w.told = xs.flatMap bracket ++ w.document.focused.toList.map focusEvent

namespace Bracketed

variable {w : Watched}

/-- **One call keeps the events bracketed.** -/
theorem step (h : Bracketed w) (call : FocusCall) : Bracketed (w.step call) := by
  obtain ⟨hconnected, xs, htold⟩ := h
  have hmoved := call.moved hconnected
  unfold Watched.step
  generalize call.told w.document = events at hmoved
  generalize call.perform w.document = d' at hmoved
  cases hmoved with
  | stays frame hf =>
    refine ⟨fun x hx => ?_, xs, ?_⟩
    · rw [Document.isConnected, frame.isConnected_eq]
      exact hconnected x (hf ▸ hx)
    · rw [List.append_nil, htold, hf]
  | @given _ x frame hx hf =>
    refine ⟨fun y hy => ?_, xs ++ w.document.focused.toList, ?_⟩
    · rw [hf] at hy
      cases hy
      rw [Document.isConnected, frame.isConnected_eq]
      exact hx
    · -- the bracket of the element that had the focus is closed, the one of the new one is opened
      rw [htold, hf]
      cases w.document.focused <;> simp [bracket]
  | @taken _ x frame hx hf =>
    refine ⟨fun y hy => ?_, xs ++ [x], ?_⟩
    · rw [hf] at hy
      cases hy
    · rw [htold, hx, hf]
      simp [bracket]

/-- **So does every history of calls.** -/
theorem watch {d : Document} (h : d.focused = none) (calls : List FocusCall) :
    Bracketed (d.watch calls) := by
  have hall : ∀ (calls : List FocusCall) (w : Watched), Bracketed w →
      Bracketed (calls.foldl Watched.step w) := by
    intro calls
    induction calls with
    | nil => exact fun _ hw => hw
    | cons call calls ih => exact fun w hw => ih _ (hw.step call)
  refine hall calls _ ⟨fun x hx => ?_, [], ?_⟩
  · rw [h] at hx
    cases hx
  · rw [h]
    rfl

/-- The brackets of some elements end with a loss of the focus, if there are any. -/
theorem eq_nil_or_getLast? (xs : List NodeId) :
    xs.flatMap bracket = [] ∨ ∃ x, (xs.flatMap bracket).getLast? = some (blurEvent x) := by
  rcases List.eq_nil_or_concat xs with rfl | ⟨ys, y, rfl⟩
  · exact .inl rfl
  · refine .inr ⟨y, ?_⟩
    rw [List.concat_eq_append, List.flatMap_append, List.getLast?_append]
    rfl

theorem focusEvent_ne_blurEvent (x y : NodeId) : focusEvent x ≠ blurEvent y := by
  intro h
  have htype : "focus" = "blur" := congrArg Event.type h
  exact absurd htype (by decide)

/-- The element with the focus is the one that was told last that it gets it. -/
theorem focused_eq_some_iff (h : Bracketed w) (x : NodeId) :
    w.document.focused = some x ↔ w.told.getLast? = some (focusEvent x) := by
  obtain ⟨xs, htold⟩ := h.told
  rw [htold]
  cases w.document.focused with
  | some y => simp [focusEvent, eq_comm]
  | none =>
    refine ⟨nofun, fun hlast => ?_⟩
    exfalso
    rw [Option.toList_none, List.map_nil, List.append_nil] at hlast
    rcases eq_nil_or_getLast? xs with hnil | ⟨y, hy⟩
    · rw [hnil] at hlast
      cases hlast
    · exact focusEvent_ne_blurEvent x y (Option.some.inj (hlast.symm.trans hy))

/-- Nobody has the focus if nobody was told of it, or if the last who was told has lost it. -/
theorem focused_eq_none_iff (h : Bracketed w) :
    w.document.focused = none ↔
      w.told = [] ∨ ∃ x, w.told.getLast? = some (blurEvent x) := by
  obtain ⟨xs, htold⟩ := h.told
  rw [htold]
  cases w.document.focused with
  | none =>
    rw [Option.toList_none, List.map_nil, List.append_nil]
    exact ⟨fun _ => eq_nil_or_getLast? xs, fun _ => rfl⟩
  | some y =>
    refine ⟨nofun, fun hlast => ?_⟩
    exfalso
    rcases hlast with hnil | ⟨x, hx⟩
    · simp at hnil
    · simp only [Option.toList_some, List.map_cons, List.map_nil, List.getLast?_concat] at hx
      exact focusEvent_ne_blurEvent y x (Option.some.inj hx)

/-- The events so far are an initial part of the brackets of some elements. -/
theorem exists_prefix (h : Bracketed w) :
    ∃ xs : List NodeId, w.told <+: xs.flatMap bracket := by
  obtain ⟨xs, htold⟩ := h.told
  refine ⟨xs ++ w.document.focused.toList, ?_⟩
  rw [htold, List.flatMap_append, List.prefix_append_right_inj]
  cases w.document.focused with
  | none => exact List.prefix_rfl
  | some x => exact ⟨[blurEvent x], rfl⟩

end Bracketed

/-- **Focus and blur events are bracketed.** From a document where nobody has the focus, along every
history of interactions and changes of attributes, with whatever listeners:
* the events by which giving and taking the focus tell elements of it are `focus` and `blur` of one
  element, `focus` and `blur` of another one, and so on, up to some point;
* an element has the focus just if the last event is its `focus`;
* nobody has it just if there was no event, or the last one is a `blur`. -/
theorem focus_blur_bracketed {d : Document} (h : d.focused = none) (calls : List FocusCall) :
    (∃ xs : List NodeId,
      (d.watch calls).told <+: xs.flatMap fun x => [focusEvent x, blurEvent x]) ∧
    (∀ x, (d.watch calls).document.focused = some x ↔
      (d.watch calls).told.getLast? = some (focusEvent x)) ∧
    ((d.watch calls).document.focused = none ↔
      (d.watch calls).told = [] ∨ ∃ x, (d.watch calls).told.getLast? = some (blurEvent x)) := by
  have hbracketed := Bracketed.watch h calls
  exact ⟨hbracketed.exists_prefix, hbracketed.focused_eq_some_iff,
    hbracketed.focused_eq_none_iff⟩

/-- The focus goes from the head to the body, whose listener for it writes another type, and back. A
body that has it keeps it without the attribute that made it focusable. -/
theorem focus_blur_bracketed_skeletonWith :
    let d := Document.skeletonWith (Listeners.empty.add "focus" ⟨0⟩ {}).2
    let call : Interaction → FocusCall := .interact fun _ _ => [.setType "blur"]
    let w := d.watch
      [.change (.set (some 2) "tabindex" "0"), .change (.set (some 3) "tabindex" "0"),
        call (.focus (some 2)), call (.focus (some 3)), .change (.remove (some 3) "tabindex"),
        call (.focus (some 3)), call (.click (some 3)), call (.blur (some 3)),
        call (.blur (some 3)), call (.focus (some 2))]
    d.focused = none ∧
      w.told = [focusEvent 2, blurEvent 2, focusEvent 3, blurEvent 3, focusEvent 2] ∧
      w.document.focused = some 2 := by
  intro d call w
  have htold : w.told = [focusEvent 2, blurEvent 2, focusEvent 3, blurEvent 3, focusEvent 2] := by
    decide +kernel
  obtain ⟨-, hfocused, -⟩ := focus_blur_bracketed (d := d) rfl
    [.change (.set (some 2) "tabindex" "0"), .change (.set (some 3) "tabindex" "0"),
      call (.focus (some 2)), call (.focus (some 3)), .change (.remove (some 3) "tabindex"),
      call (.focus (some 3)), call (.click (some 3)), call (.blur (some 3)),
      call (.blur (some 3)), call (.focus (some 2))]
  exact ⟨rfl, htold, (hfocused 2).mpr (congrArg List.getLast? htold)⟩

end WebPage
