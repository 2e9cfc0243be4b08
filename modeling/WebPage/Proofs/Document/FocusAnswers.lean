import WebPage.Proofs.Document.Focus
import WebPage.Proofs.Page.Structure

/-!
# What giving the focus answers

Giving an element the focus answers whether the element can have it now. An element that has the
focus and is still in the tree may have become unable to get it, because it was disabled or lost the
attribute that made it focusable. It keeps the focus then, and the answer is nevertheless no. In all
other cases the answer is whether the element has the focus afterwards.

So the answer is right as long as the element with the focus could still get it. This is an
invariant of histories: operations on nodes and their places write no attribute, events write none
either, and a change of attributes matters only under four names.

## Main definitions

* `Document.HoldsFocus`: an element has the focus and is in the tree
* `Document.FocusGiven`: what giving the focus does, case by case
* `DocumentCall`, `Page.afterDocumentCalls`: histories of structural calls, interactions and changes
  of attributes
* `Document.HolderAccepts`: the element with the focus could still get it

## Main results

* `Document.focusGiven_of_focus`: giving the focus is one of three cases
* `Document.element?_map_focus`, `Document.element?_map_blur`, `Document.element?_map_click`: what
  interactions leave of an element
* `DocumentCall.holderAccepts`: a call that spares the four names keeps the invariant
* `focus_answer`: when the answer is right, in all histories
-/

namespace WebPage

/-- Whether an element could get the focus if it were in the tree. -/
def Element.acceptsFocus (e : Element) : Bool :=
  !e.isDisabled && e.takesFocus

namespace Document

variable {behaviour : Behaviour} {d d' : Document} {r : NodeRef} {b : Bool} {x : NodeId}

/-- An element has the focus and is in the tree. -/
def HoldsFocus (d : Document) (r : NodeRef) : Prop :=
  d.focused = r ∧ d.isConnected r = true

theorem isFocusable_iff : d.isFocusable r = true ↔
    d.isConnected r = true ∧ ∃ e, d.tree.element? r = some e ∧ e.acceptsFocus = true := by
  unfold isFocusable
  rw [Option.any_eq_true_iff_get]
  cases he : d.tree.element? r with
  | none => simp
  | some e => simp [Element.acceptsFocus, Bool.and_assoc]

/-- An element that holds the focus is the active one, and not the body in its place. -/
theorem activeElement_of_holdsFocus (h : d.HoldsFocus r) : d.activeElement = r := by
  obtain ⟨rfl, hconnected⟩ := h
  unfold activeElement
  cases hf : d.focused with
  | none =>
    rw [hf] at hconnected
    cases hconnected
  | some x =>
    rw [hf] at hconnected
    rw [Option.filter_some, hconnected]
    rfl

/-! ## One call -/

/-- What giving an element the focus does and answers. -/
inductive FocusGiven (d : Document) (r : NodeRef) : Bool → Document → Prop
  /-- An element that cannot get the focus is refused, whether it has the focus or not. -/
  | refused (hr : d.isFocusable r = false) : FocusGiven d r false d
  | kept (hr : d.isFocusable r = true) (hf : d.focused = r) : FocusGiven d r true d
  | moved {d' : Document} (hr : d.isFocusable r = true) (hf : d.focused ≠ r)
      (hsame : { d with focused := r }.SameContent d') : FocusGiven d r true d'

theorem sameContent_announceBy {type : String}
    (h : announceBy (dispatch behaviour) d type r = .ok d') : d.SameContent d' :=
  chain_announceBy (R := SameContent) sameContent_dispatch h

theorem sameContent_dropFocusBy (h : dropFocusBy (dispatch behaviour) d = .ok d') :
    { d with focused := none }.SameContent d' := by
  unfold dropFocusBy at h
  dsimp only at h
  split at h
  next => exact sameContent_announceBy h
  next =>
    obtain rfl := Except.ok.inj h
    exact .refl _

/-- **Giving the focus** refuses it, or leaves it where it is, or moves it. -/
theorem focusGiven_of_focus (h : d.focus behaviour r = .ok (b, d')) : d.FocusGiven r b d' := by
  unfold focus focusBy at h
  rw [bind_eq_ok] at h
  obtain ⟨_, -, h⟩ := h
  split at h
  next hr =>
    cases h
    exact .refused (by simpa using hr)
  next hr =>
    have hr : d.isFocusable r = true := by simpa using hr
    split at h
    next hf =>
      cases h
      exact .kept hr hf
    next hf =>
      rw [bind_eq_ok] at h
      obtain ⟨d₁, h₁, h⟩ := h
      rw [bind_eq_ok] at h
      obtain ⟨d₂, h₂, h⟩ := h
      cases h
      -- the two events leave the content alone
      have hdropped := sameContent_dropFocusBy h₁
      have htold := sameContent_announceBy h₂
      exact .moved hr hf ⟨htold.url.trans hdropped.url, htold.focused,
        fun s => (htold.node s).trans (hdropped.node s)⟩

section Readings

variable {α : Type} {f : Element → α}
  (hlisteners : ∀ e : Element, f { e with listeners := .empty } = f e)
include hlisteners

/-- Giving the focus changes no element, its registrations apart. -/
theorem element?_map_focus (h : d.focus behaviour r = .ok (b, d')) (s : NodeRef) :
    (d'.tree.element? s).map f = (d.tree.element? s).map f :=
  chain_focus (R := fun d d' => ∀ s, (d'.tree.element? s).map f = (d.tree.element? s).map f)
    (fun _ _ => rfl) (fun h h' s => (h' s).trans (h s)) (fun _ _ _ => rfl)
    (fun h _ => (sameContent_dispatch h).element_map_eq hlisteners) h s

theorem element?_map_blur (h : d.blur behaviour r = .ok d') (s : NodeRef) :
    (d'.tree.element? s).map f = (d.tree.element? s).map f :=
  chain_blur (R := fun d d' => ∀ s, (d'.tree.element? s).map f = (d.tree.element? s).map f)
    (fun _ _ => rfl) (fun h h' s => (h' s).trans (h s)) (fun _ _ _ => rfl)
    (fun h _ => (sameContent_dispatch h).element_map_eq hlisteners) h s

/-- A click writes controls and calls listeners, and changes nothing else of an element. -/
theorem element?_map_click (hwrite : ∀ (e : Element) b, f (e.writeChecked b) = f e)
    (h : d.click behaviour r = .ok (b, d')) (s : NodeRef) :
    (d'.tree.element? s).map f = (d.tree.element? s).map f := by
  refine chain_click (R := fun d d' => ∀ s, (d'.tree.element? s).map f = (d.tree.element? s).map f)
    (fun _ _ => rfl) (fun h h' s => (h' s).trans (h s)) ?_ ?_ h s
  · intro d d' r b h s
    obtain ⟨t, ht, rfl⟩ := setChecked_eq_ok.mp h
    rw [Option.map_eq_bind, Option.map_eq_bind]
    exact Tree.element?_bind_setChecked ht (f := some ∘ f)
      (fun e b => congrArg some (hwrite e b)) s
  · intro d d' event b h s
    exact (sameContent_dispatch h).element_map_eq hlisteners

end Readings

/-- Who is answered yes holds the focus. -/
theorem FocusGiven.holdsFocus (h : d.FocusGiven r true d') : d'.HoldsFocus r := by
  cases h with
  | kept hr hf => exact ⟨hf, (isFocusable_iff.mp hr).1⟩
  | moved hr hf hsame =>
    refine ⟨hsame.focused, ?_⟩
    rw [isConnected, hsame.sameFrame.isConnected_eq]
    exact (isFocusable_iff.mp hr).1

/-- **The answer is right just if** the element, where it holds the focus already, can still get
it. -/
theorem FocusGiven.answer_iff (h : d.FocusGiven r b d') :
    (b = true ↔ d'.HoldsFocus r) ↔ (d.HoldsFocus r → d.isFocusable r = true) := by
  cases b with
  | true =>
    have hfocusable : d.isFocusable r = true := by
      cases h with
      | kept hr hf => exact hr
      | moved hr hf hsame => exact hr
    exact iff_of_true (iff_of_true rfl h.holdsFocus) fun _ => hfocusable
  | false =>
    cases h with
    | refused hr => simp [hr]

end Document

/-! ## Histories -/

/-- A call on the document of a page: one that creates, moves or removes nodes, an interaction, or a
change of attributes. -/
inductive DocumentCall where
  | structural (call : StructuralCall)
  | focus (call : FocusCall)

/-- What a call does. -/
def DocumentCall.perform (p : Page) : DocumentCall → Page
  | structural call => stateAfter call.verb p
  | focus call => { p with document := call.perform p.document }

/-- The page after a history of calls. -/
def Page.afterDocumentCalls (p : Page) (calls : List DocumentCall) : Page :=
  calls.foldl DocumentCall.perform p

/-- The call writes none of the attributes that decide whether an element can get the focus. -/
def DocumentCall.SparesFocus : DocumentCall → Prop
  | focus (.change c) => ∀ name ∈ ["disabled", "tabindex", "href", "type"],
      Text.equalsIgnoringCase c.name name = false
  | _ => True

namespace Document

variable {behaviour : Behaviour} {d d' : Document} {r : NodeRef} {b : Bool}

/-- The element with the focus could still get it, as far as its attributes go. -/
def HolderAccepts (d : Document) : Prop :=
  ∀ x, d.focused = some x → ∃ e, d.tree.element? (some x) = some e ∧ e.acceptsFocus = true

/-- Then an element that holds the focus is focusable. -/
theorem HolderAccepts.isFocusable (h : d.HolderAccepts) (hr : d.HoldsFocus r) :
    d.isFocusable r = true := by
  obtain ⟨hf, hconnected⟩ := hr
  cases r with
  | none => cases hconnected
  | some x => exact isFocusable_iff.mpr ⟨hconnected, h x hf⟩

/-- The focus stays, and so does what elements need to get it. -/
structure SameAcceptance (d d' : Document) : Prop where
  focused : d'.focused = d.focused
  accepts : ∀ r, (d'.tree.element? r).map Element.acceptsFocus =
    (d.tree.element? r).map Element.acceptsFocus

theorem SameAcceptance.holderAccepts (h : d.SameAcceptance d') (hd : d.HolderAccepts) :
    d'.HolderAccepts := by
  intro x hx
  obtain ⟨e, he, haccepts⟩ := hd x (h.focused ▸ hx)
  have hread := h.accepts (some x)
  rw [he, Option.map_some, haccepts] at hread
  exact Option.map_eq_some_iff.mp hread

theorem SameContent.sameAcceptance (h : d.SameContent d') : d.SameAcceptance d' :=
  ⟨h.focused, fun _ => h.element_map_eq fun _ => rfl⟩

theorem sameAcceptance_click (h : d.click behaviour r = .ok (b, d')) : d.SameAcceptance d' :=
  ⟨(samePlaces_click h).2, element?_map_click (fun _ => rfl) (fun _ _ => rfl) h⟩

theorem HolderAccepts.focus (hd : d.HolderAccepts) (h : d.focus behaviour r = .ok (b, d')) :
    d'.HolderAccepts := by
  cases focusGiven_of_focus h with
  | refused hr => exact hd
  | kept hr hf => exact hd
  | moved hr hf hsame =>
    -- the new holder was found to be focusable
    refine hsame.sameAcceptance.holderAccepts fun x hx => ?_
    obtain rfl : r = some x := hx
    exact (isFocusable_iff.mp hr).2

theorem HolderAccepts.blur (hd : d.HolderAccepts) (h : d.blur behaviour r = .ok d') :
    d'.HolderAccepts := by
  unfold Document.blur blurBy at h
  rw [bind_eq_ok] at h
  obtain ⟨_, -, h⟩ := h
  split at h
  next => exact (sameContent_announceBy h).sameAcceptance.holderAccepts nofun
  next =>
    obtain rfl := Except.ok.inj h
    exact hd

theorem HolderAccepts.orElse {α : Type} {result : Except DomError (α × Document)}
    (hd : d.HolderAccepts) (h : ∀ a d', result = .ok (a, d') → d'.HolderAccepts) :
    (d.orElse result).HolderAccepts := by
  unfold Document.orElse
  split
  next a d' => exact h a d' rfl
  next => exact hd

end Document

/-- An interaction or a change of attributes that spares the four names. -/
theorem FocusCall.holderAccepts {d : Document} (hd : d.HolderAccepts) (call : FocusCall)
    (hspares : (DocumentCall.focus call).SparesFocus) : (call.perform d).HolderAccepts := by
  cases call with
  | interact behaviour i =>
    cases i with
    | dispatch event =>
      refine hd.orElse fun b d' h => ?_
      exact (Document.sameContent_dispatch h).sameAcceptance.holderAccepts hd
    | click node =>
      refine hd.orElse fun b d' h => ?_
      exact (Document.sameAcceptance_click h).holderAccepts hd
    | focus node => exact hd.orElse fun b d' h => hd.focus h
    | blur node =>
      refine hd.orElse fun _ d' h => ?_
      rw [bind_eq_ok] at h
      obtain ⟨d₁, h₁, h⟩ := h
      cases h
      exact hd.blur h₁
  | change c =>
    refine hd.orElse fun _ d' h => ?_
    rw [bind_eq_ok] at h
    obtain ⟨t, ht, h⟩ := h
    cases h
    have hsame := (c.edited ht).sameBut
    have hacceptance : d.SameAcceptance { d with tree := t } := by
      refine ⟨rfl, hsame.element?_map_eq fun e e' he => ?_⟩
      rw [Element.acceptsFocus, Element.acceptsFocus, he.isDisabled_eq (hspares _ (by simp)),
        he.takesFocus_eq (hspares _ (by simp)) (hspares _ (by simp)) (hspares _ (by simp))]
    exact hacceptance.holderAccepts hd

/-- A structural call leaves the focus where it is, and every element as it is. -/
theorem StructuralCall.holderAccepts {p : Page} (hp : p.document.HolderAccepts)
    (call : StructuralCall) : (stateAfter call.verb p).document.HolderAccepts := by
  intro x hx
  have hkeeps : ∀ e, p.document.tree.element? (some x) = some e →
      p.HasTree (fun t => t.element? (some x) = some e) (stateAfter call.verb p) := fun e he =>
    call.keeps (Tree.readsElements_holdsElement x e).keptByOperations p (Page.hasTree_self he)
  have hfocused : (stateAfter call.verb p).document.focused = p.document.focused := by
    obtain ⟨t, -, ht⟩ := call.keeps (J := fun _ => True) ⟨fun _ _ => trivial, fun _ _ => trivial,
      fun _ _ => trivial, fun _ _ => trivial, fun _ _ => trivial⟩ p (Page.hasTree_self trivial)
    rw [ht]
    rfl
  obtain ⟨e, he, haccepts⟩ := hp x (hfocused ▸ hx)
  exact ⟨e, (hkeeps e he).tree, haccepts⟩

/-- **A call that spares the four names** leaves an element with the focus able to get it. -/
theorem DocumentCall.holderAccepts {p : Page} (hp : p.document.HolderAccepts)
    (call : DocumentCall) (hspares : call.SparesFocus) :
    (call.perform p).document.HolderAccepts := by
  cases call with
  | structural call => exact call.holderAccepts hp
  | focus call => exact call.holderAccepts hp hspares

/-- **So does every history of such calls.** -/
theorem holderAccepts_afterDocumentCalls {p : Page} (hp : p.document.HolderAccepts)
    {calls : List DocumentCall} (hspare : ∀ call ∈ calls, call.SparesFocus) :
    (p.afterDocumentCalls calls).document.HolderAccepts := by
  induction calls generalizing p with
  | nil => exact hp
  | cons call calls ih =>
    obtain ⟨hcall, hspare⟩ := List.forall_mem_cons.mp hspare
    exact ih (call.holderAccepts hp hcall) hspare

/-- **What giving the focus answers**, after every history of structural calls, interactions and
changes of attributes:
* an element that is answered yes has the focus and is in the tree, so it is the active element;
* the answer tells whether the element has the focus afterwards, just if it is not that the element
  had the focus before, in the tree, and could not have got it any more;
* this never comes about from a document where nobody has the focus, if no change of attributes is
  about `disabled`, `tabindex`, `href` or `type`. -/
theorem focus_answer {p : Page} {calls : List DocumentCall} {behaviour : Behaviour} {r : NodeRef}
    {b : Bool} {d' : Document}
    (h : (p.afterDocumentCalls calls).document.focus behaviour r = .ok (b, d')) :
    (b = true → d'.HoldsFocus r ∧ d'.activeElement = r) ∧
    ((b = true ↔ d'.HoldsFocus r) ↔
      ((p.afterDocumentCalls calls).document.HoldsFocus r →
        (p.afterDocumentCalls calls).document.isFocusable r = true)) ∧
    (p.document.focused = none → (∀ call ∈ calls, call.SparesFocus) →
      (b = true ↔ d'.HoldsFocus r)) := by
  have hgiven := Document.focusGiven_of_focus h
  refine ⟨?_, hgiven.answer_iff, ?_⟩
  · rintro rfl
    exact ⟨hgiven.holdsFocus, Document.activeElement_of_holdsFocus hgiven.holdsFocus⟩
  · intro hnone hspare
    have hbegin : p.document.HolderAccepts := by
      intro x hx
      rw [hnone] at hx
      cases hx
    exact hgiven.answer_iff.mpr (holderAccepts_afterDocumentCalls hbegin hspare).isFocusable

/-- An input below the body gets the focus and is disabled then. It keeps the focus, and when it is
given the focus again the answer is no. -/
theorem focus_answer_disabledInput :
    let p : Page := { document := .skeleton "about:blank" }
    let calls : List DocumentCall :=
      [.structural (.createElement "input"), .structural (.appendChild (some 3) (some 4)),
        .focus (.interact (fun _ _ => []) (.focus (some 4))),
        .focus (.change (.set (some 4) "disabled" ""))]
    let d := (p.afterDocumentCalls calls).document
    d.focus (fun _ _ => []) (some 4) = .ok (false, d) ∧ d.HoldsFocus (some 4) ∧
      ¬ (false = true ↔ d.HoldsFocus (some 4)) := by
  intro p calls d
  have hanswer : (p.afterDocumentCalls calls).document.focus (fun _ _ => []) (some 4) =
      .ok (false, d) := by
    decide +kernel
  have hholds : d.HoldsFocus (some 4) := ⟨by decide +kernel, by decide +kernel⟩
  have hrefused : d.isFocusable (some 4) = false := by decide +kernel
  obtain ⟨-, hright, -⟩ := focus_answer hanswer
  refine ⟨hanswer, hholds, fun hiff => ?_⟩
  have hfocusable := hright.mp hiff hholds
  rw [hrefused] at hfocusable
  cases hfocusable

end WebPage
