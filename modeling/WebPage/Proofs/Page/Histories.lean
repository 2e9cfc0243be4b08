import WebPage.Proofs.Document.FocusAnswers
import WebPage.Proofs.Page.AttributeVerbs

/-!
# Pages and their histories

A page begins empty, with an empty page in it, or as it is read from markup. From there on it goes
through calls on its document and through verbs. Whatever the calls are and whether they succeed or
fail, the attributes of all elements stay sound: their names are kept in small letters, and none is
there twice.

## Main definitions

* `Page.IsFresh`: a page at its beginning
* `PageCall`, `Page.afterPageCalls`: histories of calls of every kind

## Main results

* `keeps_act`, `keeps_edit`: verbs that change a document
* `FocusCall.soundAttributes`, `FirstVerb.keeps_soundAttributes`, `AllVerb.keeps_soundAttributes`:
  what single calls keep
* `soundAttributes_afterPageCalls`: every history keeps attributes sound
-/

namespace WebPage

open WebPage.Tree

/-- The attributes of all elements of a page are sound. -/
def Page.HasSoundAttributes (p : Page) : Prop :=
  p.document.tree.SoundAttributes

/-! ## Changes of a document -/

section Documents

variable {α : Type} {J : Tree → Prop}

theorem keeps_act {f : Document → Except DomError (α × Document)}
    (hf : ∀ d a d', f d = .ok (a, d') → J d.tree → J d'.tree) :
    Keeps (fun p => J p.document.tree) (Verb.act f) := by
  intro p hp
  rw [stateAfter_act]
  split
  next a d' h => exact hf _ _ _ h hp
  next => exact hp

theorem keeps_edit {f : Document → Except DomError Document}
    (hf : ∀ d d', f d = .ok d' → J d.tree → J d'.tree) :
    Keeps (fun p => J p.document.tree) (Verb.edit f) := by
  refine keeps_act fun d _ d' h hd => ?_
  obtain ⟨d₁, h₁, h⟩ := bind_eq_ok.mp h
  cases h
  exact hf d _ h₁ hd

end Documents

namespace Document

variable {behaviour : Behaviour} {d d' : Document} {r : NodeRef} {b : Bool}

/-- What listeners do to an event leaves all attributes alone. -/
theorem soundAttributes_dispatch {event : Event} (h : d.dispatch behaviour event = .ok (b, d'))
    (hd : d.tree.SoundAttributes) : d'.tree.SoundAttributes :=
  hd.of_map_eq fun _ => (sameContent_dispatch h).element_map_eq fun _ => rfl

theorem soundAttributes_click (h : d.click behaviour r = .ok (b, d'))
    (hd : d.tree.SoundAttributes) : d'.tree.SoundAttributes :=
  hd.of_map_eq (element?_map_click (fun _ => rfl) (fun _ _ => rfl) h)

theorem soundAttributes_focus (h : d.focus behaviour r = .ok (b, d'))
    (hd : d.tree.SoundAttributes) : d'.tree.SoundAttributes :=
  hd.of_map_eq (element?_map_focus (fun _ => rfl) h)

theorem soundAttributes_blur (h : d.blur behaviour r = .ok d') (hd : d.tree.SoundAttributes) :
    d'.tree.SoundAttributes :=
  hd.of_map_eq (element?_map_blur (fun _ => rfl) h)

theorem soundAttributes_orElse {α : Type} {result : Except DomError (α × Document)}
    (hd : d.tree.SoundAttributes)
    (h : ∀ a d', result = .ok (a, d') → d'.tree.SoundAttributes) :
    (d.orElse result).tree.SoundAttributes := by
  unfold orElse
  split
  next a d' => exact h a d' rfl
  next => exact hd

end Document

/-- An interaction, or a change of attributes. -/
theorem FocusCall.soundAttributes {d : Document} (hd : d.tree.SoundAttributes)
    (call : FocusCall) : (call.perform d).tree.SoundAttributes := by
  cases call with
  | interact behaviour i =>
    cases i with
    | dispatch event =>
      exact Document.soundAttributes_orElse hd fun b d' h => Document.soundAttributes_dispatch h hd
    | click node =>
      exact Document.soundAttributes_orElse hd fun b d' h => Document.soundAttributes_click h hd
    | focus node =>
      exact Document.soundAttributes_orElse hd fun b d' h => Document.soundAttributes_focus h hd
    | blur node =>
      refine Document.soundAttributes_orElse hd fun _ d' h => ?_
      obtain ⟨d₁, h₁, h⟩ := bind_eq_ok.mp h
      cases h
      exact Document.soundAttributes_blur h₁ hd
  | change c =>
    refine Document.soundAttributes_orElse hd fun _ d' h => ?_
    obtain ⟨t, ht, h⟩ := bind_eq_ok.mp h
    cases h
    exact (c.edited ht).soundAttributes hd

theorem StructuralCall.keeps_soundAttributes (call : StructuralCall) :
    Keeps Page.HasSoundAttributes call.verb :=
  .of_hasTree fun _ => call.keeps readsElements_soundAttributes.keptByOperations

/-! ## Verbs -/

section Verbs

variable {t t' : Tree} {r : NodeRef}

theorem soundAttributes_setChecked {b : Bool} (h : t.setChecked r b = .ok t')
    (ht : t.SoundAttributes) : t'.SoundAttributes := by
  refine ht.of_map_eq fun s => ?_
  rw [Option.map_eq_bind, Option.map_eq_bind]
  exact element?_bind_setChecked h (fun _ _ => rfl) s

/-- The options of a select control are written one after the other. -/
theorem soundAttributes_selectValue {value : String} {ids : List NodeId} {found : Bool}
    (h : selectValue value ids found t = .ok t') (ht : t.SoundAttributes) :
    t'.SoundAttributes := by
  induction ids generalizing t found with
  | nil =>
    cases h
    exact ht
  | cons id ids ih =>
    rw [selectValue] at h
    obtain ⟨selected, -, h⟩ := bind_eq_ok.mp h
    obtain ⟨t₁, h₁, h⟩ := bind_eq_ok.mp h
    exact ih h (ht.modifyElement_of_eq h₁ fun _ => rfl)

theorem soundAttributes_setValue {value : String} (h : t.setValue r value = .ok t')
    (ht : t.SoundAttributes) : t'.SoundAttributes := by
  unfold setValue at h
  obtain ⟨e, -, h⟩ := bind_eq_ok.mp h
  split at h
  · exact ht.modifyElement (fun e he => e.sound_setAttribute he _ _) h
  · split at h
    · exact soundAttributes_selectValue h ht
    · exact ht.modifyElement_of_eq h fun _ => rfl

theorem keeps_change (target : Target) (change : NodeRef → AttributeChange) :
    Keeps Page.HasSoundAttributes (Page.editTreeAll target fun t r => (change r).apply t) :=
  keeps_forAll fun _ => keeps_editTree fun _ _ ht h => ((change _).edited ht).soundAttributes h

/-- A change of what is registered with an element, at each node of a target. -/
theorem keeps_editAll_modifyElement (target : Target) {f : Element → Element}
    (hf : ∀ e, (f e).attributes = e.attributes) :
    Keeps Page.HasSoundAttributes
      (Page.editAll target fun d r => return { d with tree := ← d.tree.modifyElement r f }) := by
  refine keeps_forAll fun id => keeps_edit fun d d' h hd => ?_
  obtain ⟨t, ht, h⟩ := bind_eq_ok.mp h
  cases h
  exact hd.modifyElement_of_eq ht hf

theorem keeps_setHidden (target : Target) (hidden : Option Bool) :
    Keeps Page.HasSoundAttributes (Page.setHidden target hidden) :=
  Keeps.get_bind fun p => keeps_change target (.toggle · p.config.hiddenAttribute hidden)

theorem keeps_showIf (target : Target) (condition : Bool) (placeholder : Option Target) :
    Keeps Page.HasSoundAttributes (Page.showIf target condition placeholder) := by
  refine (keeps_setHidden target _).bind fun _ => ?_
  cases placeholder with
  | none => exact Keeps.pure _
  | some other => exact keeps_setHidden other _

/-- **A verb for one node** keeps all attributes sound. -/
theorem FirstVerb.keeps_soundAttributes (verb : FirstVerb) (target : Target) :
    Keeps Page.HasSoundAttributes (verb.run target) := by
  have hreading : ∀ {α : Type} (f : Page → Except VerbError α),
      Keeps Page.HasSoundAttributes (Verb.reading f) := fun f =>
    Keeps.get_bind fun p => (Keeps.ofResult _).bind fun _ => Keeps.pure _
  have hact : ∀ {α : Type} (f : Document → NodeRef → Except DomError (α × Document)),
      (∀ r d a d', f d r = .ok (a, d') → d.tree.SoundAttributes → d'.tree.SoundAttributes) →
      Keeps Page.HasSoundAttributes (Page.actOnFirst target f).void := fun f hf =>
    Keeps.void (Keeps.get_bind fun p => (Keeps.ofResult _).bind fun id => keeps_act (hf (some id)))
  unfold run
  cases verb with
  | append node => exact StructuralCall.keeps_soundAttributes (.append target node)
  | focus behaviour =>
    exact hact _ fun r d b d' h hd => Document.soundAttributes_focus h hd
  | blur behaviour =>
    refine hact _ fun r d _ d' h hd => ?_
    obtain ⟨d₁, h₁, h⟩ := bind_eq_ok.mp h
    cases h
    exact Document.soundAttributes_blur h₁ hd
  | click behaviour =>
    exact hact _ fun r d b d' h hd => Document.soundAttributes_click h hd
  | _ => exact hreading _

/-- **A verb for all nodes** keeps all attributes sound. -/
theorem AllVerb.keeps_soundAttributes (verb : AllVerb) (target : Target) :
    Keeps Page.HasSoundAttributes (verb.run target) := by
  unfold run
  cases verb with
  | setAttribute name value => exact keeps_change target (.set · name (value.getD ""))
  | removeAttribute name => exact keeps_change target (.remove · name)
  | toggleAttribute name force => exact keeps_change target (.toggle · name force)
  | addClass names => exact keeps_change target (.addClasses · (Text.words names))
  | removeClass names => exact keeps_change target (.removeClasses · (Text.words names))
  | toggleClass names force =>
    refine keeps_forAll fun id => Keeps.forM fun name _ => keeps_editTree fun t t' ht h => ?_
    exact (AttributeChange.edited (.toggleClass (some id) name force) ht).soundAttributes h
  | setClassName value => exact keeps_change target (.set · "class" value)
  | setStyle reader name value => exact keeps_change target (.setStyle reader · name value false)
  | setStyleProperty reader name value important =>
    exact keeps_change target (.setStyle reader · name value important)
  | removeStyleProperty reader name => exact keeps_change target (.removeStyle reader · name)
  | setValue value =>
    exact keeps_forAll fun id => keeps_editTree fun t t' ht h => soundAttributes_setValue ht h
  | setChecked checked =>
    exact keeps_forAll fun id => keeps_editTree fun t t' ht h => soundAttributes_setChecked ht h
  | toggleChecked =>
    refine keeps_forAll fun id => keeps_editTree fun t t' ht h => ?_
    obtain ⟨checked, -, ht⟩ := bind_eq_ok.mp ht
    exact soundAttributes_setChecked ht h
  | setText text => exact StructuralCall.keeps_soundAttributes (.setText target text)
  | setHtml parser markup =>
    exact StructuralCall.keeps_soundAttributes (.setHtml parser target markup)
  | «show» => exact keeps_setHidden target (some false)
  | hide => exact keeps_setHidden target (some true)
  | toggle => exact keeps_setHidden target none
  | showIf condition => exact keeps_showIf target condition none
  | hideIf condition => exact keeps_showIf target (!condition) none
  | addListener | removeListener | setListener | clearListener =>
    exact keeps_editAll_modifyElement target fun _ => rfl
  | trigger behaviour type =>
    refine keeps_forAll fun id => keeps_edit fun d d' h hd => ?_
    obtain ⟨⟨b, d₁⟩, h₁, h⟩ := bind_eq_ok.mp h
    cases h
    exact Document.soundAttributes_dispatch h₁ hd
  | removeChildren => exact StructuralCall.keeps_soundAttributes (.removeAllChildren target)
  | removeElements => exact StructuralCall.keeps_soundAttributes (.removeElements target)

end Verbs

/-! ## Histories -/

/-- A page at its beginning: with nothing in it, with a skeleton only, or as a parser reads it from
markup. -/
inductive Page.IsFresh (p : Page) : Prop
  | blank (url : String) (h : p.document = .blank url)
  | skeleton (url : String) (h : p.document = .skeleton url)
  | ofMarkup (parser : Markup.Parser) (options : MarkupOptions) (url markup : String)
      (h : p.document = .ofMarkupWith parser options url markup)

/-- A call on a page: on its document, or a verb with its target. -/
inductive PageCall where
  | document (call : DocumentCall)
  | first (verb : FirstVerb) (target : Target)
  | all (verb : AllVerb) (target : Target)
  | showIf (target : Target) (condition : Bool) (placeholder : Option Target)
  | hideIf (target : Target) (condition : Bool) (placeholder : Option Target)

/-- The page after a call, whether it succeeded or failed. -/
def PageCall.perform (p : Page) : PageCall → Page
  | document call => call.perform p
  | first verb target => stateAfter (verb.run target) p
  | all verb target => stateAfter (verb.run target) p
  | showIf target condition placeholder => stateAfter (Page.showIf target condition placeholder) p
  | hideIf target condition placeholder => stateAfter (Page.hideIf target condition placeholder) p

/-- The page after a history of calls. -/
def Page.afterPageCalls (p : Page) (calls : List PageCall) : Page :=
  calls.foldl PageCall.perform p

theorem Page.IsFresh.soundAttributes {p : Page} (h : p.IsFresh) : p.HasSoundAttributes := by
  unfold HasSoundAttributes
  cases h with
  | blank url h => exact h ▸ soundAttributes_empty
  | skeleton url h => exact h ▸ soundAttributes_skeletonTree
  | ofMarkup parser options url markup h =>
    exact h ▸ soundAttributes_ofMarkupWith parser options markup

/-- **One call keeps all attributes sound**, whether it succeeds or fails. -/
theorem PageCall.soundAttributes {p : Page} (hp : p.HasSoundAttributes) (call : PageCall) :
    (call.perform p).HasSoundAttributes := by
  cases call with
  | document call =>
    cases call with
    | structural call => exact call.keeps_soundAttributes p hp
    | focus call => exact call.soundAttributes hp
  | first verb target => exact verb.keeps_soundAttributes target p hp
  | all verb target => exact verb.keeps_soundAttributes target p hp
  | showIf target condition placeholder => exact keeps_showIf target condition placeholder p hp
  | hideIf target condition placeholder => exact keeps_showIf target (!condition) placeholder p hp

/-- **Every history leaves sound attributes.** So what holds of pages with sound attributes holds of
every page that there can be. -/
theorem soundAttributes_afterPageCalls {p : Page} (hp : p.IsFresh) (calls : List PageCall) :
    (p.afterPageCalls calls).document.tree.SoundAttributes := by
  have hall : ∀ (calls : List PageCall) (p : Page), p.HasSoundAttributes →
      (p.afterPageCalls calls).HasSoundAttributes := by
    intro calls
    induction calls with
    | nil => exact fun _ hp => hp
    | cons call calls ih => exact fun p hp => ih _ (call.soundAttributes hp)
  exact hall calls p hp.soundAttributes

end WebPage
