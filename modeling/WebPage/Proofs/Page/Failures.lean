import WebPage.Proofs.Page.Resolution
import WebPage.Proofs.Page.Structure
import WebPage.Verb.Element

/-!
# How verbs fail

Every verb resolves its target before it does anything else. A verb for one node needs a node: where
the target has none, it fails and says so. A verb for all nodes has nothing to do there, and
succeeds. A text that is no selector makes every verb fail. In all three cases nothing has happened
to the page, and no argument of the verb has been looked at.

That a target has no node is never reported by the part of a verb that acts on the nodes, for that
part can only fail as the document fails.

## Main definitions

* `Page.FindsNothing`: the target of a verb has no node
* `FirstVerb`, `AllVerb`: the verbs for one node, and those for all nodes
* `FailsByDocument`: a verb that fails only as the document fails
* `FirstContract`, `AllContract`: how verbs of the two kinds fail

## Main results

* `Page.findsNothing_iff`: a target has no node just if no first one is found
* `firstContract_of_required`, `allContract_forAll`: the two patterns that verbs are written in
* `FirstVerb.contract`, `AllVerb.contract`: each verb
* `failure_contract`: all verbs on all targets
-/

namespace WebPage

/-! ## Targets without nodes -/

/-- A text that is no selector. -/
def NoSelector (s : String) : Prop :=
  ∀ list, Selector.SelectorList.parse s ≠ .ok list

/-- The target has no node: its text is a selector that describes none of the nodes in the document,
or all its references are to no node. -/
def Page.FindsNothing (p : Page) : Target → Prop
  | .selector s => ∃ list, Selector.SelectorList.parse s = .ok list ∧
      ∀ n ∈ p.document.nodes, list.matches p.document.tree n = false
  | .node r => r = none
  | .nodes rs => ∀ r ∈ rs, r = none

namespace Page

variable {p : Page} {target : Target} {s : String}

/-- **A target has no node just if no first one is found.** -/
theorem findsNothing_iff : p.FindsNothing target ↔ p.resolve target = .ok none := by
  cases target with
  | selector s =>
    show (∃ list, Selector.SelectorList.parse s = .ok list ∧ _) ↔
      (Selector.SelectorList.parse s >>= fun list =>
        .ok (p.document.nodes.find? (list.matches p.document.tree))) = .ok none
    rw [bind_eq_ok]
    refine exists_congr fun list => and_congr_right fun _ => ?_
    simp [List.find?_eq_none]
  | node r => simp [FindsNothing, resolve, pure, Except.pure]
  | nodes rs => simp [FindsNothing, resolve, pure, Except.pure, List.findSome?_eq_none_iff]

theorem resolveAll_of_findsNothing (h : p.FindsNothing target) : p.resolveAll target = .ok [] := by
  cases target with
  | selector s =>
    obtain ⟨list, hs, hnone⟩ := h
    refine bind_eq_ok.mpr ⟨list, hs, congrArg Except.ok ?_⟩
    simpa [List.filter_eq_nil_iff] using hnone
  | node r =>
    obtain rfl : r = none := h
    rfl
  | nodes rs =>
    have hnone : ∀ r ∈ rs, id r = none := h
    exact congrArg Except.ok (List.filterMap_eq_nil_iff.mpr hnone)

/-- The required node of a target is missing just if the target has no node. -/
theorem resolveRequired_eq_resolution_iff {t : Target} :
    p.resolveRequired target = .error (.resolution t) ↔ p.FindsNothing target ∧ t = target := by
  rw [findsNothing_iff]
  cases hr : p.resolve target with
  | error e =>
    have hrun : p.resolveRequired target = .error (.dom e) := by
      rw [resolveRequired, hr]
      rfl
    simp [hrun]
  | ok r =>
    have hrun : p.resolveRequired target = r.elim (.error (.resolution target)) .ok := by
      rw [resolveRequired, hr]
      cases r <;> rfl
    rw [hrun]
    cases r <;> simp [eq_comm]

theorem rejects_of_noSelector (h : NoSelector s) : p.Rejects s := by
  cases hs : Selector.SelectorList.parse s with
  | error e => exact rejects_of hs
  | ok list => exact absurd hs (h list)

end Page

/-! ## The verbs -/

/-- A verb that takes the first node of its target, without the target. One that reads a style brings
its reader. -/
inductive FirstVerb where
  | getAttribute (name : String)
  | hasAttribute (name : String)
  | hasClass (name : String)
  | getClassName
  | getStyle (reader : Style.Reader) (name : String)
  | getValue
  | getChecked
  | getText
  | getHtml
  | isVisible
  | append (node : NodeRef)
  | focus (behaviour : Behaviour)
  | blur (behaviour : Behaviour)
  | click (behaviour : Behaviour)

/-- A verb that takes all nodes of its target, without the target. One that reads a style or markup
brings its reader or parser. -/
inductive AllVerb where
  | setAttribute (name : String) (value : Option String)
  | removeAttribute (name : String)
  | toggleAttribute (name : String) (force : Option Bool)
  | addClass (names : String)
  | removeClass (names : String)
  | toggleClass (names : String) (force : Option Bool)
  | setClassName (value : String)
  | setStyle (reader : Style.Reader) (name value : String)
  | setStyleProperty (reader : Style.Reader) (name value : String) (important : Bool)
  | removeStyleProperty (reader : Style.Reader) (name : String)
  | setValue (value : String)
  | setChecked (checked : Bool)
  | toggleChecked
  | setText (text : String)
  | setHtml (parser : Markup.Parser) (markup : String)
  | show
  | hide
  | toggle
  | showIf (condition : Bool)
  | hideIf (condition : Bool)
  | addListener (type : String) (listener : Listener) (options : ListenerOptions)
  | removeListener (type : String) (listener : Listener) (options : ListenerOptions)
  | setListener (type : String) (listener : Listener)
  | clearListener (type : String)
  | trigger (behaviour : Behaviour) (type : String)
  | removeChildren
  | removeElements

/-- A reading of the page as a verb, without what it reads. -/
def Verb.reading {α : Type} (f : Page → Except VerbError α) : Verb Unit := do
  let _ ← Verb.ofResult (f (← get))

/-- What a verb does, its value apart. -/
def FirstVerb.run (target : Target) : FirstVerb → Verb Unit
  | getAttribute name => .reading fun p => p.getAttribute target name
  | hasAttribute name => .reading fun p => p.hasAttribute target name
  | hasClass name => .reading fun p => p.hasClass target name
  | getClassName => .reading fun p => p.getClassName target
  | getStyle reader name => .reading fun p => Page.getStyleWith reader p target name
  | getValue => .reading fun p => p.getValue target
  | getChecked => .reading fun p => p.getChecked target
  | getText => .reading fun p => p.getText target
  | getHtml => .reading fun p => p.getHtml target
  | isVisible => .reading fun p => p.isVisible target
  | append node => Page.append target node
  | focus behaviour => (Page.focus behaviour target).void
  | blur behaviour => (Page.blur behaviour target).void
  | click behaviour => (Page.click behaviour target).void

/-- What a verb does, its value apart. -/
def AllVerb.run (target : Target) : AllVerb → Verb Unit
  | setAttribute name value => Page.setAttribute target name value
  | removeAttribute name => Page.removeAttribute target name
  | toggleAttribute name force => Page.toggleAttribute target name force
  | addClass names => Page.addClass target names
  | removeClass names => Page.removeClass target names
  | toggleClass names force => Page.toggleClass target names force
  | setClassName value => Page.setClassName target value
  | setStyle reader name value => Page.setStyleWith reader target name value
  | setStyleProperty reader name value important =>
    Page.setStylePropertyWith reader target name value important
  | removeStyleProperty reader name => Page.removeStylePropertyWith reader target name
  | setValue value => Page.setValue target value
  | setChecked checked => Page.setChecked target checked
  | toggleChecked => Page.toggleChecked target
  | setText text => Page.setText target text
  | setHtml parser markup => Page.setHtmlWith parser target markup
  | «show» => Page.show target
  | hide => Page.hide target
  | toggle => Page.toggle target
  | showIf condition => Page.showIf target condition none
  | hideIf condition => Page.hideIf target condition none
  | addListener type listener options => Page.addListener target type listener options
  | removeListener type listener options => Page.removeListener target type listener options
  | setListener type listener => Page.setListener target type listener
  | clearListener type => Page.clearListener target type
  | trigger behaviour type => Page.trigger behaviour target type
  | removeChildren => Page.removeChildren target
  | removeElements => (Page.removeElements target).void

/-! ## Verbs that fail as the document fails -/

theorem Verb.ofResult_bind {α β : Type} (x : Except VerbError α) (f : α → Except VerbError β) :
    Verb.ofResult (x >>= f) = Verb.ofResult x >>= fun a => Verb.ofResult (f a) := by
  cases x <;> rfl

/-- A verb fails only as the document fails. -/
def FailsByDocument {α : Type} (v : Verb α) : Prop :=
  ∀ p e p', v p = .error e p' → ∃ error, e = .dom error

namespace FailsByDocument

variable {α β : Type} {v : Verb α} {f : α → Verb β}

theorem pure (a : α) : FailsByDocument (Pure.pure a : Verb α) := by
  intro p e p' h
  cases h

theorem bind (hv : FailsByDocument v) (hf : ∀ a, FailsByDocument (f a)) :
    FailsByDocument (v >>= f) := by
  intro p e p' h
  cases hr : v p with
  | ok a p₁ =>
    have hstep : (v >>= f) p = f a p₁ := by
      simp [Bind.bind, EStateM.bind, hr]
    exact hf a p₁ e p' (hstep ▸ h)
  | error e₁ p₁ =>
    have hstep : (v >>= f) p = .error e₁ p₁ := by
      simp [Bind.bind, EStateM.bind, hr]
    rw [hstep] at h
    cases h
    exact hv p e p' hr

theorem get_bind {f : Page → Verb β} (hf : ∀ p, FailsByDocument (f p)) :
    FailsByDocument ((get : Verb Page) >>= f) :=
  fun p => hf p p

/-- A result of the document fails as the document does. -/
theorem ofResult_lift (result : Except DomError α) :
    FailsByDocument (Verb.ofResult (Page.lift result)) := by
  intro p e p' h
  cases result with
  | ok a => cases h
  | error error =>
    cases h
    exact ⟨error, rfl⟩

theorem act (f : Document → Except DomError (α × Document)) : FailsByDocument (Verb.act f) := by
  refine get_bind fun p => (ofResult_lift (f p.document)).bind fun result => ?_
  intro p₁ e p' h
  cases h

theorem edit (f : Document → Except DomError Document) : FailsByDocument (Verb.edit f) := by
  unfold Verb.edit
  exact act _

theorem editTree (f : Tree → Except DomError Tree) : FailsByDocument (Verb.editTree f) := by
  unfold Verb.editTree
  exact edit _

theorem runEdit (f : Tree.Edit α) : FailsByDocument (Verb.runEdit f) := by
  refine get_bind fun p => ?_
  cases f p.document.tree with
  | ok a t =>
    intro p₁ e p' h
    cases h
  | error error t =>
    intro p₁ e p' h
    cases h
    exact ⟨error, rfl⟩

theorem forM {l : List α} {f : α → Verb PUnit} (hf : ∀ a, FailsByDocument (f a)) :
    FailsByDocument (l.forM f) := by
  induction l with
  | nil => exact pure _
  | cons a l ih =>
    rw [List.forM_eq_forM, List.forM_cons]
    exact (hf a).bind fun _ => ih

end FailsByDocument

/-! ## Verbs for one node -/

/-- How a verb for one node fails on a page. -/
structure FirstContract (p : Page) (target : Target) (v : Verb Unit) : Prop where
  /-- It says that there is no node just if there is none. -/
  resolution_iff : (∃ t p', v p = .error (.resolution t) p') ↔ p.FindsNothing target
  /-- Then it names the target, and the page is as it was. -/
  missing : p.FindsNothing target → v p = .error (.resolution target) p
  /-- A text that is no selector is refused, and the page is as it was. -/
  malformed : ∀ s, target = .selector s → NoSelector s →
    v p = .error (.dom (.invalidSelector s)) p

section First

variable {α : Type} {p : Page} {target : Target} {v : Verb Unit}

/-- **A verb that begins with the required node of its target** fails as agreed, if the rest of it
fails only as the document fails. -/
theorem firstContract_of_required {f : Page → NodeId → Verb Unit}
    (hv : v = get >>= fun p => Verb.ofResult (p.resolveRequired target) >>= f p)
    (hf : ∀ p n, FailsByDocument (f p n)) : FirstContract p target v := by
  have hrun : v p = (Verb.ofResult (p.resolveRequired target) >>= f p) p := by
    rw [hv, get_bind_apply]
  have hmissing : p.FindsNothing target → v p = .error (.resolution target) p := by
    intro hnone
    rw [hrun, Page.resolveRequired_eq_resolution_iff.mpr ⟨hnone, rfl⟩]
    rfl
  refine ⟨⟨?_, fun hnone => ⟨target, p, hmissing hnone⟩⟩, hmissing, ?_⟩
  · rintro ⟨t, p', herror⟩
    rw [hrun] at herror
    cases hr : p.resolveRequired target with
    | error e =>
      rw [hr] at herror
      obtain rfl : e = .resolution t := (EStateM.Result.error.inj herror).1
      exact (Page.resolveRequired_eq_resolution_iff.mp hr).1
    | ok n =>
      -- a node was found, and what follows does not fail in this way
      rw [hr] at herror
      obtain ⟨error, he⟩ := hf p n p _ p' herror
      cases he
  · rintro s rfl hs
    rw [hrun, (Page.rejects_of_noSelector hs).required]
    rfl

theorem firstContract_reading {f : Page → Tree → NodeRef → Except DomError α} :
    FirstContract p target (.reading fun p => p.readFirst target (f p)) := by
  refine firstContract_of_required (f := fun p n =>
    (Verb.ofResult (Page.lift (f p p.document.tree (some n)))).void) ?_ fun p n => ?_
  · simp only [Verb.reading, Verb.void, Page.readFirst, Verb.ofResult_bind, bind_assoc]
  · exact (FailsByDocument.ofResult_lift _).bind fun _ => .pure _

theorem firstContract_actOnFirst {f : Document → NodeRef → Except DomError (α × Document)} :
    FirstContract p target (Page.actOnFirst target f).void := by
  refine firstContract_of_required (f := fun _ n => (Verb.act fun d => f d (some n)).void) ?_
    fun p n => ?_
  · simp only [Verb.void, Page.actOnFirst, bind_assoc]
  · exact (FailsByDocument.act _).bind fun _ => .pure _

/-- **Every verb for one node** fails as agreed. -/
theorem FirstVerb.contract (verb : FirstVerb) (p : Page) (target : Target) :
    FirstContract p target (verb.run target) := by
  unfold run
  cases verb with
  | append node => exact firstContract_of_required rfl fun _ n => .editTree _
  | focus | blur | click => exact firstContract_actOnFirst
  | _ => exact firstContract_reading

end First

/-! ## Verbs for all nodes -/

/-- How a verb for all nodes fails on a page. -/
structure AllContract (p : Page) (target : Target) (v : Verb Unit) : Prop where
  /-- It never says that there is no node. -/
  byDocument : ∀ t p', v p ≠ .error (.resolution t) p'
  /-- If there is none, it succeeds, and the page is as it was. -/
  idle : p.FindsNothing target → v p = .ok () p
  /-- A text that is no selector is refused, and the page is as it was. -/
  malformed : ∀ s, target = .selector s → NoSelector s →
    v p = .error (.dom (.invalidSelector s)) p

section All

variable {p : Page} {target : Target} {v : Verb Unit}

/-- **A verb that begins with all nodes of its target** fails as agreed, if the rest of it does
nothing where there is no node, and fails only as the document fails. -/
theorem allContract_of_resolveAll {f : Page → List NodeId → Verb Unit}
    (hv : v = get >>= fun p => Verb.ofResult (Page.lift (p.resolveAll target)) >>= f p)
    (hnil : ∀ p, f p [] = pure ()) (hf : ∀ p ns, FailsByDocument (f p ns)) :
    AllContract p target v := by
  have hrun : v p = (Verb.ofResult (Page.lift (p.resolveAll target)) >>= f p) p := by
    rw [hv, get_bind_apply]
  refine ⟨fun t p' herror => ?_, fun hnone => ?_, ?_⟩
  · rw [hrun] at herror
    obtain ⟨error, he⟩ := (FailsByDocument.ofResult_lift _).bind (hf p) p _ p' herror
    cases he
  · rw [hrun, Page.resolveAll_of_findsNothing hnone]
    show f p [] p = _
    rw [hnil]
    rfl
  · rintro s rfl hs
    rw [hrun, (Page.rejects_of_noSelector hs).all]
    rfl

/-- A verb that runs on each node of its target does nothing where there is none. -/
theorem allContract_forAll {f : NodeId → Verb Unit} (hf : ∀ n, FailsByDocument (f n)) :
    AllContract p target (Page.forAll target f) :=
  allContract_of_resolveAll (f := fun _ ns => ns.forM f) rfl (fun _ => rfl) fun _ _ => .forM hf

theorem allContract_editAll {f : Document → NodeRef → Except DomError Document} :
    AllContract p target (Page.editAll target f) :=
  allContract_forAll fun _ => .edit _

theorem allContract_editTreeAll {f : Tree → NodeRef → Except DomError Tree} :
    AllContract p target (Page.editTreeAll target f) :=
  allContract_forAll fun _ => .editTree _

/-- A verb that looks at the page first fails as agreed if what it becomes then does. -/
theorem AllContract.get_bind {f : Page → Verb Unit} (h : AllContract p target (f p)) :
    AllContract p target (get >>= f) := by
  refine ⟨?_, ?_, ?_⟩
  all_goals rw [get_bind_apply]
  · exact h.byDocument
  · exact h.idle
  · exact h.malformed

theorem allContract_setHidden (hidden : Option Bool) :
    AllContract p target (Page.setHidden target hidden) :=
  .get_bind allContract_editTreeAll

/-- Without a placeholder, showing on a condition is setting the hidden mark. -/
theorem showIf_none (condition : Bool) :
    Page.showIf target condition none = Page.setHidden target (some !condition) := by
  unfold Page.showIf
  exact bind_pure_unit

theorem allContract_setHtmlWith (parser : Markup.Parser) (markup : String) :
    AllContract p target (Page.setHtmlWith parser target markup) := by
  refine .get_bind (allContract_forAll fun n => ?_)
  exact (FailsByDocument.editTree _).bind fun _ => (FailsByDocument.runEdit _).bind fun _ => .pure _

theorem allContract_removeElements :
    AllContract p target (Page.removeElements target).void := by
  unfold Page.removeElements Verb.void
  simp only [bind_assoc]
  refine allContract_of_resolveAll rfl (fun p => rfl) fun p ns => ?_
  refine FailsByDocument.bind ?_ fun _ => .pure _
  split
  · exact .pure _
  · refine .get_bind fun p => (FailsByDocument.ofResult_lift _).bind fun _ => ?_
    exact (FailsByDocument.act _).bind fun _ => (FailsByDocument.editTree _).bind fun _ => .pure _

/-- **Every verb for all nodes** fails as agreed. -/
theorem AllVerb.contract (verb : AllVerb) (p : Page) (target : Target) :
    AllContract p target (verb.run target) := by
  unfold run
  cases verb with
  | «show» | hide | toggle => exact allContract_setHidden _
  | showIf condition =>
    dsimp only
    rw [showIf_none]
    exact allContract_setHidden _
  | hideIf condition =>
    dsimp only
    rw [Page.hideIf, showIf_none]
    exact allContract_setHidden _
  | toggleClass names force => exact allContract_forAll fun n => .forM fun name => .editTree _
  | setHtml parser markup => exact allContract_setHtmlWith parser markup
  | setStyle reader name value =>
    dsimp only
    rw [Page.setStyleWith]
    exact allContract_editTreeAll
  | addListener | removeListener | setListener | clearListener | trigger =>
    exact allContract_editAll
  | removeElements => exact allContract_removeElements
  | _ => exact allContract_editTreeAll

end All

/-! ## All verbs -/

/-- **How verbs fail**, on every page and for every target, whatever their other arguments are:
* a verb for one node says that there is no node just if its target has none, and then names the
  target;
* a verb for all nodes never says so, and succeeds if its target has none;
* a text that is no selector makes every verb fail with that text.

In all these cases the page is as it was. -/
theorem failure_contract (p : Page) (target : Target) :
    (∀ verb : FirstVerb,
      ((∃ t p', verb.run target p = .error (.resolution t) p') ↔ p.FindsNothing target) ∧
      (p.FindsNothing target → verb.run target p = .error (.resolution target) p)) ∧
    (∀ verb : AllVerb,
      (∀ t p', verb.run target p ≠ .error (.resolution t) p') ∧
      (p.FindsNothing target → verb.run target p = .ok () p)) ∧
    ∀ s, target = .selector s → NoSelector s →
      (∀ verb : FirstVerb, verb.run target p = .error (.dom (.invalidSelector s)) p) ∧
      ∀ verb : AllVerb, verb.run target p = .error (.dom (.invalidSelector s)) p := by
  refine ⟨fun verb => ?_, fun verb => ?_, fun s hs hmalformed => ⟨fun verb => ?_, fun verb => ?_⟩⟩
  · have hcontract := verb.contract p target
    exact ⟨hcontract.resolution_iff, hcontract.missing⟩
  · have hcontract := verb.contract p target
    exact ⟨hcontract.byDocument, hcontract.idle⟩
  · exact (verb.contract p target).malformed s hs hmalformed
  · exact (verb.contract p target).malformed s hs hmalformed

/-- In a page with nothing in it there is no element, and the empty text is no selector. A name that
is no name is not looked at where there is no node. -/
theorem failure_contract_blank :
    let p : Page := { document := .blank "about:blank" }
    (p.FindsNothing (.selector "*") ∧ NoSelector "") ∧
      (FirstVerb.click fun _ _ => []).run (.selector "*") p =
        .error (.resolution (.selector "*")) p ∧
      (AllVerb.setAttribute " " none).run (.selector "*") p = .ok () p ∧
      (AllVerb.setHtml Markup.htmlParser "<b>").run (.selector "") p =
        .error (.dom (.invalidSelector "")) p := by
  intro p
  have hstar : Selector.SelectorList.parse "*" = .ok ⟨[.single (.mk (some "*") [])]⟩ := by
    cbv
  have hnone : p.FindsNothing (.selector "*") := ⟨_, hstar, by decide⟩
  have hempty : NoSelector "" := by
    have herror : Selector.SelectorList.parse "" = .error (.invalidSelector "") := by
      cbv
    intro list hlist
    rw [herror] at hlist
    cases hlist
  obtain ⟨hfirst, hall, -⟩ := failure_contract p (.selector "*")
  obtain ⟨-, -, hmalformed⟩ := failure_contract p (.selector "")
  refine ⟨⟨hnone, hempty⟩, (hfirst _).2 hnone, (hall _).2 hnone, ?_⟩
  exact (hmalformed "" rfl hempty).2 _

end WebPage
