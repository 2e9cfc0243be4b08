import WebPage.Proofs.Page.AttributeVerbs

/-!
# Forcing verbs that are applied again

A verb that forces something goes through the nodes of its target one by one, and stops at the first
node that it cannot treat. When it comes to a node again, in the same call or in a later one, there
is nothing left to do, since no other step undoes what was done there. So a second call goes through
the same nodes without effect and stops where the first one stopped, for the same reason. This needs
a target that gives its nodes itself, for a selector may find other nodes after the first call.

## Main definitions

* `Settled`: a computation that has nothing to do in a state
* `SettlingSteps`: steps that have nothing to do where they were made before
* `AllVerb.IsForcing`: the verbs that force something

## Main results

* `forM_again`: a loop of settling steps does nothing the second time
* `settlingSteps_change`: changes of elements that do nothing the second time are settling steps
* `AllVerb.exists_settlingSteps`: a forcing verb is such a loop
* `forcing_again`: a forcing verb that is applied again
-/

namespace WebPage

open WebPage.Tree

/-! ## Loops of settling steps -/

section Loops

variable {ε σ α : Type}

/-- A computation has nothing to do in a state. -/
def Settled (v : EStateM ε σ PUnit) (s : σ) : Prop :=
  v s = .ok ⟨⟩ s

/-- **A loop of settling steps** does nothing the second time, and fails again where it failed. -/
theorem forM_again {I : σ → Prop} {v : α → EStateM ε σ PUnit}
    (hfail : ∀ a s e s', v a s = .error e s' → s' = s) (hinv : ∀ a, Keeps I (v a))
    (hdone : ∀ a s s', I s → v a s = .ok ⟨⟩ s' → Settled (v a) s')
    (hstay : ∀ a b, Keeps (fun s => I s ∧ Settled (v a) s) (v b)) (l : List α) {s : σ}
    (hs : I s) : (l.forM v) (stateAfter (l.forM v) s) = (l.forM v) s := by
  induction l generalizing s with
  | nil => rfl
  | cons a l ih =>
    rw [List.forM_eq_forM, List.forM_cons]
    cases h : v a s with
    | error e s' =>
      obtain rfl := hfail a s e s' h
      rw [stateAfter_bind_of_error h]
    | ok u s₁ =>
      have hs₁ : I s₁ := stateAfter_of_ok h ▸ hinv a s hs
      have hsettled : Settled (v a) (stateAfter (l.forM v) s₁) :=
        ((Keeps.forM fun b _ => hstay a b) s₁ ⟨hs₁, hdone a s s₁ hs h⟩).2
      -- the first step is idle now, and the others are by the hypothesis of induction
      rw [stateAfter_bind_of_ok h, bind_apply_of_ok h]
      exact (bind_apply_of_ok hsettled).trans (ih hs₁)

end Loops

/-- Steps at the nodes of a page, of which each has nothing to do where it was made before, whatever
other steps were made since. -/
structure SettlingSteps (step : NodeId → Verb Unit) : Prop where
  fails : ∀ id p e p', step id p = .error e p' → p' = p
  keeps : ∀ (q : Page) id, Keeps (q.HasTree SoundAttributes) (step id)
  settles : ∀ id p p', p.document.tree.SoundAttributes → step id p = .ok ⟨⟩ p' →
    Settled (step id) p'
  stays : ∀ a b, Keeps (fun p => p.document.tree.SoundAttributes ∧ Settled (step a) p) (step b)

/-- Doing nothing has nothing to do. -/
theorem settlingSteps_idle : SettlingSteps fun _ => pure ⟨⟩ where
  fails _ _ _ _ h := nomatch h
  keeps _ _ := Keeps.pure _
  settles _ _ _ _ _ := rfl
  stays _ _ := Keeps.pure _

/-! ## Steps that change an element -/

section Changes

variable {check : Except DomError Unit} {f : Element → Element} {t : Tree} {p : Page} {id : NodeId}
  {e : Element}

/-- Writing an element as it is changes nothing. -/
theorem Tree.setElement_self (he : t.element? (some id) = some e) : t.setElement id e = t := by
  refine congrArg mk (Array.ext_getElem? fun i => ?_)
  simp only [Array.getElem?_modify]
  split
  next hi =>
    subst hi
    cases hn : t.nodes[id]? with
    | none => rfl
    | some n =>
      have hdata : n.data = .element e := by
        have hread : n.element? = some e := by
          rw [← he, element?, node?, Option.bind_some, hn]
          rfl
        unfold Node.element? at hread
        split at hread
        next e' hd =>
          obtain rfl := Option.some.inj hread
          exact hd
        next => cases hread
      rw [Option.map_some, ← hdata]
  next => rfl

/-- Makes a check, and changes one element. -/
def Verb.change (check : Except DomError Unit) (f : Element → Element) (id : NodeId) : Verb Unit :=
  Verb.editTree fun t => do
    check
    t.modifyElement (some id) f

theorem change_of_element? (he : p.document.tree.element? (some id) = some e) :
    Verb.change (.ok ()) f id p = .ok () (p.withTree (p.document.tree.setElement id (f e))) :=
  editTree_of_ok (modifyElement_eq_ok.mpr ⟨id, e, rfl, he, rfl⟩)

/-- A change that succeeds has passed its check and found an element. -/
theorem change_eq_ok {p' : Page} (h : Verb.change check f id p = .ok () p') :
    check = .ok () ∧ ∃ e, p.document.tree.element? (some id) = some e ∧
      p' = p.withTree (p.document.tree.setElement id (f e)) := by
  unfold Verb.change at h
  cases hrun : check >>= fun _ => p.document.tree.modifyElement (some id) f with
  | error error =>
    rw [editTree_of_error hrun] at h
    cases h
  | ok t =>
    rw [editTree_of_ok hrun] at h
    obtain ⟨-, rfl⟩ := EStateM.Result.ok.inj h
    obtain ⟨_, hcheck, ht⟩ := bind_eq_ok.mp hrun
    obtain ⟨id', e, hid, he, rfl⟩ := modifyElement_eq_ok.mp ht
    obtain rfl := Option.some.inj hid
    exact ⟨hcheck, e, he, rfl⟩

/-- A change that fails has changed nothing. -/
theorem change_eq_error {error : VerbError} {p' : Page}
    (h : Verb.change check f id p = .error error p') : p' = p := by
  unfold Verb.change at h
  cases hrun : check >>= fun _ => p.document.tree.modifyElement (some id) f with
  | error e =>
    rw [editTree_of_error hrun] at h
    exact (EStateM.Result.error.inj h).2.symm
  | ok t =>
    rw [editTree_of_ok hrun] at h
    cases h

/-- **A change has nothing to do just if** there is an element that it leaves as it is. -/
theorem settled_change_iff : Settled (Verb.change check f id) p ↔
    check = .ok () ∧ ∃ e, p.document.tree.element? (some id) = some e ∧ f e = e := by
  constructor
  · intro h
    obtain ⟨hcheck, e, he, hp⟩ := change_eq_ok h
    refine ⟨hcheck, e, he, ?_⟩
    have htree : p.document.tree = p.document.tree.setElement id (f e) :=
      congrArg (fun p => p.document.tree) hp
    have hread := element?_setElement (e := f e) (r := some id) (isElement_of_element? he)
    rw [← htree, if_pos rfl, he] at hread
    exact (Option.some.inj hread).symm
  · rintro ⟨rfl, e, he, hfe⟩
    refine (change_of_element? he).trans ?_
    rw [hfe, setElement_self he]
    rfl

/-- **Changes that do nothing the second time**, on elements with sound attributes, are settling
steps. -/
theorem settlingSteps_change (check : Except DomError Unit)
    (hsound : ∀ e : Element, e.attributes.Sound → (f e).attributes.Sound)
    (hf : ∀ e : Element, e.attributes.Sound → f (f e) = f e) :
    SettlingSteps (Verb.change check f) := by
  have hkeeps : ∀ (q : Page) id, Keeps (q.HasTree SoundAttributes) (Verb.change check f id) := by
    intro q id
    refine keeps_hasTree_editTree fun t t' ht h => ?_
    obtain ⟨_, -, ht⟩ := bind_eq_ok.mp ht
    exact h.modifyElement hsound ht
  refine ⟨fun _ _ _ _ => change_eq_error, hkeeps, fun id p p' hp h => ?_, fun a b p hp => ?_⟩
  · obtain ⟨hcheck, e, he, rfl⟩ := change_eq_ok h
    refine settled_change_iff.mpr ⟨hcheck, f e, ?_, hf e (hp _ _ he)⟩
    show (p.document.tree.setElement id (f e)).element? (some id) = _
    rw [element?_setElement (isElement_of_element? he), if_pos rfl]
  · obtain ⟨hp, hsettled⟩ := hp
    have hsound' := (hkeeps p b p (Page.hasTree_self hp)).tree
    refine ⟨hsound', ?_⟩
    cases h : Verb.change check f b p with
    | error error p' =>
      rw [stateAfter_of_error h, change_eq_error h]
      exact hsettled
    | ok u p' =>
      rw [stateAfter_of_ok h]
      obtain ⟨hcheck, e, he, hfe⟩ := settled_change_iff.mp hsettled
      obtain ⟨-, e', he', rfl⟩ := change_eq_ok h
      refine settled_change_iff.mpr ⟨hcheck, e, ?_, hfe⟩
      show (p.document.tree.setElement b (f e')).element? (some a) = _
      rw [element?_setElement (isElement_of_element? he')]
      split
      next hab =>
        -- the same element again, which is left as it is
        obtain rfl : e = e' := Option.some.inj (he.symm.trans (hab ▸ he'))
        rw [hfe]
      next => exact he

end Changes

/-! ## The verbs -/

/-- A verb that forces something: done again, it asks for what is there already. -/
def AllVerb.IsForcing : AllVerb → Prop
  | .addClass _ | .removeClass _ | .setClassName _ | .setAttribute _ _ | .removeAttribute _ => True
  | .hide | .show => True
  | .toggleAttribute _ force | .toggleClass _ force => force.isSome = true
  | _ => False

/-- A text without words names no class. -/
theorem toggleClass_of_words {names : String} (h : Text.words names = []) (target : Target)
    (force : Option Bool) :
    Page.toggleClass target names force = Page.forAll target fun _ => pure ⟨⟩ := by
  unfold Page.toggleClass
  rw [h]
  rfl

/-- **A forcing verb is a loop of settling steps**, on all pages with the same settings. -/
theorem AllVerb.exists_settlingSteps {verb : AllVerb} (hv : verb.IsForcing) (target : Target)
    (config : Config) : ∃ step, SettlingSteps step ∧
      ∀ p : Page, p.config = config → verb.run target p = Page.forAll target step p := by
  have hclasses : ∀ (wanted : Bool) (names : String),
      SettlingSteps (Verb.change (.ok ()) (·.forceClasses wanted (Text.words names))) := by
    intro wanted names
    refine settlingSteps_change _ (fun e he => e.sound_forceClasses he _ _) fun e _ => ?_
    exact e.forceClasses_forceClasses fun _ => Text.isWord_of_mem_words
  have htoggle : ∀ (check : Except DomError Unit) (name : String) (wanted : Bool),
      SettlingSteps (Verb.change check (·.toggleAttribute name (some wanted))) := by
    intro check name wanted
    exact settlingSteps_change _ (fun e he => e.sound_toggleAttribute he _ _)
      fun e he => e.toggleAttribute_toggleAttribute he _ _
  have hset : ∀ (name value : String),
      SettlingSteps (Verb.change (Name.validate name) (·.setAttribute name value)) := by
    intro name value
    exact settlingSteps_change _ (fun e he => e.sound_setAttribute he _ _)
      fun e _ => e.setAttribute_setAttribute _ _
  unfold run
  cases verb with
  | addClass names => exact ⟨_, hclasses true names, fun p _ => congrFun (addClass_eq _ _) p⟩
  | removeClass names => exact ⟨_, hclasses false names, fun p _ => congrFun (removeClass_eq _ _) p⟩
  | setClassName value =>
    exact ⟨_, hset "class" value, fun p _ => congrFun (setClassName_eq _ _) p⟩
  | setAttribute name value =>
    exact ⟨_, hset name (value.getD ""), fun p _ => congrFun (setAttribute_eq _ _ _) p⟩
  | removeAttribute name =>
    refine ⟨_, settlingSteps_change (.ok ()) (fun e he => e.sound_eraseAttribute he name)
      fun e he => e.eraseAttribute_eraseAttribute he name, fun p _ => ?_⟩
    exact congrFun (removeAttribute_eq _ _) p
  | hide =>
    refine ⟨_, htoggle (Name.validate config.hiddenAttribute) config.hiddenAttribute true, ?_⟩
    rintro p rfl
    exact setHidden_apply _ _ _
  | «show» =>
    refine ⟨_, htoggle (Name.validate config.hiddenAttribute) config.hiddenAttribute false, ?_⟩
    rintro p rfl
    exact setHidden_apply _ _ _
  | toggleAttribute name force =>
    obtain ⟨wanted, rfl⟩ := Option.isSome_iff_exists.mp hv
    exact ⟨_, htoggle _ name wanted, fun p _ => congrFun (toggleAttribute_eq _ _ _) p⟩
  | toggleClass names force =>
    obtain ⟨wanted, rfl⟩ := Option.isSome_iff_exists.mp hv
    by_cases hwords : Text.words names = []
    · exact ⟨_, settlingSteps_idle, fun p _ => congrFun (toggleClass_of_words hwords _ _) p⟩
    · exact ⟨_, hclasses wanted names, fun p _ => congrFun (toggleClass_some hwords _ _) p⟩
  | _ => cases hv

/-- **A forcing verb that is applied again** to given nodes, with repetitions, references to no node
and names of no element among them, comes to the same end as before, a success or the same failure,
and leaves the page exactly as the first call left it. The attributes of every page that is reached
are sound (`soundAttributes_afterPageCalls`). -/
theorem forcing_again {p : Page} {target : Target} {ids : List NodeId} {verb : AllVerb}
    (hp : p.document.tree.SoundAttributes) (htarget : target.given? = some ids)
    (hv : verb.IsForcing) :
    verb.run target (stateAfter (verb.run target) p) = verb.run target p := by
  obtain ⟨step, hstep, hrun⟩ := AllVerb.exists_settlingSteps hv target p.config
  have hloop : verb.run target p = ids.forM step p := by
    rw [hrun p rfl, forAll_of_given htarget]
  have hstate : stateAfter (verb.run target) p = stateAfter (ids.forM step) p := by
    unfold stateAfter
    rw [hloop]
  -- the settings are as they were, so the second call is a loop of the same steps
  have hconfig : (stateAfter (ids.forM step) p).config = p.config := by
    obtain ⟨t, -, ht⟩ := Keeps.forM (fun id _ => hstep.keeps p id) p (Page.hasTree_self hp)
    rw [ht]
    rfl
  rw [hstate, hrun _ hconfig, forAll_of_given htarget, hloop]
  exact forM_again hstep.fails (fun id => .of_hasTree fun q => hstep.keeps q id) hstep.settles
    hstep.stays ids hp

/-- A page whose head has an attribute. -/
def taggedHead : Page where
  document :=
    { tree := Document.skeletonTree.setElement 2 ((Element.ofTag "head").setAttribute "lang" "en")
      url := "about:blank" }

/-- The head loses its attribute. The document node behind it has none, so the call stops there, and
so it does again. -/
theorem forcing_again_taggedHead :
    let target : Target := .nodes [some 2, none, some 2, some documentNode, some 3]
    let verb : AllVerb := .removeAttribute "LANG"
    (taggedHead.document.tree.SoundAttributes ∧ target.given? = some [2, 2, documentNode, 3] ∧
      verb.IsForcing) ∧
    ∃ p', verb.run target taggedHead = .error (.dom (.notAnElement (some documentNode))) p' ∧
      p' ≠ taggedHead ∧
      verb.run target p' = .error (.dom (.notAnElement (some documentNode))) p' := by
  intro target verb
  have hsound : taggedHead.document.tree.SoundAttributes :=
    soundAttributes_skeletonTree.setElement (by decide +kernel)
      (Element.sound_setAttribute Attributes.sound_empty _ _)
  have hrun : ∃ p', verb.run target taggedHead =
      .error (.dom (.notAnElement (some documentNode))) p' := ⟨_, rfl⟩
  obtain ⟨p', hrun⟩ := hrun
  have hagain : verb.run target (stateAfter (verb.run target) taggedHead) =
      verb.run target taggedHead := forcing_again hsound rfl trivial
  rw [stateAfter_of_error hrun, hrun] at hagain
  refine ⟨⟨hsound, rfl, trivial⟩, p', hrun, ?_, hagain⟩
  rintro rfl
  have hattribute : stateAfter (verb.run target) taggedHead ≠ taggedHead := by decide +kernel
  exact hattribute (stateAfter_of_error hrun)

end WebPage
