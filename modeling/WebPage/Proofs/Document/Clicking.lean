import WebPage.Proofs.Document.Focus
import WebPage.Proofs.Form.Groups

/-!
# What a click does

A click tells an element of itself, and tells a control that has changed of that too. Which events
there are is decided after the listeners have run, but listeners act on events only, so it depends
on the control and on whether they prevented the default. Of the form controls a click writes its
target and the group of that; what a group is depends on names and on the roots of trees, and a
member that is itself the root of its tree is not cleared with the others.

## Main definitions

* `Document.ClickTells`: the events of a click
* `Document.WritesGroup id d d'`: between two documents, only `id` and the group of it were written
* `Document.ClickWrites`: what a click does to the controls

## Main results

* `Document.clickBy_of_enabled`: a click writes, sends the event of the click and settles
* `Document.exists_settled`: what comes after the event of the click
* `Document.exists_clickTells`: a click on an element succeeds, and sends these events
* `Document.writesGroup_click`: of the form controls it writes the target and its group only
* `click_tells_and_writes`: both together
-/

namespace WebPage

/-- The event by which a control is told that its state is changing. -/
def inputEvent (r : NodeRef) : Event :=
  { type := "input", target := r, bubbles := true }

/-- The event by which a control is told that its state has changed. -/
def changeEvent (r : NodeRef) : Event :=
  { type := "change", target := r, bubbles := true }

namespace Document

variable {behaviour : Behaviour} {d d' d₁ d₂ : Document} {r previous : NodeRef} {e : Element}
  {b proceed : Bool} {id : NodeId}

/-! ## A click, for any way to send events -/

section Sending

variable {m : Type → Type} [Monad m] [MonadLiftT (Except DomError) m]
  (send : Document → Event → m (Bool × Document))

theorem settleBy_of_plain (hc : e.isCheckable = false) :
    settleBy send e r previous proceed d = pure (proceed, d) := by
  unfold settleBy
  rw [hc]
  rfl

variable [LawfulMonad m] [LawfulMonadLiftT (Except DomError) m]

theorem settleBy_of_refused (hc : e.isCheckable = true)
    (hr : d.rollBack r e.isChecked previous = .ok d') :
    settleBy send e r previous false d = pure (false, d') := by
  unfold settleBy
  rw [hc, hr]
  exact liftM_ok_bind _ _

/-- A control that was not refused reports its state if this is a new one. -/
theorem settleBy_of_accepted (hc : e.isCheckable = true) (hr : d.tree.checked r = .ok b) :
    settleBy send e r previous true d =
      if b = e.isChecked then pure (true, d)
      else reportChangeBy send d r >>= fun d => pure (true, d) := by
  unfold settleBy
  rw [hc, hr]
  refine (liftM_ok_bind _ _).trans ?_
  by_cases hb : b = e.isChecked <;> simp [hb]

theorem clickBy_of_disabled (he : d.tree.element? r = some e) (hd : e.isDisabled = true) :
    clickBy send d r = pure (false, d) := by
  unfold clickBy
  rw [Tree.element_eq_ok.mpr he]
  exact (liftM_ok_bind _ _).trans (if_pos hd)

/-- A control that is not disabled is written, told of the click, and settled. -/
theorem clickBy_of_enabled (he : d.tree.element? r = some e) (hn : e.isDisabled = false)
    (hw : d.preactivate r e.inputType? e.isChecked = .ok d₁) :
    clickBy send d r = (do
      let (proceed, d₂) ← send d₁ (clickEvent r)
      settleBy send e r ((d.tree.groupMembers r).find? fun id => d.tree.isCheckedAt (some id))
        proceed d₂) := by
  have hgroup : d.tree.radioGroup r = .ok (d.tree.groupMembers r) :=
    Tree.radioGroup_eq_ok.mpr ⟨Tree.isElement_of_element? he, rfl⟩
  -- what comes before the event reads and writes without a failure, so it can be put in
  unfold clickBy
  rw [Tree.element_eq_ok.mpr he, hgroup]
  refine (liftM_ok_bind _ _).trans ?_
  rw [if_neg (by simp [hn])]
  refine (liftM_ok_bind _ _).trans ?_
  dsimp only
  rw [hw]
  exact liftM_ok_bind _ _

end Sending

/-! ## What comes after the event of the click -/

theorem exists_reportChangeBy (behaviour : Behaviour) (h : (d.tree.kind? r).isSome) :
    ∃ d', reportChangeBy (dispatch behaviour) d r = .ok d' ∧
      (reportChangeBy (recordDispatch behaviour) d r).Gives (.ok d') [inputEvent r, changeEvent r] ∧
      d.SameContent d' := by
  obtain ⟨b₁, d₁, h₁, hsame₁⟩ := exists_dispatch behaviour (inputEvent r) h
  have hr : (d₁.tree.kind? r).isSome := by
    rw [hsame₁.sameFrame.kind?]
    exact h
  obtain ⟨b₂, d₂, h₂, hsame₂⟩ := exists_dispatch behaviour (changeEvent r) hr
  have hinput : (recordDispatch behaviour d (inputEvent r)).Gives (.ok (b₁, d₁)) [inputEvent r] :=
    h₁ ▸ gives_recordDispatch _ _ _
  have hchange : (recordDispatch behaviour d₁ (changeEvent r)).Gives (.ok (b₂, d₂))
      [changeEvent r] := h₂ ▸ gives_recordDispatch _ _ _
  refine ⟨d₂, ?_, hinput.bind (hchange.bind_pure (g := Prod.snd)), hsame₁.trans hsame₂⟩
  exact bind_eq_ok.mpr ⟨_, h₁, bind_eq_ok.mpr ⟨_, h₂, rfl⟩⟩

theorem sameContent_reportChangeBy (h : reportChangeBy (dispatch behaviour) d r = .ok d') :
    d.SameContent d' :=
  chain_reportChangeBy (R := SameContent) SameContent.trans sameContent_dispatch h

/-- Before its listeners are called, a click succeeds in writing the control. -/
theorem exists_preactivate (he : d.tree.element? (some id) = some e) :
    ∃ d₁, d.preactivate (some id) e.inputType? e.isChecked = .ok d₁ ∧
      Tree.SameFrame d.tree d₁.tree := by
  cases hc : e.isCheckable with
  | false => exact ⟨d, preactivate_of_not_isCheckable hc, .refl _⟩
  | true =>
    obtain ⟨t, ht⟩ := Tree.exists_setChecked (Tree.isElement_of_element? he) e.activated
    have hw : d.setChecked (some id) e.activated = .ok { d with tree := t } :=
      setChecked_eq_ok.mpr ⟨t, ht, rfl⟩
    exact ⟨_, (preactivate_of_isCheckable hc).trans hw, (sameGroups_setChecked hw).frame⟩

/-- Elements can be put back. -/
theorem exists_rollBack (hr : d.tree.isElement (some id) = true)
    (hp : ∀ p, previous = some p → d.tree.isElement (some p) = true) (b : Bool) :
    ∃ d', d.rollBack (some id) b previous = .ok d' := by
  obtain ⟨t, ht⟩ := Tree.exists_setChecked hr b
  have hw : d.setChecked (some id) b = .ok { d with tree := t } :=
    setChecked_eq_ok.mpr ⟨t, ht, rfl⟩
  unfold rollBack
  rw [hw]
  cases previous with
  | none => exact ⟨_, rfl⟩
  | some p =>
    have hp' : t.isElement (some p) = true := by
      rw [(Tree.sameFrame_setChecked ht).isElement_eq]
      exact hp p rfl
    obtain ⟨t', ht'⟩ := Tree.exists_setChecked hp' true
    exact ⟨_, setChecked_eq_ok.mpr ⟨t', ht', rfl⟩⟩

/-! ## The events of a click -/

/-- The click went through at a checkbox or a radio button, and left it in a new state. -/
def ClickReports (d : Document) (id : NodeId) (e : Element) (b : Bool) (d' : Document) : Prop :=
  e.isCheckable = true ∧ b = true ∧ d'.tree.checked (some id) ≠ d.tree.checked (some id)

/-- The events that a click at the element `e` sends, with its result. -/
structure ClickTells (behaviour : Behaviour) (d : Document) (id : NodeId) (e : Element) (b : Bool)
    (d' : Document) (events : List Event) : Prop where
  /-- A disabled control is told nothing, and nothing happens to it. -/
  disabled : e.isDisabled = true → b = false ∧ events = [] ∧ d' = d
  /-- Any other element is told of the click, and the click goes through just if no listener
  prevents the default. What comes after that is for a control that reports a new state. -/
  enabled : e.isDisabled = false →
    ∃ d₁ d₂ later, d.preactivate (some id) e.inputType? e.isChecked = .ok d₁ ∧
      d₁.dispatch behaviour (clickEvent (some id)) = .ok (b, d₂) ∧
      events = clickEvent (some id) :: later ∧
      (ClickReports d id e b d' → later = [inputEvent (some id), changeEvent (some id)]) ∧
      (¬ ClickReports d id e b d' → later = [])

/-- **A click can always be settled**, and sends `input` and `change` then just if it went through
at a control that is not as it was. -/
theorem exists_settled (behaviour : Behaviour) (hr : d.tree.isElement (some id) = true)
    (hp : ∀ p, previous = some p → d.tree.isElement (some p) = true) (e : Element) (b : Bool) :
    ∃ d' later, settleBy (dispatch behaviour) e (some id) previous b d = .ok (b, d') ∧
      (settleBy (recordDispatch behaviour) e (some id) previous b d).Gives (.ok (b, d')) later ∧
      (e.isCheckable = true ∧ b = true ∧ d'.tree.checked (some id) ≠ .ok e.isChecked →
        later = [inputEvent (some id), changeEvent (some id)]) ∧
      (¬ (e.isCheckable = true ∧ b = true ∧ d'.tree.checked (some id) ≠ .ok e.isChecked) →
        later = []) := by
  cases hc : e.isCheckable with
  | false =>
    refine ⟨d, [], ?_, ?_, fun hreports => absurd hreports.1 (by decide), fun _ => rfl⟩
    · rw [settleBy_of_plain _ hc]
      rfl
    · rw [settleBy_of_plain _ hc]
      exact .pure _
  | true =>
    cases b with
    | false =>
      -- the control and its group are put back
      obtain ⟨d', hroll⟩ := exists_rollBack hr hp e.isChecked
      refine ⟨d', [], ?_, ?_, fun hreports => absurd hreports.2.1 (by decide), fun _ => rfl⟩
      · rw [settleBy_of_refused _ hc hroll]
        rfl
      · rw [settleBy_of_refused _ hc hroll]
        exact .pure _
    | true =>
      obtain ⟨e', he'⟩ := Option.isSome_iff_exists.mp hr
      have hafter := Tree.checked_of_element? he'
      by_cases hstays : e'.isChecked = e.isChecked
      · refine ⟨d, [], ?_, ?_, fun hreports => absurd ?_ hreports.2.2, fun _ => rfl⟩
        · rw [settleBy_of_accepted _ hc hafter, if_pos hstays]
          rfl
        · rw [settleBy_of_accepted _ hc hafter, if_pos hstays]
          exact .pure _
        · rw [hafter, hstays]
      · -- the new state is reported; the listeners that hear of it do not change it
        obtain ⟨d', hreport, htold, hkept⟩ :=
          exists_reportChangeBy behaviour (Tree.kind?_isSome_of_isElement hr)
        refine ⟨d', _, ?_, ?_, fun _ => rfl, fun hnot => absurd ⟨rfl, rfl, fun heq => ?_⟩ hnot⟩
        · rw [settleBy_of_accepted _ hc hafter, if_neg hstays, hreport]
          rfl
        · rw [settleBy_of_accepted _ hc hafter, if_neg hstays]
          exact htold.bind_pure
        · apply hstays
          rw [checked_congr hkept, hafter] at heq
          exact Except.ok.inj heq

/-- **Every click on an element succeeds**, and sends these events. -/
theorem exists_clickTells (behaviour : Behaviour) (he : d.tree.element? (some id) = some e) :
    ∃ b d' events, d.click behaviour (some id) = .ok (b, d') ∧
      (clickBy (recordDispatch behaviour) d (some id)).Gives (.ok (b, d')) events ∧
      ClickTells behaviour d id e b d' events := by
  unfold click
  cases hn : e.isDisabled with
  | true =>
    rw [clickBy_of_disabled _ he hn, clickBy_of_disabled _ he hn]
    refine ⟨false, d, [], rfl, .pure _, fun _ => ⟨rfl, rfl, rfl⟩, fun hf => ?_⟩
    rw [hn] at hf
    cases hf
  | false =>
    obtain ⟨d₁, hw, hframe⟩ := exists_preactivate he
    have hel := Tree.isElement_of_element? he
    have hkind : (d₁.tree.kind? (some id)).isSome := by
      rw [hframe.kind?]
      exact Tree.kind?_isSome_of_isElement hel
    obtain ⟨b, d₂, hsent, hsame⟩ := exists_dispatch behaviour (clickEvent (some id)) hkind
    have helements : d₂.tree.isElement = d.tree.isElement :=
      hsame.sameFrame.isElement_eq.trans hframe.isElement_eq
    -- what was found checked is an element, before and after
    have hfound : ∀ p, (d.tree.groupMembers (some id)).find?
        (fun id => d.tree.isCheckedAt (some id)) = some p → d₂.tree.isElement (some p) = true := by
      intro p hp
      obtain ⟨-, -, name, -, hname⟩ := Tree.mem_groupMembers.mp (List.mem_of_find?_eq_some hp)
      rw [helements]
      exact Option.isSome_of_isSome_bind (Option.isSome_iff_exists.mpr ⟨name, hname⟩)
    obtain ⟨d', later, hsettle, hrecord, hreports, hsilent⟩ :=
      exists_settled behaviour (helements ▸ hel) hfound e b
    have htold : (recordDispatch behaviour d₁ (clickEvent (some id))).Gives (.ok (b, d₂))
        [clickEvent (some id)] := hsent ▸ gives_recordDispatch _ _ _
    rw [← Tree.checked_of_element? he] at hreports hsilent
    rw [clickBy_of_enabled _ he hn hw, clickBy_of_enabled _ he hn hw]
    refine ⟨b, d', clickEvent (some id) :: later, ?_, htold.bind hrecord, fun ht => ?_, fun _ =>
      ⟨d₁, d₂, later, hw, hsent, rfl, hreports, hsilent⟩⟩
    · exact bind_eq_ok.mpr ⟨_, hsent, hsettle⟩
    · rw [hn] at ht
      cases ht

/-! ## What a click writes -/

/-- Between the documents, nothing was written but the element and the group of it: the groups, the
links and the attributes are the same, and so is the form state of every other element. -/
structure WritesGroup (id : NodeId) (d d' : Document) : Prop where
  groups : Tree.KeepsGroups d.tree d'.tree
  attributes : ∀ n, (d'.tree.element? (some n)).map Element.attributes =
    (d.tree.element? (some n)).map Element.attributes
  form : ∀ n, n ≠ id → ¬ d.tree.SameGroup id n →
    (d'.tree.element? (some n)).map Element.form = (d.tree.element? (some n)).map Element.form

namespace WritesGroup

theorem refl (id : NodeId) (d : Document) : WritesGroup id d d :=
  ⟨.refl _, fun _ => rfl, fun _ _ _ => rfl⟩

theorem trans (h : WritesGroup id d d₁) (h' : WritesGroup id d₁ d₂) : WritesGroup id d d₂ := by
  refine ⟨h.groups.trans h'.groups, fun n => ?_, fun n hn hg => ?_⟩
  · rw [h'.attributes, h.attributes]
  · -- who is outside the group before is outside it in between
    rw [← h.groups.sameGroup_iff] at hg
    rw [h'.form n hn hg, h.form n hn (mt h.groups.sameGroup_iff.mpr hg)]

/-- Listeners write nothing. -/
theorem of_sameContent (id : NodeId) (h : d.SameContent d') : WritesGroup id d d' :=
  ⟨keepsGroups_of_sameContent h, fun _ => h.element_map_eq fun _ => rfl,
    fun _ _ _ => h.element_map_eq fun _ => rfl⟩

/-- Writing one of the group writes only this and the group. -/
theorem of_setChecked (hd : d.tree.WellFormed) {p : NodeId} (hp : p = id ∨ d.tree.SameGroup id p)
    (h : d.setChecked (some p) b = .ok d') : WritesGroup id d d' := by
  obtain ⟨t, ht, rfl⟩ := setChecked_eq_ok.mp h
  refine ⟨Tree.keepsGroups_setChecked hd ht, fun n => ?_, fun n hn hg => ?_⟩
  · rw [Tree.element?_setChecked ht, Option.map_map]
    refine Option.map_congr fun e _ => ?_
    rw [Function.comp_apply]
    split
    · rfl
    · split <;> rfl
  · rw [Tree.element?_setChecked ht, Option.map_map]
    refine Option.map_congr fun e _ => ?_
    -- who is written is `p` or is in its group, so it is `id` or is in that of `id`
    have hmember : ¬ (b = true ∧ some n ∈ (d.tree.groupMembers (some p)).map some) := by
      rintro ⟨-, hmem⟩
      obtain ⟨m, hm, heq⟩ := List.mem_map.mp hmem
      obtain rfl : m = n := Option.some.inj heq
      have hpm := (hd.groupMember_iff.mp (Tree.mem_groupMembers.mp hm).2).1
      rcases hp with rfl | hp
      · exact hg hpm
      · exact hg (hp.symm.of_common hpm)
    have hself : (some n : NodeRef) ≠ some p := by
      intro heq
      obtain rfl : n = p := Option.some.inj heq
      rcases hp with rfl | hp
      · exact hn rfl
      · exact hg hp
    rw [Function.comp_apply, if_neg hmember, if_neg hself]

/-- Putting back the element and one of its group writes only these and the group. -/
theorem of_rollBack (hd : d.tree.WellFormed)
    (hp : ∀ p, previous = some p → d.tree.SameGroup id p)
    (h : d.rollBack (some id) b previous = .ok d') : WritesGroup id d d' := by
  unfold rollBack at h
  rw [bind_eq_ok] at h
  obtain ⟨d₁, h₁, h⟩ := h
  have hback := of_setChecked hd (.inl rfl) h₁
  cases previous with
  | none =>
    obtain rfl : d₁ = d' := Except.ok.inj h
    exact hback
  | some p =>
    -- the groups are as before, so the other one is still in the group of the element
    apply hback.trans
    apply of_setChecked (hback.groups.frame.wellFormed hd) _ h
    exact .inr (hback.groups.sameGroup_iff.mpr (hp p rfl))

end WritesGroup

/-- **A click writes its target and the group of that, and nothing else**, whether it goes through
or is taken back. -/
theorem writesGroup_click (hd : d.tree.WellFormed)
    (h : d.click behaviour (some id) = .ok (b, d')) : WritesGroup id d d' := by
  obtain ⟨e, he, hclick⟩ := exists_clicked h
  cases hclick with
  | disabled => exact .refl id d
  | plain hn hc hsent => exact .of_sameContent id (sameContent_dispatch hsent)
  | kept hn hc hw hsent =>
    exact (WritesGroup.of_setChecked hd (.inl rfl) hw).trans
      (.of_sameContent id (sameContent_dispatch hsent))
  | reported hn hc hw hsent hr =>
    apply (WritesGroup.of_setChecked hd (.inl rfl) hw).trans
    apply (WritesGroup.of_sameContent id (sameContent_dispatch hsent)).trans
    exact .of_sameContent id (sameContent_reportChangeBy hr)
  | @cancelled d₁ d₂ _ hn hc hw hsent hr =>
    have hwritten := (WritesGroup.of_setChecked hd (.inl rfl) hw).trans
      (.of_sameContent id (sameContent_dispatch hsent))
    apply hwritten.trans
    apply WritesGroup.of_rollBack (hwritten.groups.frame.wellFormed hd) _ hr
    -- what is checked again was found among the members of the group
    intro p hp
    have hm := (Tree.mem_groupMembers.mp (List.mem_of_find?_eq_some hp)).2
    exact hwritten.groups.sameGroup_iff.mpr (hd.groupMember_iff.mp hm).1

/-- What a click at the element `e` does to the controls, with its result. -/
structure ClickWrites (d : Document) (id : NodeId) (e : Element) (b : Bool) (d' : Document) :
    Prop where
  /-- Outside the group of the element no form state is changed, and no link and no attribute is
  changed anywhere. -/
  outside : d.WritesGroup id d'
  /-- A checkbox is flipped by a click that goes through. -/
  checkbox : b = true → e.inputType? = some .checkbox →
    d'.tree.checked (some id) = .ok (!e.isChecked)
  /-- A radio button is checked by a click that goes through. Of the others of its group those with
  a parent are cleared; one without parent, which is the root of the tree, stays as it was. -/
  radio : b = true → e.inputType? = some .radio →
    d'.tree.checked (some id) = .ok true ∧
      ∀ m, m ≠ id → d.tree.SameGroup id m →
        (d'.tree.checked (some m) = .ok true ↔
          d.tree.checked (some m) = .ok true ∧ d.tree.parent (some m) = none)

/-- What a click that goes through has written into a control. -/
theorem exists_of_accepted (he : d.tree.element? (some id) = some e) (hc : e.isCheckable = true)
    (h : d.click behaviour (some id) = .ok (true, d')) :
    ∃ d₁, d.setChecked (some id) e.activated = .ok d₁ ∧ d₁.SameContent d' := by
  obtain ⟨e', he', hclick⟩ := exists_clicked h
  obtain rfl : e = e' := Option.some.inj (he.symm.trans he')
  cases hclick with
  | plain hn hc' hsent =>
    rw [hc] at hc'
    cases hc'
  | kept hn _ hw hsent => exact ⟨_, hw, sameContent_dispatch hsent⟩
  | reported hn _ hw hsent hr =>
    exact ⟨_, hw, (sameContent_dispatch hsent).trans (sameContent_reportChangeBy hr)⟩

theorem clickWrites (hd : d.tree.WellFormed) (he : d.tree.element? (some id) = some e)
    (h : d.click behaviour (some id) = .ok (b, d')) : ClickWrites d id e b d' := by
  refine ⟨writesGroup_click hd h, fun hb htype => ?_, fun hb htype => ?_⟩
  · subst hb
    obtain ⟨d₁, hw, hkept⟩ := exists_of_accepted he (by rw [Element.isCheckable, htype]; rfl) h
    have hactivated : e.activated = !e.isChecked := by
      rw [Element.activated, Element.isRadio, htype]
      rfl
    obtain ⟨t, ht, rfl⟩ := setChecked_eq_ok.mp hw
    -- nothing is written after the listeners, so what was written before them is read
    rw [checked_congr hkept, ← hactivated]
    exact Tree.checked_setChecked_self ht
  · subst hb
    obtain ⟨d₁, hw, hkept⟩ := exists_of_accepted he (by rw [Element.isCheckable, htype]; rfl) h
    have hactivated : e.activated = true := by
      rw [Element.activated, Element.isRadio, htype]
      rfl
    rw [hactivated] at hw
    obtain ⟨t, ht, rfl⟩ := setChecked_eq_ok.mp hw
    obtain ⟨hself, hothers, -⟩ := Tree.setChecked_member hd ht
    simp only [checked_congr hkept]
    exact ⟨hself, hothers⟩

end Document

/-! ## Both together -/

/-- **What a click on an element does**, whatever the listeners do. It succeeds.
* A disabled control is told nothing, and nothing is changed. Any other element is told of the click
  first; a checkbox or a radio button is told `input` and then `change` after it, just if no
  listener prevented the default and its state is not what it was. No other event is sent.
* A checkbox whose click goes through is flipped. A radio button is checked, and those of its group
  that have a parent are cleared.
* Links and attributes stay as they are, and so does the form state of every element outside the
  group. -/
theorem click_tells_and_writes {d : Document} {id : NodeId} {e : Element} (hd : d.tree.WellFormed)
    (he : d.tree.element? (some id) = some e) (behaviour : Behaviour) :
    ∃ b d' events, d.click behaviour (some id) = .ok (b, d') ∧
      (Document.clickBy (Document.recordDispatch behaviour) d (some id)).Gives
        (.ok (b, d')) events ∧
      Document.ClickTells behaviour d id e b d' events ∧ Document.ClickWrites d id e b d' := by
  obtain ⟨b, d', events, hclick, hrecord, htells⟩ := Document.exists_clickTells behaviour he
  exact ⟨b, d', events, hclick, hrecord, htells, Document.clickWrites hd he hclick⟩

/-- Two radio buttons of one group, one below the other, beside the document. The upper one is
checked, and it is the root of its tree. -/
def Document.nestedRadios : Document where
  tree :=
    (stateAfter (Tree.loadAll true (some documentNode)
      [.element "input" [("type", "radio"), ("name", "size"), ("checked", "")]
        [.element "input" [("type", "radio"), ("name", "size")] []]]) .empty).unlink 1
  url := "about:blank"

/-- The lower radio button is clicked, and nobody prevents the default: it is told so and reports its
new state. It is checked then, and so is the upper one still. -/
theorem click_tells_and_writes_nestedRadios :
    let d := Document.nestedRadios
    let e := Element.ofMarkup "input" [("type", "radio"), ("name", "size")]
    let behaviour : Behaviour := fun _ _ => []
    let events := [clickEvent (some 2), inputEvent (some 2), changeEvent (some 2)]
    d.tree.WellFormed ∧ d.tree.element? (some 2) = some e ∧ d.tree.SameGroup 2 1 ∧
      ∃ d', d.click behaviour (some 2) = .ok (true, d') ∧
        (Document.clickBy (Document.recordDispatch behaviour) d (some 2)).Gives
          (.ok (true, d')) events ∧
        Document.ClickTells behaviour d 2 e true d' events ∧ Document.ClickWrites d 2 e true d' ∧
        d'.tree.checked (some 2) = .ok true ∧ d'.tree.checked (some 1) = .ok true := by
  intro d e behaviour events
  have hd : Document.nestedRadios.tree.WellFormed := by
    dsimp only [Document.nestedRadios]
    apply Tree.WellFormed.unlink
    exact Tree.keeps_loadAll Tree.WellFormed.addBelow true (some documentNode) _ _
      Tree.wellFormed_empty
  have he : d.tree.element? (some 2) = some e := by decide +kernel
  have hgroup : d.tree.SameGroup 2 1 := by
    refine ⟨some 1, "size", ⟨⟨e, he, ?_, ?_⟩, ?_, ?_⟩, ⟨⟨_, rfl, ?_, ?_⟩, ?_, ?_⟩⟩
    all_goals decide +kernel
  have hresult : (d.click behaviour (some 2)).toOption.map Prod.fst = some true := by
    decide +kernel
  obtain ⟨b, d', sent, hclick, hrecord, htells, hwrites⟩ := click_tells_and_writes hd he behaviour
  obtain rfl : b = true := by
    rw [hclick] at hresult
    exact Option.some.inj hresult
  obtain ⟨hlower, hupper⟩ := hwrites.radio rfl (by decide)
  -- the state is a new one, so it is reported after the event of the click
  have hreports : Document.ClickReports d 2 e true d' := by
    have hunchecked : e.isChecked = false := by decide
    refine ⟨by decide, rfl, ?_⟩
    rw [hlower, Tree.checked_of_element? he, hunchecked]
    nofun
  obtain ⟨d₁, d₂, later, -, -, rfl, hlater, -⟩ := htells.enabled (by decide)
  obtain rfl := hlater hreports
  refine ⟨hd, he, hgroup, d', hclick, hrecord, htells, hwrites, hlower, ?_⟩
  apply (hupper 1 (by decide) hgroup).mpr
  constructor
  · rw [Tree.checked_eq_ok_true_iff]
    decide +kernel
  · decide +kernel

end WebPage
