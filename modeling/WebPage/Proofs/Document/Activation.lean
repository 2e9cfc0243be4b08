import WebPage.Document.Activation
import WebPage.Proofs.Document.Travel
import WebPage.Proofs.Form.Checkedness
import WebPage.Proofs.Tree.Loading

/-!
# Clicks that do not go through

A click on a checkbox or a radio button writes the control before the listeners are called, and puts
it back if they prevent the default. What is put back is the control itself and the one member of
its group that was found checked. The other members were cleared on the way. So a group is restored
if one of its members at most was checked, and if more were, it is not.

## Main definitions

* `Clicked`: what a click comes to, case by case

## Main results

* `Document.exists_clicked`: every click comes to one of these cases
* `Document.chain_click`: what holds of every write and every dispatch holds of every click
* `Document.isCheckedAt_rollBack_iff`: what putting back restores
* `checked_of_refused_click_iff`: when a click that does not go through leaves every control as it
  was
-/

namespace WebPage

/-- The event of a click. -/
def clickEvent (r : NodeRef) : Event :=
  { type := "click", target := r, bubbles := true, cancelable := true }

/-- What the activation of a checkbox or a radio button writes. -/
def Element.activated (e : Element) : Bool :=
  e.isRadio || !e.isChecked

/-- What a click on an element comes to. -/
inductive Clicked (behaviour : Behaviour) (d : Document) (r : NodeRef) (e : Element) :
    Bool → Document → Prop where
  /-- A disabled control does not react. -/
  | disabled (he : e.isDisabled = true) : Clicked behaviour d r e false d
  /-- An element that cannot be checked is told of the click. -/
  | plain {b : Bool} {d' : Document} (hn : e.isDisabled = false) (he : e.isCheckable = false)
      (hd : d.dispatch behaviour (clickEvent r) = .ok (b, d')) : Clicked behaviour d r e b d'
  /-- A control is written, told of the click and put back. -/
  | cancelled {d₁ d₂ d' : Document} (hn : e.isDisabled = false) (he : e.isCheckable = true)
      (hw : d.setChecked r e.activated = .ok d₁)
      (hd : d₁.dispatch behaviour (clickEvent r) = .ok (false, d₂))
      (hr : d₂.rollBack r e.isChecked
        ((d.tree.groupMembers r).find? fun id => d.tree.isCheckedAt (some id)) = .ok d') :
      Clicked behaviour d r e false d'
  /-- A control is written, told of the click, and has nothing to report. -/
  | kept {d₁ d' : Document} (hn : e.isDisabled = false) (he : e.isCheckable = true)
      (hw : d.setChecked r e.activated = .ok d₁)
      (hd : d₁.dispatch behaviour (clickEvent r) = .ok (true, d')) :
      Clicked behaviour d r e true d'
  /-- A control is written, told of the click, and reports its new state. -/
  | reported {d₁ d₂ d' : Document} (hn : e.isDisabled = false) (he : e.isCheckable = true)
      (hw : d.setChecked r e.activated = .ok d₁)
      (hd : d₁.dispatch behaviour (clickEvent r) = .ok (true, d₂))
      (hr : Document.reportChangeBy (Document.dispatch behaviour) d₂ r = .ok d') : Clicked behaviour d r e true d'

namespace Document

variable {behaviour : Behaviour} {d d' : Document} {r : NodeRef} {e : Element} {b : Bool}

theorem preactivate_of_isCheckable (he : e.isCheckable = true) :
    d.preactivate r e.inputType? e.isChecked = d.setChecked r e.activated := by
  unfold Element.isCheckable at he
  unfold preactivate Element.activated Element.isRadio
  cases ht : e.inputType? with
  | none => simp [ht] at he
  | some type => cases type <;> first | rfl | simp [ht, InputType.isCheckable] at he

theorem preactivate_of_not_isCheckable (he : e.isCheckable = false) :
    d.preactivate r e.inputType? e.isChecked = .ok d := by
  unfold Element.isCheckable at he
  unfold preactivate
  cases ht : e.inputType? with
  | none => rfl
  | some type => cases type <;> first | rfl | simp [ht, InputType.isCheckable] at he

/-- **Every click comes to one of these.** -/
theorem exists_clicked (h : d.click behaviour r = .ok (b, d')) :
    ∃ e, d.tree.element? r = some e ∧ Clicked behaviour d r e b d' := by
  unfold click clickBy settleBy at h
  simp only [monadLift_self] at h
  rw [bind_eq_ok] at h
  obtain ⟨e, he, h⟩ := h
  rw [Tree.element_eq_ok] at he
  refine ⟨e, he, ?_⟩
  by_cases hdisabled : e.isDisabled = true
  · rw [if_pos hdisabled] at h
    cases h
    exact .disabled hdisabled
  · have hn : e.isDisabled = false := by simpa using hdisabled
    rw [if_neg hdisabled] at h
    rw [bind_eq_ok] at h
    obtain ⟨g, hg, h⟩ := h
    obtain ⟨-, rfl⟩ := Tree.radioGroup_eq_ok.mp hg
    rw [bind_eq_ok] at h
    obtain ⟨d₁, h₁, h⟩ := h
    rw [bind_eq_ok] at h
    obtain ⟨⟨proceed, d₂⟩, h₂, h⟩ := h
    dsimp only at h
    cases hc : e.isCheckable with
    | false =>
      rw [preactivate_of_not_isCheckable hc] at h₁
      obtain rfl : d = d₁ := Except.ok.inj h₁
      rw [if_pos (by rw [hc]; rfl)] at h
      cases h
      exact .plain hn hc h₂
    | true =>
      rw [preactivate_of_isCheckable hc] at h₁
      rw [if_neg (by rw [hc]; decide)] at h
      cases proceed with
      | false =>
        rw [if_pos (by decide)] at h
        rw [bind_eq_ok] at h
        obtain ⟨d₃, h₃, h⟩ := h
        cases h
        exact .cancelled hn hc h₁ h₂ h₃
      | true =>
        rw [if_neg (by decide)] at h
        rw [bind_eq_ok] at h
        obtain ⟨checked, -, h⟩ := h
        split at h
        next =>
          rw [bind_eq_ok] at h
          obtain ⟨d₃, h₃, h⟩ := h
          cases h
          exact .reported hn hc h₁ h₂ h₃
        next =>
          cases h
          exact .kept hn hc h₁ h₂

/-! ## What holds along a click -/

section Chain

variable {R : Document → Document → Prop} (hrefl : ∀ d, R d d)
  (htrans : ∀ {d d' d'' : Document}, R d d' → R d' d'' → R d d'')
  (hwrite : ∀ {d d' : Document} {r : NodeRef} {b : Bool}, d.setChecked r b = .ok d' → R d d')
  (hdispatch : ∀ {d d' : Document} {event : Event} {b : Bool},
    d.dispatch behaviour event = .ok (b, d') → R d d')

include htrans hwrite in
theorem chain_rollBack {previous : NodeRef} (h : d.rollBack r b previous = .ok d') : R d d' := by
  unfold rollBack at h
  rw [bind_eq_ok] at h
  obtain ⟨d₁, h₁, h⟩ := h
  cases previous with
  | none =>
    obtain rfl : d₁ = d' := Except.ok.inj h
    exact hwrite h₁
  | some p => exact htrans (hwrite h₁) (hwrite h)

include htrans hdispatch in
theorem chain_reportChangeBy (h : reportChangeBy (dispatch behaviour) d r = .ok d') : R d d' := by
  unfold reportChangeBy at h
  rw [bind_eq_ok] at h
  obtain ⟨⟨b₁, d₁⟩, h₁, h⟩ := h
  rw [bind_eq_ok] at h
  obtain ⟨⟨b₂, d₂⟩, h₂, h⟩ := h
  obtain rfl : d₂ = d' := Except.ok.inj h
  exact htrans (hdispatch h₁) (hdispatch h₂)

include hrefl htrans hwrite hdispatch in
/-- **A click is made of writes and dispatches**: what each of these relates, and what can be
chained, is related by every click. -/
theorem chain_click (h : d.click behaviour r = .ok (b, d')) : R d d' := by
  obtain ⟨e, -, hclick⟩ := exists_clicked h
  cases hclick with
  | disabled => exact hrefl d
  | plain hn hc hd => exact hdispatch hd
  | cancelled hn hc hw hd hr =>
    exact htrans (htrans (hwrite hw) (hdispatch hd)) (chain_rollBack htrans hwrite hr)
  | kept hn hc hw hd => exact htrans (hwrite hw) (hdispatch hd)
  | reported hn hc hw hd hr =>
    exact htrans (htrans (hwrite hw) (hdispatch hd)) (chain_reportChangeBy htrans hdispatch hr)

end Chain

/-! ## Putting back -/

theorem isCheckedAt_congr (h : d.SameContent d') (s : NodeRef) :
    d'.tree.isCheckedAt s = d.tree.isCheckedAt s := by
  have hany : ∀ o : Option Element,
      o.any Element.isChecked = (o.bind fun e => some e.isChecked).getD false := by
    intro o
    cases o <;> rfl
  unfold Tree.isCheckedAt
  rw [hany, hany, h.element_bind_eq fun _ => rfl]

theorem checked_congr (h : d.SameContent d') (s : NodeRef) :
    d'.tree.checked s = d.tree.checked s :=
  (Tree.checked_eq_iff h.sameFrame).mpr (isCheckedAt_congr h s)

theorem groupMembers_congr (h : d.SameContent d') (s : NodeRef) :
    d'.tree.groupMembers s = d.tree.groupMembers s :=
  Tree.groupMembers_congr h.sameFrame (funext fun _ => h.element_bind_eq fun _ => rfl)

theorem setChecked_eq_ok :
    d.setChecked r b = .ok d' ↔ ∃ t, d.tree.setChecked r b = .ok t ∧ d' = { d with tree := t } := by
  unfold setChecked
  rw [bind_eq_ok]
  constructor
  · rintro ⟨t, ht, hd⟩
    exact ⟨t, ht, (Except.ok.inj hd).symm⟩
  · rintro ⟨t, ht, rfl⟩
    exact ⟨t, ht, rfl⟩

/-- What the documents before and after have in common when controls were written in between. -/
structure SameGroups (d d' : Document) : Prop where
  frame : Tree.SameFrame d.tree d'.tree
  members : d'.tree.groupMembers = d.tree.groupMembers

theorem sameGroups_setChecked (h : d.setChecked r b = .ok d') : SameGroups d d' := by
  obtain ⟨t, ht, rfl⟩ := setChecked_eq_ok.mp h
  have hframe := Tree.sameFrame_setChecked ht
  exact ⟨hframe, funext fun _ =>
    Tree.groupMembers_congr hframe (Tree.radioNameAt?_setChecked ht)⟩

theorem isCheckedAt_setChecked (h : d.setChecked r b = .ok d') (s : NodeRef) :
    d'.tree.isCheckedAt s =
      if b = true ∧ s ∈ (d.tree.groupMembers r).map some then false
      else if s = r then b else d.tree.isCheckedAt s := by
  obtain ⟨t, ht, rfl⟩ := setChecked_eq_ok.mp h
  exact Tree.isCheckedAt_setChecked ht s

/-- **A control that is written and then written back** is as before, and so is everything outside
its group. In the group, what was not checked is not checked. -/
theorem isCheckedAt_writeBack {d₁ d₂ d₃ : Document} (hw : d.setChecked r b = .ok d₁)
    (hc : d₁.SameContent d₂) (hb : d₂.setChecked r (d.tree.isCheckedAt r) = .ok d₃) :
    (∀ s ∉ (d.tree.groupMembers r).map some, d₃.tree.isCheckedAt s = d.tree.isCheckedAt s) ∧
      ∀ s ∈ (d.tree.groupMembers r).map some, d.tree.isCheckedAt s = false →
        d₃.tree.isCheckedAt s = false := by
  have hmembers : d₂.tree.groupMembers r = d.tree.groupMembers r := by
    rw [groupMembers_congr hc, (sameGroups_setChecked hw).members]
  have hback := isCheckedAt_setChecked hb
  rw [hmembers] at hback
  have hwrite : ∀ s, d₂.tree.isCheckedAt s =
      if b = true ∧ s ∈ (d.tree.groupMembers r).map some then false
      else if s = r then b else d.tree.isCheckedAt s :=
    fun s => (isCheckedAt_congr hc s).trans (isCheckedAt_setChecked hw s)
  refine ⟨fun s hs => ?_, fun s hs hf => ?_⟩
  · have hgroup : ∀ b : Bool, ¬ (b = true ∧ s ∈ (d.tree.groupMembers r).map some) :=
      fun _ h => hs h.2
    rw [hback, if_neg (hgroup _)]
    by_cases hr : s = r
    · rw [if_pos hr, hr]
    · rw [if_neg hr, hwrite, if_neg (hgroup _), if_neg hr]
  · have hr : s ≠ r := by
      obtain ⟨id, hid, rfl⟩ := List.mem_map.mp hs
      exact (Tree.mem_groupMembers.mp hid).1
    rw [hback, if_neg hr, hwrite, if_neg hr, hf, ite_self, ite_self]

/-- Where `r` has no other member of its group checked, one at most is checked. -/
theorem exclusive_of_others_unchecked
    (h : ∀ id ∈ d.tree.groupMembers r, d.tree.isCheckedAt (some id) = false) :
    d.tree.Exclusive r := by
  have hself : ∀ id, d.tree.GroupMember r id → d.tree.isCheckedAt (some id) = true →
      some id = r := by
    intro id hm hci
    by_cases hr : some id = r
    · exact hr
    · rw [h id (Tree.mem_groupMembers.mpr ⟨hr, hm⟩)] at hci
      cases hci
  intro a a' ha ha' hca hca'
  exact Option.some.inj ((hself a ha hca).trans (hself a' ha' hca').symm)

/-- **A control that is written back, and then a member of its group that is checked again**: of the
group, just this member is checked, and everything else is as before. -/
theorem isCheckedAt_checkAgain (hd : d.tree.WellFormed) {d₁ d₂ d₃ : Document} {p : NodeId}
    (hw : d.setChecked r b = .ok d₁) (hc : d₁.SameContent d₂)
    (hb : d₂.setChecked r (d.tree.isCheckedAt r) = .ok d₃) (hp : d.tree.GroupMember r p)
    (hagain : d₃.setChecked (some p) true = .ok d') :
    (∀ id, d.tree.GroupMember r id → (d'.tree.isCheckedAt (some id) = true ↔ id = p)) ∧
      ∀ s, (∀ id, s = some id → ¬ d.tree.GroupMember r id) →
        d'.tree.isCheckedAt s = d.tree.isCheckedAt s := by
  have hmembers : d₃.tree.groupMembers (some p) = d.tree.groupMembers (some p) := by
    rw [(sameGroups_setChecked hb).members, groupMembers_congr hc,
      (sameGroups_setChecked hw).members]
  have hlast := isCheckedAt_setChecked hagain
  rw [hmembers] at hlast
  -- the group of `p` is that of `r`, so what is cleared are its members besides `p`
  have hother : ∀ id, some id ∈ (d.tree.groupMembers (some p)).map some ↔
      id ≠ p ∧ d.tree.GroupMember r id := by
    intro id
    have hmem : some id ∈ (d.tree.groupMembers (some p)).map some ↔
        id ∈ d.tree.groupMembers (some p) := by simp
    rw [hmem, Tree.mem_groupMembers, Tree.groupMember_of_groupMember hd hp]
    simp
  constructor
  · intro id hm
    rw [hlast]
    by_cases hid : id = p
    · subst hid
      rw [if_neg (fun h => ((hother id).mp h.2).1 rfl), if_pos rfl]
      simp
    · rw [if_pos ⟨rfl, (hother id).mpr ⟨hid, hm⟩⟩]
      simp [hid]
  · intro s hs
    have hnot : s ∉ (d.tree.groupMembers (some p)).map some := by
      intro hmem
      obtain ⟨id, -, rfl⟩ := List.mem_map.mp hmem
      exact hs id rfl ((hother id).mp hmem).2
    have hsp : s ≠ some p := fun he => hs p he hp
    rw [hlast, if_neg (fun h => hnot h.2), if_neg hsp]
    refine (isCheckedAt_writeBack hw hc hb).1 s fun hmem => ?_
    obtain ⟨id, hid, rfl⟩ := List.mem_map.mp hmem
    exact hs id rfl (Tree.mem_groupMembers.mp hid).2

/-- **What putting back restores**: everything, just if one member of the group at most was
checked. -/
theorem isCheckedAt_rollBack_iff (hd : d.tree.WellFormed) {d₁ d₂ : Document}
    (hw : d.setChecked r b = .ok d₁) (hc : d₁.SameContent d₂)
    (hb : d₂.rollBack r (d.tree.isCheckedAt r)
      ((d.tree.groupMembers r).find? fun id => d.tree.isCheckedAt (some id)) = .ok d') :
    (∀ s, d'.tree.isCheckedAt s = d.tree.isCheckedAt s) ↔ d.tree.Exclusive r := by
  unfold rollBack at hb
  rw [bind_eq_ok] at hb
  obtain ⟨d₃, h₃, hb⟩ := hb
  cases hp : (d.tree.groupMembers r).find? fun id => d.tree.isCheckedAt (some id) with
  | none =>
    -- no other member was checked, and writing back restores the rest
    rw [hp] at hb
    obtain rfl : d₃ = d' := Except.ok.inj hb
    have hnone : ∀ id ∈ d.tree.groupMembers r, d.tree.isCheckedAt (some id) = false := by
      intro id hid
      simpa using List.find?_eq_none.mp hp id hid
    refine ⟨fun _ => exclusive_of_others_unchecked hnone, fun _ s => ?_⟩
    obtain ⟨hout, hin⟩ := isCheckedAt_writeBack hw hc h₃
    by_cases hs : s ∈ (d.tree.groupMembers r).map some
    · have hf : d.tree.isCheckedAt s = false := by
        obtain ⟨id, hid, rfl⟩ := List.mem_map.mp hs
        exact hnone id hid
      rw [hf, hin s hs hf]
    · exact hout s hs
  | some p =>
    -- one other member was found checked, and is checked again
    rw [hp] at hb
    have hpm := (Tree.mem_groupMembers.mp (List.mem_of_find?_eq_some hp)).2
    have hpc : d.tree.isCheckedAt (some p) = true := by
      have hfound := List.find?_some hp
      exact hfound
    obtain ⟨hin, hout⟩ := isCheckedAt_checkAgain hd hw hc h₃ hpm hb
    constructor
    · intro hsame a a' ha ha' hca hca'
      have hap : a = p := (hin a ha).mp ((hsame _).trans hca)
      have hap' : a' = p := (hin a' ha').mp ((hsame _).trans hca')
      rw [hap, hap']
    · intro hexclusive s
      by_cases hs : ∃ id, s = some id ∧ d.tree.GroupMember r id
      · obtain ⟨id, rfl, hm⟩ := hs
        -- a member was checked just if it is `p`
        rw [Bool.eq_iff_iff, hin id hm]
        constructor
        · rintro rfl
          exact hpc
        · intro hci
          exact hexclusive id p hm hpm hci hpc
      · exact hout s fun id he hm => hs ⟨id, he, hm⟩

/-- An element that cannot be checked is in no group. -/
theorem exclusive_of_not_isCheckable (he : d.tree.element? r = some e)
    (hc : e.isCheckable = false) : d.tree.Exclusive r := by
  rintro a b' ⟨-, name, hr, -⟩
  have hname : e.radioName? = some name := by
    rw [Tree.radioNameAt?, he] at hr
    exact hr
  have hradio : e.isRadio = true := by
    unfold Element.radioName? at hname
    split at hname
    next h => exact h
    next => cases hname
  have htype : e.inputType? = some .radio := by simpa [Element.isRadio] using hradio
  rw [Element.isCheckable, htype] at hc
  cases hc

/-- The links stay as they are when a control is put back. -/
theorem sameFrame_rollBack {previous : NodeRef} (h : d.rollBack r b previous = .ok d') :
    Tree.SameFrame d.tree d'.tree :=
  chain_rollBack (R := fun d d' => Tree.SameFrame d.tree d'.tree) Tree.SameFrame.trans
    (fun hw => (sameGroups_setChecked hw).frame) h

end Document

/-- **When a click that does not go through leaves every control as it was**: the control is
disabled, or of its group, that is the radio buttons of its name below the root of its tree, one
member at most was checked. A control that is no radio button with a name has no group. -/
theorem checked_of_refused_click_iff {behaviour : Behaviour} {d d' : Document} {r : NodeRef}
    (hd : d.tree.WellFormed) (h : d.click behaviour r = .ok (false, d')) :
    (∀ n, d'.tree.checked (some n) = d.tree.checked (some n)) ↔
      (d.tree.element? r).any Element.isDisabled = true ∨ d.tree.Exclusive r := by
  obtain ⟨e, he, hclick⟩ := Document.exists_clicked h
  rw [he, Option.any_some]
  cases hclick with
  | disabled hdisabled => exact ⟨fun _ => .inl hdisabled, fun _ _ => rfl⟩
  | plain hn hc hdispatch =>
    have hsame := Document.sameContent_dispatch hdispatch
    refine ⟨fun _ => .inr (Document.exclusive_of_not_isCheckable he hc), fun _ n => ?_⟩
    exact (Tree.checked_eq_iff hsame.sameFrame).mpr (Document.isCheckedAt_congr hsame _)
  | @cancelled d₁ d₂ _ hn hc hw hdispatch hroll =>
    have hsame := Document.sameContent_dispatch hdispatch
    have hframe : Tree.SameFrame d.tree d'.tree :=
      ((Document.sameGroups_setChecked hw).frame.trans hsame.sameFrame).trans
        (Document.sameFrame_rollBack hroll)
    have hchecked : e.isChecked = d.tree.isCheckedAt r := by
      rw [Tree.isCheckedAt, he, Option.any_some]
    rw [hchecked] at hroll
    have hiff := Document.isCheckedAt_rollBack_iff hd hw hsame hroll
    have hnone : d'.tree.isCheckedAt none = d.tree.isCheckedAt none := rfl
    calc (∀ n, d'.tree.checked (some n) = d.tree.checked (some n))
        ↔ ∀ n, d'.tree.isCheckedAt (some n) = d.tree.isCheckedAt (some n) :=
          forall_congr' fun n => Tree.checked_eq_iff hframe
      _ ↔ ∀ s, d'.tree.isCheckedAt s = d.tree.isCheckedAt s :=
          ⟨fun hs s => by cases s with
            | none => exact hnone
            | some n => exact hs n, fun hs n => hs (some n)⟩
      _ ↔ d.tree.Exclusive r := hiff
      _ ↔ e.isDisabled = true ∨ d.tree.Exclusive r := by simp [hn]

/-- Three radio buttons of one group. The first two are checked; the last hears of clicks. -/
def Document.threeRadios : Document where
  tree :=
    (stateAfter (Tree.loadAll true (some documentNode)
      [.element "input" [("type", "radio"), ("name", "size"), ("checked", "")] [],
        .element "input" [("type", "radio"), ("name", "size"), ("checked", "")] [],
        .element "input" [("type", "radio"), ("name", "size")] []]) .empty).setElement 3
      { Element.ofMarkup "input" [("type", "radio"), ("name", "size")] with
        listeners := (Listeners.empty.add "click" ⟨0⟩ {}).2 }
  url := "about:blank"

/-- The last radio button is clicked and the default is prevented: of the two that were checked, one
is not. -/
theorem checked_of_refused_click_threeRadios :
    let d := Document.threeRadios
    let behaviour : Behaviour := fun _ _ => [.preventDefault]
    d.tree.WellFormed ∧ ∃ d', d.click behaviour (some 3) = .ok (false, d') ∧
      ((∀ n, d'.tree.checked (some n) = d.tree.checked (some n)) ↔
        (d.tree.element? (some 3)).any Element.isDisabled = true ∨ d.tree.Exclusive (some 3)) ∧
      ¬ ∀ n, d'.tree.checked (some n) = d.tree.checked (some n) := by
  intro d behaviour
  have hd : d.tree.WellFormed := by
    refine (Tree.sameFrame_setElement (by decide +kernel)).wellFormed ?_
    exact Tree.keeps_loadAll Tree.WellFormed.addBelow true (some documentNode) _ _
      Tree.wellFormed_empty
  have hclick : (d.click behaviour (some 3)).toOption.map Prod.fst = some false := by
    decide +kernel
  obtain ⟨⟨b, d'⟩, hsome, hb⟩ := Option.map_eq_some_iff.mp hclick
  obtain rfl : b = false := hb
  have h : d.click behaviour (some 3) = .ok (false, d') := by
    cases hr : d.click behaviour (some 3) with
    | error e =>
      rw [hr] at hsome
      cases hsome
    | ok result =>
      rw [hr] at hsome
      rw [Option.some.inj hsome]
  have hiff := checked_of_refused_click_iff hd h
  refine ⟨hd, d', h, hiff, fun hsame => ?_⟩
  rcases hiff.mp hsame with hdisabled | hexclusive
  · revert hdisabled
    decide +kernel
  · have hfirst : d.tree.GroupMember (some 3) 1 :=
      ⟨by decide +kernel, "size", by decide +kernel, by decide +kernel⟩
    have hsecond : d.tree.GroupMember (some 3) 2 :=
      ⟨by decide +kernel, "size", by decide +kernel, by decide +kernel⟩
    have heq : (1 : NodeId) = 2 :=
      hexclusive 1 2 hfirst hsecond (by decide +kernel) (by decide +kernel)
    revert heq
    decide

end WebPage
