import WebPage.Form.Value
import WebPage.Proofs.Attributes
import WebPage.Proofs.Document.Activation
import WebPage.Proofs.Tree.Preorder

/-!
# Groups of radio buttons

Two radio buttons are in one group if they have the same name and their trees have the same root.
The members that are cleared when one of them is checked are found by a walk down from that root,
and the walk does not visit the root. So one member may be left out: the root itself, where it is a
radio button of that name. The members below the root exclude each other, and that lasts whatever
is written to controls and clicked.

## Main definitions

* `Tree.InGroup`, `Tree.SameGroup`: the groups
* `Tree.ExclusiveGroup`: of a whole group one member at most is checked
* `Tree.KeepsGroups t t'`: the groups are the same, and the members below a root that excluded each
  other still do

## Main results

* `Tree.WellFormed.groupMember_iff`: the members that are cleared are those with a parent
* `Tree.setChecked_member`: what checking a control does to its group and to all others
* `Tree.keepsGroups_setChecked`, `Tree.keepsGroups_setValue`, `Document.keepsGroups_click`: the
  members below a root go on excluding each other
-/

namespace WebPage

namespace Tree

variable {t t' t'' : Tree} {a b m n r : NodeId} {s : NodeRef} {name : String} {e : Element}
  {checked : Bool}

/-! ## Groups and the members that are cleared -/

/-- A radio button with a name, which is not empty, in a tree with this root. -/
structure InGroup (t : Tree) (root : NodeRef) (name : String) (id : NodeId) : Prop where
  radio : ∃ e, t.element? (some id) = some e ∧ e.isRadio = true ∧
    e.attributes.get? "name" = some name
  named : name ≠ ""
  root : t.treeRoot (some id) = root

/-- Two radio buttons are in one group. -/
def SameGroup (t : Tree) (a b : NodeId) : Prop :=
  ∃ root name, t.InGroup root name a ∧ t.InGroup root name b

/-- Of the group of `r`, one member at most is checked. -/
def ExclusiveGroup (t : Tree) (r : NodeId) : Prop :=
  ∀ a b, t.SameGroup r a → t.SameGroup r b → t.checked (some a) = .ok true →
    t.checked (some b) = .ok true → a = b

theorem InGroup.isElement {root : NodeRef} (h : t.InGroup root name a) :
    t.isElement (some a) = true := by
  obtain ⟨e, he, -⟩ := h.radio
  exact isElement_of_element? he

theorem radioNameAt?_eq_some_iff :
    t.radioNameAt? (some a) = some name ↔
      (∃ e, t.element? (some a) = some e ∧ e.isRadio = true ∧
        e.attributes.get? "name" = some name) ∧ name ≠ "" := by
  have hname : ∀ e : Element, e.radioName? = some name ↔
      (e.isRadio = true ∧ e.attributes.get? "name" = some name) ∧ name ≠ "" := by
    intro e
    unfold Element.radioName?
    split
    next hr => simp [hr, Option.filter_eq_some_iff]
    next hr => simp [hr]
  rw [radioNameAt?, Option.bind_eq_some_iff]
  constructor
  · rintro ⟨e, he, hn⟩
    exact ⟨⟨e, he, ((hname e).mp hn).1⟩, ((hname e).mp hn).2⟩
  · rintro ⟨⟨e, he, hn⟩, hne⟩
    exact ⟨e, he, (hname e).mpr ⟨hn, hne⟩⟩

theorem sameGroup_iff :
    t.SameGroup a b ↔ (∃ name, t.radioNameAt? (some a) = some name ∧
      t.radioNameAt? (some b) = some name) ∧ t.treeRoot (some b) = t.treeRoot (some a) := by
  constructor
  · rintro ⟨root, name, ha, hb⟩
    exact ⟨⟨name, radioNameAt?_eq_some_iff.mpr ⟨ha.radio, ha.named⟩,
      radioNameAt?_eq_some_iff.mpr ⟨hb.radio, hb.named⟩⟩, hb.root.trans ha.root.symm⟩
  · rintro ⟨⟨name, ha, hb⟩, hroot⟩
    obtain ⟨ha, hne⟩ := radioNameAt?_eq_some_iff.mp ha
    exact ⟨_, name, ⟨ha, hne, rfl⟩, ⟨(radioNameAt?_eq_some_iff.mp hb).1, hne, hroot⟩⟩

theorem SameGroup.symm (h : t.SameGroup a b) : t.SameGroup b a := by
  obtain ⟨root, name, ha, hb⟩ := h
  exact ⟨root, name, hb, ha⟩

/-- Two members of one group are in one group with each other. -/
theorem SameGroup.of_common (ha : t.SameGroup r a) (hb : t.SameGroup r b) : t.SameGroup a b := by
  rw [sameGroup_iff] at *
  obtain ⟨⟨name, hr, ha⟩, hra⟩ := ha
  obtain ⟨⟨name', hr', hb⟩, hrb⟩ := hb
  obtain rfl : name = name' := Option.some.inj (hr.symm.trans hr')
  exact ⟨⟨name, ha, hb⟩, hrb.trans hra.symm⟩

/-- **The members of a group that a walk down from the root finds are those with a parent**, which
is all of them but the root itself. -/
theorem WellFormed.groupMember_iff (h : t.WellFormed) :
    t.GroupMember (some r) m ↔ t.SameGroup r m ∧ t.parent (some m) ≠ none := by
  unfold GroupMember
  rw [h.mem_descendants_treeRoot_iff, sameGroup_iff]
  constructor
  · rintro ⟨⟨hroot, hp⟩, hname⟩
    exact ⟨⟨hname, hroot⟩, hp⟩
  · rintro ⟨⟨hname, hroot⟩, hp⟩
    exact ⟨⟨hroot, hp⟩, hname⟩

theorem checked_eq_ok_true_iff : t.checked s = .ok true ↔ t.isCheckedAt s = true := by
  unfold Tree.checked isCheckedAt
  rw [bind_eq_ok]
  constructor
  · rintro ⟨e, he, hc⟩
    rw [element_eq_ok.mp he]
    exact Except.ok.inj hc
  · intro hc
    cases he : t.element? s with
    | none =>
      rw [he] at hc
      cases hc
    | some e =>
      rw [he] at hc
      exact ⟨e, element_eq_ok.mpr he, congrArg Except.ok hc⟩

/-- A whole group with one member checked at most has one checked at most below the root. -/
theorem WellFormed.exclusive_of_exclusiveGroup (h : t.WellFormed) (hx : t.ExclusiveGroup r) :
    t.Exclusive (some r) := by
  intro a b ha hb hca hcb
  rw [h.groupMember_iff] at ha hb
  exact hx a b ha.1 hb.1 (checked_eq_ok_true_iff.mpr hca) (checked_eq_ok_true_iff.mpr hcb)

/-! ## Checking a control -/

theorem exists_writeChecked (h : t.isElement (some a) = true) (checked : Bool) :
    ∃ t', t.writeChecked (some a) checked = .ok t' := by
  obtain ⟨e, he⟩ := Option.isSome_iff_exists.mp h
  exact ⟨_, modifyElement_eq_ok.mpr ⟨a, e, rfl, he, rfl⟩⟩

/-- Elements can be written one after another. -/
theorem exists_foldlM_writeChecked {ids : List NodeId}
    (h : ∀ id ∈ ids, t.isElement (some id) = true) :
    ∃ t', ids.foldlM (fun t other => t.writeChecked (some other) false) t = .ok t' := by
  induction ids generalizing t with
  | nil => exact ⟨t, rfl⟩
  | cons id ids ih =>
    obtain ⟨hid, hids⟩ := List.forall_mem_cons.mp h
    obtain ⟨t₁, h₁⟩ := exists_writeChecked hid false
    rw [← (sameFrame_writeChecked h₁).isElement_eq] at hids
    obtain ⟨t', h'⟩ := ih hids
    exact ⟨t', by rw [List.foldlM_cons, h₁]; exact h'⟩

/-- Every element can be checked and unchecked. -/
theorem exists_setChecked (h : t.isElement (some r) = true) (checked : Bool) :
    ∃ t', t.setChecked (some r) checked = .ok t' := by
  obtain ⟨t₁, h₁⟩ := exists_writeChecked h checked
  have hmembers : ∀ id ∈ (if checked then t.groupMembers (some r) else []),
      t₁.isElement (some id) = true := by
    intro id hid
    rw [(sameFrame_writeChecked h₁).isElement_eq]
    cases checked with
    | false => cases hid
    | true =>
      obtain ⟨-, -, name, -, hn⟩ := mem_groupMembers.mp hid
      exact Option.isSome_of_isSome_bind (Option.isSome_iff_exists.mpr ⟨name, hn⟩)
  obtain ⟨t', h'⟩ := exists_foldlM_writeChecked hmembers
  exact ⟨t', setChecked_eq_ok.mpr ⟨t₁, h₁, h'⟩⟩

/-- **What checking a control does**: it is checked, the members of its group with a parent are not,
a member without parent stays as it was, and so does every other element. -/
theorem setChecked_member (h : t.WellFormed) (ht : t.setChecked (some r) true = .ok t') :
    t'.checked (some r) = .ok true ∧
      (∀ m, m ≠ r → t.SameGroup r m →
        (t'.checked (some m) = .ok true ↔
          t.checked (some m) = .ok true ∧ t.parent (some m) = none)) ∧
      ∀ n, n ≠ r → ¬ t.SameGroup r n → t'.element? (some n) = t.element? (some n) := by
  have hmem : ∀ m, some m ∈ (t.groupMembers (some r)).map some ↔
      m ≠ r ∧ t.SameGroup r m ∧ t.parent (some m) ≠ none := by
    intro m
    have hsome : some m ∈ (t.groupMembers (some r)).map some ↔
        m ∈ t.groupMembers (some r) := by simp
    rw [hsome, mem_groupMembers, h.groupMember_iff]
    simp
  simp only [checked_eq_ok_true_iff]
  refine ⟨?_, fun m hm hg => ?_, fun n hn hg => ?_⟩
  · rw [isCheckedAt_setChecked ht, if_neg fun hr => ((hmem r).mp hr.2).1 rfl, if_pos rfl]
  · have hr : (some m : NodeRef) ≠ some r := fun he => hm (Option.some.inj he)
    rw [isCheckedAt_setChecked ht, if_neg hr]
    by_cases hp : t.parent (some m) = none
    · rw [if_neg fun hc => ((hmem m).mp hc.2).2.2 hp]
      simp [hp]
    · rw [if_pos ⟨rfl, (hmem m).mpr ⟨hm, hg, hp⟩⟩]
      simp [hp]
  · have hr : (some n : NodeRef) ≠ some r := fun he => hn (Option.some.inj he)
    have hn : ¬ (true = true ∧ some n ∈ (t.groupMembers (some r)).map some) :=
      fun hc => hg ((hmem n).mp hc.2).2.1
    rw [element?_setChecked ht]
    cases t.element? (some n) with
    | none => rfl
    | some e => rw [Option.map_some, if_neg hn, if_neg hr]

/-! ## What the members below a root keep -/

theorem groupMember_congr (hf : SameFrame t t') (hn : t'.radioNameAt? = t.radioNameAt?) :
    t'.GroupMember s m ↔ t.GroupMember s m := by
  unfold GroupMember
  rw [hf.descendants_eq, hf.treeRoot_eq, hn]

/-- The groups of a tree are those of another one, and where of the members below a root one at most
was checked, this is still so. -/
structure KeepsGroups (t t' : Tree) : Prop where
  frame : SameFrame t t'
  names : t'.radioNameAt? = t.radioNameAt?
  exclusive : ∀ s, t.Exclusive s → t'.Exclusive s

namespace KeepsGroups

theorem refl (t : Tree) : KeepsGroups t t := ⟨.refl t, rfl, fun _ h => h⟩

theorem trans (h : KeepsGroups t t') (h' : KeepsGroups t' t'') : KeepsGroups t t'' :=
  ⟨h.frame.trans h'.frame, h'.names.trans h.names, fun s hs => h'.exclusive s (h.exclusive s hs)⟩

theorem groupMember_iff (hk : KeepsGroups t t') (h : t.WellFormed) :
    t'.GroupMember (some r) m ↔ t.SameGroup r m ∧ t.parent (some m) ≠ none := by
  rw [groupMember_congr hk.frame hk.names, h.groupMember_iff]

theorem sameGroup_iff (h : KeepsGroups t t') : t'.SameGroup a b ↔ t.SameGroup a b := by
  rw [Tree.sameGroup_iff, Tree.sameGroup_iff, h.frame.treeRoot_eq, h.names]

/-- Where no radio button of a group becomes checked, the groups are kept. -/
theorem of_checked (hf : SameFrame t t') (hn : t'.radioNameAt? = t.radioNameAt?)
    (hc : ∀ id name, t.radioNameAt? (some id) = some name → t'.isCheckedAt (some id) = true →
      t.isCheckedAt (some id) = true) : KeepsGroups t t' := by
  refine ⟨hf, hn, fun s hs a b ha hb hca hcb => ?_⟩
  rw [groupMember_congr hf hn] at ha hb
  obtain ⟨_, -, hna⟩ := ha.2
  obtain ⟨_, -, hnb⟩ := hb.2
  exact hs a b ha hb (hc a _ hna hca) (hc b _ hnb hcb)

end KeepsGroups

/-- A change of one element keeps the groups if it leaves the name of a radio button alone and
checks none. -/
theorem keepsGroups_modifyElement {f : Element → Element} (h : t.modifyElement s f = .ok t')
    (hf : ∀ e, t.element? s = some e → (f e).radioName? = e.radioName? ∧
      (e.radioName?.isSome → (f e).isChecked = true → e.isChecked = true)) :
    KeepsGroups t t' := by
  obtain ⟨id, e, rfl, he, rfl⟩ := modifyElement_eq_ok.mp h
  obtain ⟨hname, hchecked⟩ := hf e he
  have hel := isElement_of_element? he
  refine .of_checked (sameFrame_setElement hel) (funext fun s => ?_) fun n name hn hc => ?_
  · rw [radioNameAt?, radioNameAt?, element?_setElement hel]
    split
    next hs => rw [hs, he, Option.bind_some, Option.bind_some, hname]
    next => rfl
  · rw [isCheckedAt, element?_setElement hel] at hc
    split at hc
    next hs =>
      rw [hs, radioNameAt?, he, Option.bind_some] at hn
      rw [hs, isCheckedAt, he]
      exact hchecked (by rw [hn]; rfl) hc
    next => exact hc

/-- **Checking or unchecking any control keeps the groups.** What is checked is alone among the
members below the root of its group, and no other group is changed. -/
theorem keepsGroups_setChecked (h : t.WellFormed) (ht : t.setChecked s checked = .ok t') :
    KeepsGroups t t' := by
  have hcheckedAt := isCheckedAt_setChecked ht
  refine ⟨sameFrame_setChecked ht, radioNameAt?_setChecked ht, fun u hu a b ha hb hca hcb => ?_⟩
  rw [groupMember_congr (sameFrame_setChecked ht) (radioNameAt?_setChecked ht)] at ha hb
  -- a member that is checked now was checked, or it is the control that was written
  have hcases : ∀ {id}, t'.isCheckedAt (some id) = true →
      ¬ (checked = true ∧ some id ∈ (t.groupMembers s).map some) ∧
        ((some id = s ∧ checked = true) ∨ t.isCheckedAt (some id) = true) := by
    intro id hc
    rw [hcheckedAt] at hc
    split at hc
    next => cases hc
    next hnot =>
      refine ⟨hnot, ?_⟩
      split at hc
      next hs => exact .inl ⟨hs, hc⟩
      next => exact .inr hc
  -- of two members, the one that was written excludes the other
  have hwritten : ∀ {x y}, t.GroupMember u x → t.GroupMember u y → some x = s →
      checked = true → t'.isCheckedAt (some y) = true → x = y := by
    rintro x y hx hy rfl hb hcy
    by_cases hxy : x = y
    · exact hxy
    · refine absurd ⟨hb, List.mem_map.mpr ⟨y, mem_groupMembers.mpr ⟨?_, ?_⟩, rfl⟩⟩ (hcases hcy).1
      · exact fun he => hxy (Option.some.inj he).symm
      · exact (groupMember_of_groupMember h hx).mpr hy
  rcases (hcases hca).2 with ⟨has, hchecked⟩ | hca'
  · exact hwritten ha hb has hchecked hcb
  · rcases (hcases hcb).2 with ⟨hbs, hchecked⟩ | hcb'
    · exact (hwritten hb ha hbs hchecked hca).symm
    · exact hu a b ha hb hca' hcb'

/-- Selecting options keeps the groups: an option is no radio button. -/
theorem keepsGroups_selectValue {value : String} {ids : List NodeId} {found : Bool}
    (h : selectValue value ids found t = .ok t')
    (hids : ∀ id ∈ ids, t.hasTag "option" (some id) = true) : KeepsGroups t t' := by
  induction ids generalizing t found with
  | nil =>
    obtain rfl : t = t' := Except.ok.inj h
    exact .refl t
  | cons id ids ih =>
    rw [selectValue, bind_eq_ok] at h
    obtain ⟨v, -, h⟩ := h
    rw [bind_eq_ok] at h
    obtain ⟨t₁, h₁, h⟩ := h
    obtain ⟨hid, hids⟩ := List.forall_mem_cons.mp hids
    have hnone : ∀ e, t.element? (some id) = some e → e.radioName? = none := by
      intro e he
      have htag : e.tag = "option" := by
        rw [hasTag, he] at hid
        exact beq_iff_eq.mp hid
      unfold Element.radioName? Element.isRadio Element.inputType?
      rw [htag]
      rfl
    refine (keepsGroups_modifyElement h₁ fun e he => ⟨rfl, fun hs => ?_⟩).trans (ih h ?_)
    · rw [hnone e he] at hs
      cases hs
    · -- writing leaves the tags alone
      intro other hother
      have htag := hids other hother
      rw [hasTag] at htag ⊢
      rw [element?_writeChecked h₁]
      cases ho : t.element? (some other) with
      | none =>
        rw [ho] at htag
        cases htag
      | some e =>
        rw [ho] at htag
        rw [Option.map_some]
        split <;> exact htag

/-- **Writing the value of any control keeps the groups.** -/
theorem keepsGroups_setValue {value : String} (h : t.setValue s value = .ok t') :
    KeepsGroups t t' := by
  unfold setValue at h
  rw [bind_eq_ok] at h
  obtain ⟨e, -, h⟩ := h
  split at h
  · -- the attribute is none of those that say what a radio button is, and whether it is checked
    refine keepsGroups_modifyElement h fun e he => ?_
    have hget : ∀ name, Text.equalsIgnoringCase "value" name = false →
        (e.setAttribute "value" value).attributes.get? name = e.attributes.get? name := by
      intro name hname
      rw [Element.setAttribute, Attributes.get?_insert, hname, if_neg (by decide)]
    constructor
    · unfold Element.radioName? Element.isRadio Element.inputType?
      rw [hget "type" (by decide), hget "name" (by decide)]
      rfl
    · intro _ hc
      unfold Element.isChecked at hc ⊢
      have hother : Text.equalsIgnoringCase "value"
          (if e.tag = "option" then "selected" else "checked") = false := by
        split <;> decide
      rwa [Element.setAttribute, Attributes.contains_insert, hother, Bool.or_false] at hc
  · split at h
    · exact keepsGroups_selectValue h fun id hid => (List.mem_filter.mp hid).2
    · exact keepsGroups_modifyElement h fun e _ => ⟨rfl, fun _ hc => hc⟩

end Tree

namespace Document

variable {behaviour : Behaviour} {d d' : Document} {s previous : NodeRef} {b checked : Bool}

theorem keepsGroups_of_sameContent (h : d.SameContent d') : Tree.KeepsGroups d.tree d'.tree := by
  refine .of_checked h.sameFrame (funext fun _ => h.element_bind_eq fun _ => rfl) ?_
  intro id name _ hc
  rwa [isCheckedAt_congr h] at hc

theorem keepsGroups_dispatch {event : Event} (h : d.dispatch behaviour event = .ok (b, d')) :
    Tree.KeepsGroups d.tree d'.tree :=
  keepsGroups_of_sameContent (sameContent_dispatch h)

theorem keepsGroups_setChecked (hd : d.tree.WellFormed) (h : d.setChecked s checked = .ok d') :
    Tree.KeepsGroups d.tree d'.tree := by
  obtain ⟨t, ht, rfl⟩ := setChecked_eq_ok.mp h
  exact Tree.keepsGroups_setChecked hd ht

/-- **A click keeps the groups**, whether it goes through or is taken back. -/
theorem keepsGroups_click (hd : d.tree.WellFormed) (h : d.click behaviour s = .ok (b, d')) :
    Tree.KeepsGroups d.tree d'.tree := by
  refine chain_click (R := fun d d' => d.tree.WellFormed → Tree.KeepsGroups d.tree d'.tree)
    (fun d _ => .refl d.tree) (fun h h' hd => ?_) (fun hw hd => keepsGroups_setChecked hd hw)
    (fun hdispatch _ => keepsGroups_dispatch hdispatch) h hd
  exact (h hd).trans (h' ((h hd).frame.wellFormed hd))

end Document

end WebPage
