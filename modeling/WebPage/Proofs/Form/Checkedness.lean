import WebPage.Form.Checkedness
import WebPage.Proofs.Tree.Frame
import WebPage.Proofs.Tree.Roots

/-!
# Writing the checkedness of controls

Writing a control changes what it shows and nothing else of the tree. Checking a radio button writes
the other members of its group too. The group is read off the names of the radio buttons and the
links of the tree, so it stays the same while its members are written.

## Main definitions

* `Tree.radioNameAt?`: the group name of the radio button that a reference names
* `Tree.groupMembers`: the other members of its group
* `Tree.GroupMember`, `Tree.Exclusive`: the members of the group below the root of its tree, and
  that one of them at most is checked

## Main results

* `Tree.radioGroup_eq_ok`: the group is the list of the other members
* `Tree.element?_setChecked`: what each element is after a control was written
* `Tree.isCheckedAt_setChecked`: which controls are checked then
* `Tree.checked_setChecked_self`: a control is read as it was written
* `Tree.groupMember_of_groupMember`: members of a group have the same group
-/

namespace WebPage

theorem Element.isChecked_writeChecked (e : Element) (b : Bool) :
    (e.writeChecked b).isChecked = b := rfl

namespace Tree

variable {t t' : Tree} {r s : NodeRef} {b : Bool} {ids g : List NodeId}

/-- The group name of the radio button that a reference names. -/
def radioNameAt? (t : Tree) (r : NodeRef) : Option String :=
  (t.element? r).bind Element.radioName?

/-- The other members of the group of a radio button. -/
def groupMembers (t : Tree) (r : NodeRef) : List NodeId :=
  match t.radioNameAt? r with
  | none => []
  | some name =>
    (t.descendants (t.treeRoot r)).filter fun other =>
      some other != r && t.radioNameAt? (some other) == some name

/-- **The group is the list of the other members.** -/
theorem radioGroup_eq_ok :
    t.radioGroup r = .ok g ↔ t.isElement r = true ∧ g = t.groupMembers r := by
  have hname : ∀ (o : Option Element) (name : String),
      (o.any fun e => e.radioName? == some name) = (o.bind Element.radioName? == some name) := by
    intro o name
    cases o <;> rfl
  unfold radioGroup groupMembers
  rw [bind_eq_ok]
  constructor
  · rintro ⟨e, he, hg⟩
    rw [element_eq_ok] at he
    refine ⟨isElement_of_element? he, ?_⟩
    have hn : t.radioNameAt? r = e.radioName? := by rw [radioNameAt?, he]; rfl
    rw [hn]
    cases hr : e.radioName? with
    | none =>
      rw [hr] at hg
      exact (Except.ok.inj hg).symm
    | some name =>
      rw [hr] at hg
      simp only [hname] at hg
      exact (Except.ok.inj hg).symm
  · rintro ⟨he, rfl⟩
    obtain ⟨e, he⟩ := Option.isSome_iff_exists.mp he
    refine ⟨e, element_eq_ok.mpr he, ?_⟩
    have hn : t.radioNameAt? r = e.radioName? := by rw [radioNameAt?, he]; rfl
    rw [hn]
    cases e.radioName? with
    | none => rfl
    | some name =>
      simp only [hname]
      rfl

theorem groupMembers_congr (hf : SameFrame t t') (hn : t'.radioNameAt? = t.radioNameAt?) :
    t'.groupMembers r = t.groupMembers r := by
  unfold groupMembers
  rw [hn, hf.descendants_eq, hf.treeRoot_eq]

/-- A radio button below the root of the tree of `r`, with the group name of `r`. -/
def GroupMember (t : Tree) (r : NodeRef) (id : NodeId) : Prop :=
  id ∈ t.descendants (t.treeRoot r) ∧
    ∃ name, t.radioNameAt? r = some name ∧ t.radioNameAt? (some id) = some name

/-- Of the members of the group of `r`, one at most is checked. -/
def Exclusive (t : Tree) (r : NodeRef) : Prop :=
  ∀ a b, t.GroupMember r a → t.GroupMember r b → t.isCheckedAt (some a) = true →
    t.isCheckedAt (some b) = true → a = b

theorem mem_groupMembers {id : NodeId} :
    id ∈ t.groupMembers r ↔ some id ≠ r ∧ t.GroupMember r id := by
  unfold groupMembers GroupMember
  cases hn : t.radioNameAt? r with
  | none => simp
  | some name =>
    simp only [List.mem_filter, Bool.and_eq_true, bne_iff_ne, beq_iff_eq, Option.some.injEq,
      exists_eq_left']
    constructor
    · rintro ⟨hd, hr, hm⟩
      exact ⟨hr, hd, hm⟩
    · rintro ⟨hr, hd, hm⟩
      exact ⟨hd, hr, hm⟩

/-- **Members of a group have the same group.** -/
theorem groupMember_of_groupMember (h : t.WellFormed) {p id : NodeId} (hp : t.GroupMember r p) :
    t.GroupMember (some p) id ↔ t.GroupMember r id := by
  obtain ⟨hd, name, hr, hn⟩ := hp
  have hroot : t.treeRoot (some p) = t.treeRoot r := h.treeRoot_of_mem_descendants hd
  unfold GroupMember
  rw [hroot, hr, hn]

theorem checked_of_element? {e : Element} (he : t.element? r = some e) :
    t.checked r = .ok e.isChecked := by
  unfold checked
  rw [element_eq_ok.mpr he]
  rfl

/-- A frame and the checked controls say what is read of each. -/
theorem checked_eq_iff (hf : SameFrame t t') :
    t'.checked r = t.checked r ↔ t'.isCheckedAt r = t.isCheckedAt r := by
  have hkind : (t'.node? r).map (fun n => n.data.kind) = (t.node? r).map fun n => n.data.kind :=
    congrFun hf.kind? r
  unfold checked isCheckedAt element element?
  -- a node of the same kind is an element in both trees, or in both the same failure
  cases hn : t.node? r with
  | none =>
    cases hn' : t'.node? r with
    | none => exact ⟨fun _ => rfl, fun _ => rfl⟩
    | some n' => simp [hn, hn'] at hkind
  | some n =>
    cases hn' : t'.node? r with
    | none => simp [hn, hn'] at hkind
    | some n' =>
      have hdata : n'.data.kind = n.data.kind := by simpa [hn, hn'] using hkind
      cases hd : n.data <;> cases hd' : n'.data <;>
        simp_all [NodeData.kind, Node.element?, bind, Except.bind, pure, Except.pure]

/-! ## Writing one control -/

theorem element?_writeChecked (h : t.writeChecked r b = .ok t') (s : NodeRef) :
    t'.element? s =
      (t.element? s).map fun e => if s = r then e.writeChecked b else e := by
  obtain ⟨id, e, rfl, he, rfl⟩ := modifyElement_eq_ok.mp h
  rw [element?_setElement (isElement_of_element? he)]
  split
  next hs =>
    subst hs
    simp [he]
  next => simp

theorem sameFrame_writeChecked (h : t.writeChecked r b = .ok t') : SameFrame t t' := by
  obtain ⟨id, e, rfl, he, rfl⟩ := modifyElement_eq_ok.mp h
  exact sameFrame_setElement (isElement_of_element? he)

/-- Clearing some controls one after another. -/
theorem element?_foldlM_writeChecked
    (h : ids.foldlM (fun t other => t.writeChecked (some other) false) t = .ok t') (s : NodeRef) :
    t'.element? s =
      (t.element? s).map fun e => if s ∈ ids.map some then e.writeChecked false else e := by
  induction ids generalizing t with
  | nil =>
    cases h
    simp
  | cons id ids ih =>
    rw [List.foldlM_cons] at h
    obtain ⟨t₁, h₁, h⟩ := bind_eq_ok.mp h
    rw [ih h, element?_writeChecked h₁, Option.map_map]
    refine Option.map_congr fun e _ => ?_
    -- a control may be met twice; it is cleared once and for all
    by_cases hs : s = some id <;> by_cases hm : s ∈ ids.map some <;>
      simp [hs, hm, Element.writeChecked]

theorem sameFrame_foldlM_writeChecked
    (h : ids.foldlM (fun t other => t.writeChecked (some other) false) t = .ok t') :
    SameFrame t t' := by
  induction ids generalizing t with
  | nil =>
    cases h
    exact .refl _
  | cons id ids ih =>
    rw [List.foldlM_cons] at h
    obtain ⟨t₁, h₁, h⟩ := bind_eq_ok.mp h
    exact (sameFrame_writeChecked h₁).trans (ih h)

/-! ## Writing a control and its group -/

/-- The parts of writing a control: its own part and, where it is checked, that of its group. -/
theorem setChecked_eq_ok :
    t.setChecked r b = .ok t' ↔
      ∃ t₁, t.writeChecked r b = .ok t₁ ∧
        (if b then t.groupMembers r else []).foldlM
          (fun t other => t.writeChecked (some other) false) t₁ = .ok t' := by
  unfold setChecked
  rw [bind_eq_ok]
  refine exists_congr fun t₁ => and_congr_right fun h₁ => ?_
  have hnames : t₁.radioNameAt? = t.radioNameAt? := by
    funext s
    unfold radioNameAt?
    rw [element?_writeChecked h₁, Option.bind_map]
    congr 1
    funext e
    rw [Function.comp_apply]
    split <;> rfl
  have hframe := sameFrame_writeChecked h₁
  have hgroup : t₁.radioGroup r = .ok (t.groupMembers r) := by
    obtain ⟨id, e, rfl, he, -⟩ := modifyElement_eq_ok.mp h₁
    refine radioGroup_eq_ok.mpr ⟨?_, (groupMembers_congr hframe hnames).symm⟩
    rw [hframe.isElement_eq]
    exact isElement_of_element? he
  cases b with
  | false => exact Iff.rfl
  | true =>
    rw [if_pos rfl, if_pos rfl, hgroup]
    exact Iff.rfl

theorem sameFrame_setChecked (h : t.setChecked r b = .ok t') : SameFrame t t' := by
  obtain ⟨t₁, h₁, h⟩ := setChecked_eq_ok.mp h
  exact (sameFrame_writeChecked h₁).trans (sameFrame_foldlM_writeChecked h)

/-- **What each element is after a control was written**: the control is written, and if it was
checked, the other members of its group are cleared. -/
theorem element?_setChecked (h : t.setChecked r b = .ok t') (s : NodeRef) :
    t'.element? s = (t.element? s).map fun e =>
      if b = true ∧ s ∈ (t.groupMembers r).map some then e.writeChecked false
      else if s = r then e.writeChecked b else e := by
  obtain ⟨t₁, h₁, h⟩ := setChecked_eq_ok.mp h
  rw [element?_foldlM_writeChecked h, element?_writeChecked h₁, Option.map_map]
  refine Option.map_congr fun e _ => ?_
  cases b with
  | false => simp
  | true => by_cases hs : s = r <;> simp [hs, Element.writeChecked]

/-- A reading of an element that does not look at what was written is the same. -/
theorem element?_bind_setChecked {α : Type} (h : t.setChecked r b = .ok t')
    {f : Element → Option α} (hf : ∀ e b, f (e.writeChecked b) = f e) (s : NodeRef) :
    (t'.element? s).bind f = (t.element? s).bind f := by
  rw [element?_setChecked h, Option.bind_map]
  congr 1
  funext e
  rw [Function.comp_apply]
  split
  next => exact hf e false
  next =>
    split
    next => exact hf e b
    next => rfl

theorem radioNameAt?_setChecked (h : t.setChecked r b = .ok t') :
    t'.radioNameAt? = t.radioNameAt? :=
  funext fun s => element?_bind_setChecked h (fun _ _ => rfl) s

/-- **Which controls are checked after one was written.** -/
theorem isCheckedAt_setChecked (h : t.setChecked r b = .ok t') (s : NodeRef) :
    t'.isCheckedAt s =
      if b = true ∧ s ∈ (t.groupMembers r).map some then false
      else if s = r then b else t.isCheckedAt s := by
  obtain ⟨t₁, h₁, -⟩ := setChecked_eq_ok.mp h
  obtain ⟨id, e, rfl, he, -⟩ := modifyElement_eq_ok.mp h₁
  unfold isCheckedAt
  rw [element?_setChecked h, Option.any_map]
  by_cases hg : b = true ∧ s ∈ (t.groupMembers (some id)).map some
  · rw [if_pos hg]
    cases t.element? s with
    | none => rfl
    | some e => simp only [Option.any_some, if_pos hg, Element.isChecked_writeChecked]
  · rw [if_neg hg]
    by_cases hs : s = some id
    · rw [if_pos hs, hs, he]
      rw [hs] at hg
      simp only [Option.any_some, if_neg hg, if_pos, Element.isChecked_writeChecked]
    · rw [if_neg hs]
      cases t.element? s with
      | none => rfl
      | some e => simp only [Option.any_some, if_neg hg, if_neg hs]

/-- **A control is read as it was written.** -/
theorem checked_setChecked_self (h : t.setChecked r b = .ok t') : t'.checked r = .ok b := by
  have hself : ¬ (b = true ∧ r ∈ (t.groupMembers r).map some) := by
    rintro ⟨-, hr⟩
    obtain ⟨id, hid, heq⟩ := List.mem_map.mp hr
    exact (mem_groupMembers.mp hid).1 heq
  obtain ⟨t₁, h₁, -⟩ := setChecked_eq_ok.mp h
  obtain ⟨id, e, rfl, he, -⟩ := modifyElement_eq_ok.mp h₁
  have he' := element?_setChecked h (some id)
  rw [he, Option.map_some, if_neg hself, if_pos rfl] at he'
  exact checked_of_element? he'

end Tree

end WebPage
