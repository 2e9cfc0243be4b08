import Mathlib.Data.List.Nodup
import WebPage.Proofs.Form.Groups
import WebPage.Proofs.Tree.Connected
import WebPage.Proofs.Tree.Splicing

/-!
# Values read back

The value of a control is kept in one of four places: in its attribute, in the control itself, in
the texts below it, or in the option of it that is selected. A value that is written goes where the
next reading looks for it, whatever was there before. What is kept in a control itself outlasts
later changes of its attributes and of its texts.

## Main definitions

* `Element.ReflectsValue`, `Element.KeepsText`: where an element keeps its value
* `Tree.chosen`, `Tree.Selected`: the first option that has a value, and a row of options of which
  it is the only one selected
* `ControlEdit`, `Tree.afterEdits`: later changes of a control

## Main results

* `Tree.exists_selectValue`: selecting by value selects the first option that has it, and no other
* `Tree.Selected.selectedOption_eq`: this option is the one that the control shows
* `Tree.KeepsValue.edit`: a value in a control itself outlasts a change that leaves its type alone
* `Tree.setValue_spec`: values that are written are read back
-/

namespace WebPage

/-! ## The place of a value -/

/-- A checkable input has no value but its attribute. -/
theorem InputType.valueIsAttribute_of_isCheckable {type : InputType}
    (h : type.isCheckable = true) : type.valueIsAttribute = true := by
  cases type with
  | checkbox | radio => rfl
  | _ => cases h

namespace Element

variable {e e' : Element} {v : String}

/-- Elements whose value is their attribute and nothing else. -/
def ReflectsValue (e : Element) : Prop :=
  e.tag = "option" ∨ e.tag = "button" ∨ e.inputType?.any InputType.valueIsAttribute = true

/-- Elements that keep what is written to them beside their attributes: text areas, and inputs that
are filled in. -/
def KeepsText (e : Element) : Prop :=
  e.tag = "textarea" ∨ ∃ type, e.inputType? = some type ∧ type.isCheckable = false ∧
    type.valueIsAttribute = false

/-- Writes the value that is kept in the control itself. -/
def writeValue (e : Element) (v : String) : Element :=
  { e with form := { e.form with value := some v } }

theorem inputType?_congr (htag : e'.tag = e.tag)
    (htype : e'.attributes.get? "type" = e.attributes.get? "type") :
    e'.inputType? = e.inputType? := by
  unfold inputType?
  rw [htag, htype]

theorem tag_of_inputType? {type : InputType} (h : e.inputType? = some type) : e.tag = "input" := by
  by_contra hne
  rw [inputType?, if_neg hne] at h
  cases h

theorem ownValue?_option (h : e.tag = "option") :
    e.ownValue? = e.attributes.get? "value" := by
  simp only [ownValue?, h]

theorem ownValue?_button (h : e.tag = "button") :
    e.ownValue? = some ((e.attributes.get? "value").getD "") := by
  simp only [ownValue?, h]

theorem ownValue?_textarea (h : e.tag = "textarea") : e.ownValue? = e.form.value := by
  simp only [ownValue?, h]

theorem ownValue?_select (h : e.tag = "select") : e.ownValue? = none := by
  simp only [ownValue?, h]

/-- The inputs whose value is an attribute. -/
theorem ownValue?_reflecting {type : InputType} (ht : e.inputType? = some type)
    (h : type.valueIsAttribute = true) :
    ∃ initial, e.ownValue? = some ((e.attributes.get? "value").getD initial) := by
  have htag := tag_of_inputType? ht
  cases hc : type.isCheckable with
  | true => exact ⟨"on", by simp [ownValue?, htag, ht, hc]⟩
  | false => exact ⟨"", by simp [ownValue?, htag, ht, hc, h]⟩

/-- Whatever shows what was written to it. -/
theorem ownValue?_written (hselect : e.tag ≠ "select") (h : ¬ e.ReflectsValue)
    (hv : e.form.value = some v) : e.ownValue? = some v := by
  obtain ⟨hoption, hbutton, hinput⟩ := not_or.mp h |>.imp id not_or.mp
  unfold ownValue?
  split
  · exact hv
  · contradiction
  · contradiction
  · contradiction
  · split
    next type ht =>
      have hreflects : type.valueIsAttribute = false := by simpa [ht] using hinput
      have hcheckable : type.isCheckable = false := by
        rw [Bool.eq_false_iff]
        intro hc
        rw [InputType.valueIsAttribute_of_isCheckable hc] at hreflects
        cases hreflects
      simp [hcheckable, hreflects, hv]
    next => simp [hv]

/-- **A value in an attribute** is read off the attribute. -/
theorem ownValue?_setAttribute (h : e.ReflectsValue) :
    (e.setAttribute "value" v).ownValue? = some v := by
  have hvalue : (e.setAttribute "value" v).attributes.get? "value" = some v := by
    rw [setAttribute, Attributes.get?_insert, if_pos (by decide)]
  have htype : (e.setAttribute "value" v).inputType? = e.inputType? := by
    refine inputType?_congr rfl ?_
    rw [setAttribute, Attributes.get?_insert, if_neg (by decide)]
  have htag : (e.setAttribute "value" v).tag = e.tag := rfl
  -- each kind of element has its own value for a missing attribute, and here none is missing
  rcases h with hoption | hbutton | hinput
  · rw [ownValue?_option (htag.trans hoption), hvalue]
  · rw [ownValue?_button (htag.trans hbutton), hvalue]
    rfl
  · cases ht : e.inputType? with
    | none =>
      rw [ht] at hinput
      cases hinput
    | some type =>
      rw [ht] at hinput
      obtain ⟨initial, hown⟩ := ownValue?_reflecting (htype.trans ht) hinput
      rw [hown, hvalue]
      rfl

theorem KeepsText.congr (h : e.KeepsText) (htag : e'.tag = e.tag)
    (htype : e'.attributes.get? "type" = e.attributes.get? "type") : e'.KeepsText := by
  unfold KeepsText
  rw [inputType?_congr htag htype, htag]
  exact h

/-- The two ways to keep a value exclude each other. -/
theorem KeepsText.not_reflectsValue (h : e.KeepsText) : ¬ e.ReflectsValue := by
  rcases h with htextarea | ⟨type, ht, -, hreflects⟩
  · simp [ReflectsValue, inputType?, htextarea]
  · simp [ReflectsValue, tag_of_inputType? ht, ht, hreflects]

/-- What keeps a text beside its attributes shows it, whatever the attributes are. -/
theorem KeepsText.ownValue? (h : e.KeepsText) (hv : e.form.value = some v) :
    e.ownValue? = some v := by
  rcases h with htextarea | ⟨type, ht, hcheckable, hreflects⟩
  · rw [ownValue?_textarea htextarea, hv]
  · simp [Element.ownValue?, tag_of_inputType? ht, ht, hcheckable, hreflects, hv]

end Element

namespace Tree

variable {t t₁ t' : Tree} {e : Element} {v w : String} {id o x : NodeId} {r c : NodeRef}
  {ids : List NodeId} {b : Bool}

/-! ## Options and their values -/

/-- The texts of a tree are not those of its elements. -/
theorem textsBelow_setElement (hid : t.isElement (some id) = true) (e : Element) :
    (t.setElement id e).textsBelow r = t.textsBelow r := by
  unfold textsBelow
  rw [(sameFrame_setElement hid).descendants_eq]
  refine List.filterMap_congr fun y _ => ?_
  rw [setElement, setData, node?_modify]
  split
  next hy =>
    -- neither the old element nor the new one is a text
    obtain ⟨n, hn, hk⟩ := Option.map_eq_some_iff.mp (isElement_iff.mp hid)
    rw [hy, hn]
    cases hd : n.data with
    | element e' => simp [Node.text?, hd]
    | _ =>
      rw [hd] at hk
      cases hk
  next => rfl

/-- **Every option has a value**: its attribute, or the texts below it with single spaces. -/
theorem optionValue_of_element? (he : t.element? (some x) = some e) :
    t.optionValue (some x) =
      .ok (e.ownValue?.getD (Text.collapse (String.join (t.textsBelow (some x))))) := by
  unfold optionValue
  rw [element_eq_ok.mpr he]
  cases hv : e.ownValue? with
  | some v => simp [hv]
  | none =>
    simp [hv, textContent_of_isElement (isElement_of_element? he)]

/-- Selecting an option does not change what it or another one stands for. -/
theorem optionValue_writeChecked (h : t.writeChecked r b = .ok t')
    (hx : t.isElement (some x) = true) :
    t'.optionValue (some x) = t.optionValue (some x) := by
  obtain ⟨e, he⟩ := Option.isSome_iff_exists.mp hx
  obtain ⟨e', he', hown⟩ : ∃ e', t'.element? (some x) = some e' ∧ e'.ownValue? = e.ownValue? := by
    rw [element?_writeChecked h, he]
    refine ⟨_, rfl, ?_⟩
    split <;> rfl
  obtain ⟨id, written, rfl, hwritten, rfl⟩ := modifyElement_eq_ok.mp h
  rw [optionValue_of_element? he', optionValue_of_element? he, hown,
    textsBelow_setElement (isElement_of_element? hwritten)]

theorem hasTag_iff {tag : String} :
    t.hasTag tag r = true ↔ ∃ e, t.element? r = some e ∧ e.tag = tag := by
  unfold hasTag
  cases t.element? r <;> simp

/-- The value of an option is what it stands for in a select control. -/
theorem value_eq_optionValue (hx : t.hasTag "option" (some x) = true) :
    t.value (some x) = t.optionValue (some x) := by
  obtain ⟨e, he, htag⟩ := hasTag_iff.mp hx
  have hown := Element.ownValue?_option htag
  unfold value
  rw [element_eq_ok.mpr he]
  cases hv : e.attributes.get? "value" with
  | some v =>
    rw [hv] at hown
    simp [optionValue_of_element? he, hown]
  | none =>
    rw [hv] at hown
    simp [hown, htag]

/-! ## Selecting by value -/

/-- The first of some options that has a value. -/
def chosen (t : Tree) (v : String) (ids : List NodeId) : NodeRef :=
  ids.find? fun x => (t.optionValue (some x)).toOption == some v

/-- The options `ids` have been written, and `c` is the only one of them that is selected. -/
structure Selected (t : Tree) (ids : List NodeId) (c : NodeRef) (t' : Tree) : Prop where
  frame : SameFrame t t'
  element : ∀ x, t'.element? (some x) =
    (t.element? (some x)).map fun e => if x ∈ ids then e.writeChecked (c == some x) else e
  optionValue : ∀ x, t.isElement (some x) = true →
    t'.optionValue (some x) = t.optionValue (some x)

theorem Selected.nil (t : Tree) (c : NodeRef) : Selected t [] c t := by
  refine ⟨.refl t, fun x => ?_, fun _ _ => rfl⟩
  simp

/-- One option is written, and the rest after it. -/
theorem Selected.cons (h₁ : t.writeChecked (some id) b = .ok t₁) (hid : id ∉ ids)
    (hb : (c == some id) = b) (h : Selected t₁ ids c t') : Selected t (id :: ids) c t' := by
  refine ⟨(sameFrame_writeChecked h₁).trans h.frame, fun x => ?_, fun x hx => ?_⟩
  · rw [h.element, element?_writeChecked h₁, Option.map_map]
    refine Option.map_congr fun e _ => ?_
    by_cases hx : x = id
    · subst hx
      simp [hid, hb]
    · simp [hx]
  · have hx₁ : t₁.isElement (some x) = true := by
      rw [(sameFrame_writeChecked h₁).isElement_eq]
      exact hx
    rw [h.optionValue x hx₁, optionValue_writeChecked h₁ hx]

/-- What is selected matters for the options only. -/
theorem Selected.congr {c' : NodeRef} (h : Selected t ids c t')
    (hc : ∀ x ∈ ids, (c' == some x) = (c == some x)) : Selected t ids c' t' := by
  refine ⟨h.frame, fun x => ?_, h.optionValue⟩
  rw [h.element]
  refine Option.map_congr fun e _ => ?_
  by_cases hx : x ∈ ids
  · rw [if_pos hx, if_pos hx, hc x hx]
  · rw [if_neg hx, if_neg hx]

/-- **Selecting by value** selects the first option that has the value, and no other; where one was
found before, it selects none. -/
theorem exists_selectValue (v : String) (hnodup : ids.Nodup)
    (hids : ∀ x ∈ ids, t.isElement (some x) = true) (found : Bool) :
    ∃ t', selectValue v ids found t = .ok t' ∧
      Selected t ids (if found then none else t.chosen v ids) t' := by
  induction ids generalizing t found with
  | nil => exact ⟨t, rfl, .nil t _⟩
  | cons id ids ih =>
    obtain ⟨hid, hids⟩ := List.forall_mem_cons.mp hids
    obtain ⟨hnew, hnodup⟩ := List.nodup_cons.mp hnodup
    obtain ⟨e, he⟩ := Option.isSome_iff_exists.mp hid
    obtain ⟨w, hw⟩ : ∃ w, t.optionValue (some id) = .ok w := ⟨_, optionValue_of_element? he⟩
    obtain ⟨t₁, h₁⟩ := exists_writeChecked hid (!found && w == v)
    have hids₁ : ∀ x ∈ ids, t₁.isElement (some x) = true := by
      rw [(sameFrame_writeChecked h₁).isElement_eq]
      exact hids
    obtain ⟨t', hrun, hselected⟩ := ih hnodup hids₁ (found || (!found && w == v))
    -- the values are those from before, so the rest is searched for the same option
    have hchosen : t₁.chosen v ids = t.chosen v ids := by
      rw [chosen, chosen, ← List.head?_filter, ← List.head?_filter]
      refine congrArg List.head? (List.filter_congr fun x hx => ?_)
      rw [optionValue_writeChecked h₁ (hids x hx)]
    have hrest : t.chosen v (id :: ids) = if w == v then some id else t.chosen v ids := by
      rw [chosen, List.find?_cons, hw]
      cases hwv : w == v <;> simp [Except.toOption, hwv, chosen]
    have hne : ∀ x ∈ ids, id ≠ x := by
      rintro x hx rfl
      exact hnew hx
    have hother : t.chosen v ids ≠ some id := fun hc => hnew (List.mem_of_find?_eq_some hc)
    rw [hchosen] at hselected
    refine ⟨t', ?_, .cons h₁ hnew ?_ (hselected.congr fun x hx => ?_)⟩
    · rw [selectValue, hw]
      simp [h₁, hrun]
    -- whether this option is selected: none was found before, and this one has the value
    · rw [hrest]
      cases found with
      | true => rfl
      | false => cases w == v <;> simp [hother]
    · rw [hrest]
      cases found with
      | true => rfl
      | false => cases w == v <;> simp [hne x hx]

/-! ## The option that is shown -/

theorem hasTag_of_mem_options (hx : x ∈ t.options r) : t.hasTag "option" (some x) = true :=
  (List.mem_filter.mp hx).2

theorem isElement_of_mem_options (hx : x ∈ t.options r) : t.isElement (some x) = true := by
  obtain ⟨e, he, -⟩ := hasTag_iff.mp (hasTag_of_mem_options hx)
  exact isElement_of_element? he

theorem WellFormed.nodup_options (h : t.WellFormed) (id : NodeId) :
    (t.options (some id)).Nodup :=
  (h.nodup_descendants id).filter _

namespace Selected

/-- Writing options leaves the tags alone. -/
theorem hasTag_eq (h : Selected t ids c t') (tag : String) (x : NodeId) :
    t'.hasTag tag (some x) = t.hasTag tag (some x) := by
  rw [hasTag, hasTag, h.element, Option.any_map]
  refine congrArg (fun f => (t.element? (some x)).any f) (funext fun e => ?_)
  split <;> rfl

theorem options_eq (h : Selected t ids c t') : t'.options r = t.options r := by
  rw [options, options, h.frame.descendants_eq]
  exact List.filter_congr fun x _ => h.hasTag_eq "option" x

/-- Selecting options does not change what they stand for. -/
theorem value_option_eq (h : Selected t ids c t') (ho : o ∈ t.options r) :
    t'.value (some o) = t.value (some o) := by
  have htag := hasTag_of_mem_options ho
  have htag' : t'.hasTag "option" (some o) = true := by rw [h.hasTag_eq, htag]
  rw [value_eq_optionValue htag', value_eq_optionValue htag]
  exact h.optionValue o (isElement_of_mem_options ho)

/-- Which of the options are selected. -/
theorem isCheckedAt_eq (h : Selected t ids c t') (hx : x ∈ ids)
    (he : t.isElement (some x) = true) : t'.isCheckedAt (some x) = (c == some x) := by
  obtain ⟨e, he⟩ := Option.isSome_iff_exists.mp he
  rw [isCheckedAt, h.element, he, Option.map_some, if_pos hx]
  rfl

/-- **The control shows the option that was selected**, or none. It does so whether many of its
options may be selected or one, and though nothing is selected it does not fall back to an option
that nobody selected. -/
theorem selectedOption_eq (h : Selected t (t.options r) c t') (hnodup : (t.options r).Nodup)
    (hc : ∀ x, c = some x → x ∈ t.options r) : t'.selectedOption r = c := by
  have hselected : (t'.options r).filter (fun x => t'.isCheckedAt (some x)) = c.toList := by
    have hchecked : ∀ x ∈ t.options r, t'.isCheckedAt (some x) = (c == some x) :=
      fun x hx => h.isCheckedAt_eq hx (isElement_of_mem_options hx)
    rw [h.options_eq, List.filter_congr hchecked]
    cases c with
    | none => simp
    | some o =>
      -- a list without repetition holds the one option once
      have heq : ∀ x, (some o == some x) = (x == o) := fun x => by simp [eq_comm]
      have hcount : (t.options r).count o = 1 := List.count_eq_one_of_mem hnodup (hc o rfl)
      rw [funext heq, List.filter_beq, hcount]
      rfl
  have hwritten : ∀ x ∈ t'.options r,
      ((t'.element? (some x)).any fun e => e.form.checked.isSome) = true := by
    intro x hx
    rw [h.options_eq] at hx
    obtain ⟨e, he⟩ := Option.isSome_iff_exists.mp (isElement_of_mem_options hx)
    rw [h.element, he, Option.map_some, if_pos hx]
    rfl
  unfold selectedOption
  dsimp only
  rw [hselected]
  generalize ((t'.element? r).any fun e => e.attributes.contains "multiple") = multiple
  cases c with
  | some o => cases multiple <;> rfl
  | none =>
    -- every option has been written, so the fallback finds no options at all
    cases hoptions : t'.options r with
    | nil => cases multiple <;> rfl
    | cons o options =>
      rw [hoptions] at hwritten
      have hany : ((o :: options).any fun x =>
          (t'.element? (some x)).any fun e => e.form.checked.isSome) = true :=
        List.any_eq_true.mpr ⟨o, List.mem_cons_self, hwritten o List.mem_cons_self⟩
      rw [hany, Bool.or_true, if_pos rfl]
      cases multiple <;> rfl

end Selected

/-! ## Writing a value -/

/-- **A select control shows the first option with the value that is written**, and nothing if there
is none. -/
theorem exists_setValue_select (h : t.WellFormed) (he : t.element? (some id) = some e)
    (htag : e.tag = "select") (v : String) :
    ∃ t', t.setValue (some id) v = .ok t' ∧
      Selected t (t.options (some id)) (t.chosen v (t.options (some id))) t' := by
  obtain ⟨t', hrun, hselected⟩ :=
    exists_selectValue v (h.nodup_options id) (fun _ => isElement_of_mem_options) false
  refine ⟨t', ?_, hselected⟩
  unfold setValue
  rw [element_eq_ok.mpr he]
  simpa [htag, Element.inputType?] using hrun

/-- **Every other element shows what is written to it.** -/
theorem exists_setValue (he : t.element? (some id) = some e) (htag : e.tag ≠ "select")
    (v : String) :
    ∃ t' e', t.setValue (some id) v = .ok t' ∧ t'.element? (some id) = some e' ∧
      e'.ownValue? = some v ∧ (e.KeepsText → e'.KeepsText ∧ e'.form.value = some v) := by
  have hel := isElement_of_element? he
  have hwrite : ∀ f : Element → Element,
      t.modifyElement (some id) f = .ok (t.setElement id (f e)) := fun f =>
    modifyElement_eq_ok.mpr ⟨id, e, rfl, he, rfl⟩
  have hread : ∀ e', (t.setElement id e').element? (some id) = some e' := by
    intro e'
    rw [element?_setElement hel, if_pos rfl]
  have hcondition : (decide (e.tag = "option") || decide (e.tag = "button") ||
      e.inputType?.any InputType.valueIsAttribute) = true ↔ e.ReflectsValue := by
    simp [Element.ReflectsValue, or_assoc]
  unfold setValue
  rw [element_eq_ok.mpr he]
  -- the value goes into the attribute where the attribute is read, and else into the control
  by_cases hreflects : e.ReflectsValue
  · refine ⟨_, e.setAttribute "value" v, ?_, hread _, Element.ownValue?_setAttribute hreflects, ?_⟩
    · exact (if_pos (hcondition.mpr hreflects)).trans (hwrite _)
    · intro hkeeps
      exact absurd hreflects hkeeps.not_reflectsValue
  · refine ⟨_, e.writeValue v, ?_, hread _, Element.ownValue?_written htag hreflects rfl, ?_⟩
    · refine (if_neg (mt hcondition.mp hreflects)).trans ((if_neg htag).trans (hwrite _))
    · intro hkeeps
      exact ⟨hkeeps.congr rfl rfl, rfl⟩

end Tree

/-! ## Later changes -/

/-- A change of a control, after its value was written. -/
inductive ControlEdit where
  | setAttribute (name value : String)
  | removeAttribute (name : String)
  | toggleAttribute (name : String) (force : Option Bool)
  | setTextContent (text : String)

/-- What a change does to the control that a reference names. It may fail. -/
def ControlEdit.apply (t : Tree) (r : NodeRef) : ControlEdit → Except DomError Tree
  | setAttribute name value => t.setAttribute r name value
  | removeAttribute name => t.removeAttribute r name
  | toggleAttribute name force => return (← t.toggleAttribute r name force).2
  | setTextContent text => t.setTextContent r text

/-- The attribute that a change names, if it names one, is not the type, in whatever case it is
spelled. -/
def ControlEdit.LeavesType : ControlEdit → Prop
  | setAttribute name _ | removeAttribute name | toggleAttribute name _ =>
    Text.equalsIgnoringCase name "type" = false
  | setTextContent _ => True

instance : DecidablePred ControlEdit.LeavesType
  | .setAttribute name _ | .removeAttribute name | .toggleAttribute name _ =>
    inferInstanceAs (Decidable (Text.equalsIgnoringCase name "type" = false))
  | .setTextContent _ => inferInstanceAs (Decidable True)

namespace Tree

/-- The tree after some changes of a control. One that fails changes nothing. -/
def afterEdits (t : Tree) (r : NodeRef) (edits : List ControlEdit) : Tree :=
  edits.foldl (fun t edit => (edit.apply t r).toOption.getD t) t

variable {t t' : Tree} {e : Element} {v : String} {id : NodeId} {edits : List ControlEdit}

/-- The value of a control is kept in it. -/
def KeepsValue (t : Tree) (id : NodeId) (v : String) : Prop :=
  ∃ e, t.element? (some id) = some e ∧ e.KeepsText ∧ e.form.value = some v

theorem value_of_ownValue? (he : t.element? (some id) = some e) (hv : e.ownValue? = some v) :
    t.value (some id) = .ok v := by
  unfold value
  rw [element_eq_ok.mpr he]
  simp [hv]

theorem value_of_select (he : t.element? (some id) = some e) (htag : e.tag = "select") :
    t.value (some id) =
      (t.selectedOption (some id)).elim (.ok "") fun o => t.optionValue (some o) := by
  unfold value
  rw [element_eq_ok.mpr he]
  cases t.selectedOption (some id) <;>
    simp [Element.ownValue?_select htag, htag]

namespace KeepsValue

theorem value_eq (h : t.KeepsValue id v) : t.value (some id) = .ok v := by
  obtain ⟨e, he, hkeeps, hv⟩ := h
  exact value_of_ownValue? he (hkeeps.ownValue? hv)

/-- Other attributes do not matter. -/
theorem setElement {e' : Element} (h : t.KeepsValue id v) (he : t.element? (some id) = some e)
    (htag : e'.tag = e.tag) (hform : e'.form = e.form)
    (htype : e'.attributes.get? "type" = e.attributes.get? "type") :
    (t.setElement id e').KeepsValue id v := by
  obtain ⟨e₀, he₀, hkeeps, hv⟩ := h
  obtain rfl : e = e₀ := Option.some.inj (he.symm.trans he₀)
  refine ⟨e', ?_, hkeeps.congr htag htype, ?_⟩
  · rw [element?_setElement (isElement_of_element? he), if_pos rfl]
  · rw [hform]
    exact hv

/-- **One change** that does not name the type leaves the value in the control. -/
theorem edit (h : t.KeepsValue id v) {edit : ControlEdit} (hedit : edit.LeavesType)
    (ht : edit.apply t (some id) = .ok t') : t'.KeepsValue id v := by
  unfold ControlEdit.LeavesType at hedit
  unfold ControlEdit.apply at ht
  cases edit with
  | setAttribute name value =>
    obtain ⟨-, -, ht⟩ := bind_eq_ok.mp ht
    obtain ⟨id, e, ⟨⟩, he, rfl⟩ := modifyElement_eq_ok.mp ht
    refine h.setElement he rfl rfl ?_
    rw [Element.setAttribute, Attributes.get?_insert, if_neg (by simp [hedit])]
  | removeAttribute name =>
    obtain ⟨id, e, ⟨⟩, he, rfl⟩ := modifyElement_eq_ok.mp ht
    exact h.setElement he rfl rfl (e.attributes.get?_erase_of_ne hedit)
  | toggleAttribute name force =>
    obtain ⟨present, ht⟩ := return_snd_eq_ok.mp ht
    obtain ⟨-, -, ht⟩ := bind_eq_ok.mp ht
    unfold updateElement at ht
    obtain ⟨e, he, ht⟩ := bind_eq_ok.mp ht
    cases ht
    exact h.setElement (element_eq_ok.mp he) rfl rfl
      (e.attributes.get?_toggle_of_ne hedit force)
  | setTextContent text =>
    -- the texts below the control change, and the control itself does not
    obtain ⟨e, he, hkeeps⟩ := h
    have hel := isElement_of_element? he
    have hlt : id < t.size := kind?_isSome_iff.mp (kind?_isSome_of_isElement hel)
    refine ⟨e, ?_, hkeeps⟩
    rw [element?_eq_data?, data?_setTextContent hel ht hlt, ← element?_eq_data?]
    exact he

/-- **Any number of changes** that do not name the type leave the value in the control. -/
theorem afterEdits (h : t.KeepsValue id v) (hedits : ∀ edit ∈ edits, edit.LeavesType) :
    (t.afterEdits (some id) edits).KeepsValue id v := by
  induction edits generalizing t with
  | nil => exact h
  | cons edit edits ih =>
    obtain ⟨hedit, hedits⟩ := List.forall_mem_cons.mp hedits
    have hstep : ((edit.apply t (some id)).toOption.getD t).KeepsValue id v := by
      cases ht : edit.apply t (some id) with
      | ok t' => exact h.edit hedit ht
      | error _ => exact h
    exact ih hstep hedits

end KeepsValue

/-! ## Values read back -/

/-- The value `v` was written to the element `e`, which is the node `id`, and is read back. -/
structure ReadsBack (t : Tree) (id : NodeId) (e : Element) (v : String) (t' : Tree) : Prop where
  value : e.tag ≠ "select" → t'.value (some id) = .ok v
  /-- A select control keeps its options, and these keep their values. -/
  options : e.tag = "select" → t'.options (some id) = t.options (some id) ∧
    ∀ o ∈ t.options (some id), t'.value (some o) = t.value (some o)
  /-- If some option of a select control has the value, the first of these is shown, and it is the
  only option that is selected. -/
  found : e.tag = "select" → (∃ o ∈ t.options (some id), t.value (some o) = .ok v) →
    ∃ xs o ys, t.options (some id) = xs ++ o :: ys ∧ t.value (some o) = .ok v ∧
      (∀ x ∈ xs, t.value (some x) ≠ .ok v) ∧ t'.value (some id) = .ok v ∧
      t'.selectedOption (some id) = some o ∧
      ∀ x ∈ t.options (some id), t'.checked (some x) = .ok true ↔ x = o
  /-- If no option has it, none is shown. -/
  missing : e.tag = "select" → (∀ o ∈ t.options (some id), t.value (some o) ≠ .ok v) →
    t'.selectedOption (some id) = none ∧ t'.value (some id) = .ok ""
  /-- A value that is kept beside the attributes is read back as long as the type stays. -/
  lasting : e.KeepsText → ∀ edits : List ControlEdit, (∀ edit ∈ edits, edit.LeavesType) →
    (t'.afterEdits (some id) edits).value (some id) = .ok v

/-- The options that have a value are those that a search for it by what they stand for finds. -/
theorem hasValue_iff {x : NodeId} (hx : x ∈ t.options (some id)) :
    ((t.optionValue (some x)).toOption == some v) = true ↔ t.value (some x) = .ok v := by
  rw [value_eq_optionValue (hasTag_of_mem_options hx)]
  cases t.optionValue (some x) <;> simp [Except.toOption]

theorem exists_chosen (hex : ∃ o ∈ t.options (some id), t.value (some o) = .ok v) :
    ∃ xs o ys, t.chosen v (t.options (some id)) = some o ∧
      t.options (some id) = xs ++ o :: ys ∧ t.value (some o) = .ok v ∧
      ∀ x ∈ xs, t.value (some x) ≠ .ok v := by
  obtain ⟨o', hmem', hv'⟩ := hex
  obtain ⟨o, hchosen⟩ : ∃ o, t.chosen v (t.options (some id)) = some o :=
    Option.isSome_iff_exists.mp
      (List.find?_isSome.mpr ⟨o', hmem', (hasValue_iff hmem').mpr hv'⟩)
  obtain ⟨hv, xs, ys, hsplit, hxs⟩ := List.find?_eq_some_iff_append.mp hchosen
  refine ⟨xs, o, ys, hchosen, hsplit, ?_, fun x hx hxv => ?_⟩
  · exact (hasValue_iff (List.mem_of_find?_eq_some hchosen)).mp hv
  · -- an option before the one that was found was looked at, and does not have the value
    have hmem : x ∈ t.options (some id) := by
      rw [hsplit]
      exact List.mem_append_left _ hx
    have hnot := hxs x hx
    rw [(hasValue_iff hmem).mpr hxv] at hnot
    cases hnot

theorem chosen_eq_none (hall : ∀ o ∈ t.options (some id), t.value (some o) ≠ .ok v) :
    t.chosen v (t.options (some id)) = none := by
  refine List.find?_eq_none.mpr fun x hx hv => ?_
  exact hall x hx ((hasValue_iff hx).mp hv)

/-- What a select control shows is the value of the option that was selected. -/
theorem Selected.value_eq {c : NodeRef} (h : Selected t (t.options (some id)) c t')
    (he : t.element? (some id) = some e) (htag : e.tag = "select")
    (hshown : t'.selectedOption (some id) = c) (hc : ∀ o, c = some o → o ∈ t.options (some id)) :
    t'.value (some id) = c.elim (.ok "") fun o => t.value (some o) := by
  obtain ⟨e', he', htag'⟩ : ∃ e', t'.element? (some id) = some e' ∧ e'.tag = "select" := by
    rw [h.element, he]
    refine ⟨_, rfl, ?_⟩
    split <;> exact htag
  rw [value_of_select he' htag', hshown]
  cases c with
  | none => rfl
  | some o =>
    have hmem := hc o rfl
    exact (h.optionValue o (isElement_of_mem_options hmem)).trans
      (value_eq_optionValue (hasTag_of_mem_options hmem)).symm

/-- **A value that is written is read back**, from an element of any tag and type, whatever was
written to it or its options before. -/
theorem setValue_spec (h : t.WellFormed) (he : t.element? (some id) = some e) (v : String) :
    ∃ t', t.setValue (some id) v = .ok t' ∧ t.ReadsBack id e v t' := by
  by_cases htag : e.tag = "select"
  · -- both ways, what is shown is the option that was chosen, if one was
    obtain ⟨t', hrun, hselected⟩ := exists_setValue_select h he htag v
    have hmem : ∀ o, t.chosen v (t.options (some id)) = some o → o ∈ t.options (some id) :=
      fun o ho => List.mem_of_find?_eq_some ho
    have hshown := hselected.selectedOption_eq (h.nodup_options id) hmem
    have hvalue := hselected.value_eq he htag hshown hmem
    refine ⟨t', hrun, fun hne => absurd htag hne, fun _ => ?_, fun _ hex => ?_, fun _ hall => ?_,
      fun hkeeps => ?_⟩
    · exact ⟨hselected.options_eq, fun o => hselected.value_option_eq⟩
    · obtain ⟨xs, o, ys, hchosen, hsplit, hv, hxs⟩ := exists_chosen hex
      rw [hchosen] at hshown hselected hvalue
      refine ⟨xs, o, ys, hsplit, hv, hxs, hvalue.trans hv, hshown, fun x hx => ?_⟩
      rw [checked_eq_ok_true_iff, hselected.isCheckedAt_eq hx (isElement_of_mem_options hx),
        beq_iff_eq, Option.some.injEq, eq_comm]
    · rw [chosen_eq_none hall] at hshown hvalue
      exact ⟨hshown, hvalue⟩
    · -- a select control keeps no text
      rcases hkeeps with htextarea | ⟨type, ht, -⟩
      · rw [htextarea] at htag
        exact absurd htag (by decide)
      · rw [Element.tag_of_inputType? ht] at htag
        exact absurd htag (by decide)
  · obtain ⟨t', e', hrun, he', hown, hkeeps⟩ := exists_setValue he htag v
    have hnot : ∀ {P : Prop}, e.tag = "select" → P := fun hselect => absurd hselect htag
    refine ⟨t', hrun, fun _ => value_of_ownValue? he' hown, hnot, hnot, hnot,
      fun htext edits hedits => ?_⟩
    have hkept : t'.KeepsValue id v := ⟨e', he', hkeeps htext⟩
    exact (hkept.afterEdits hedits).value_eq

/-- A tree whose `body` has a select control 4 and a text area 8. The control has an option 5 that
is selected by its attribute, and an option 7 within a group. -/
def chooser : Tree :=
  let tree := (Page.afterCalls { document := .skeleton "about:blank" }
    [.createElement "select", .createElement "option", .createElement "optgroup",
      .createElement "option", .createElement "textarea", .appendChild (some 3) (some 4),
      .appendChild (some 4) (some 5), .appendChild (some 4) (some 6),
      .appendChild (some 6) (some 7), .appendChild (some 3) (some 8)]).document.tree
  let upper := Element.ofMarkup "option" [("value", "a"), ("selected", "")]
  let lower := Element.ofMarkup "option" [("value", "b")]
  (tree.setElement 5 upper).setElement 7 lower

/-- The option in the group is selected by its value, no option by a value that none has, and a text
stays in the text area. -/
theorem setValue_spec_chooser :
    chooser.WellFormed ∧ chooser.element? (some 4) = some (.ofTag "select") ∧
      chooser.element? (some 8) = some (.ofTag "textarea") ∧
      (∃ t', chooser.setValue (some 4) "b" = .ok t' ∧ t'.value (some 4) = .ok "b" ∧
        t'.selectedOption (some 4) = some 7) ∧
      (∃ t', chooser.setValue (some 4) "c" = .ok t' ∧ t'.value (some 4) = .ok "") ∧
      ∃ t', chooser.setValue (some 8) "c" = .ok t' ∧
        (t'.afterEdits (some 8) [.setAttribute "Value" "d", .setTextContent "e",
          .toggleAttribute "value" none, .removeAttribute "name"]).value (some 8) = .ok "c" := by
  have hskeleton : Page.HasWellFormedTree { document := .skeleton "about:blank" } :=
    wellFormed_skeletonTree
  have h : chooser.WellFormed := by
    refine (sameFrame_setElement (by decide +kernel)).wellFormed ?_
    refine (sameFrame_setElement (by decide +kernel)).wellFormed ?_
    exact Page.afterCalls_keeps StructuralCall.keeps_wellFormed hskeleton _
  have hselect : chooser.element? (some 4) = some (.ofTag "select") := by decide +kernel
  have htextarea : chooser.element? (some 8) = some (.ofTag "textarea") := by decide +kernel
  have htag : (Element.ofTag "select").tag = "select" := by decide +kernel
  have hkeeps : (Element.ofTag "textarea").KeepsText := .inl (by decide +kernel)
  have hoptions : chooser.options (some 4) = [5, 7] := by decide +kernel
  have hvalues : chooser.value (some 5) = .ok "a" ∧ chooser.value (some 7) = .ok "b" := by
    decide +kernel
  obtain ⟨t₁, h₁, hread₁⟩ := setValue_spec h hselect "b"
  obtain ⟨t₂, h₂, hread₂⟩ := setValue_spec h hselect "c"
  obtain ⟨t₃, h₃, hread₃⟩ := setValue_spec h htextarea "c"
  refine ⟨h, hselect, htextarea, ⟨t₁, h₁, ?_⟩, ⟨t₂, h₂, ?_⟩, t₃, h₃, ?_⟩
  · obtain ⟨xs, o, ys, hsplit, hv, -, hvalue, hshown, -⟩ :=
      hread₁.found htag ⟨7, by simp [hoptions], hvalues.2⟩
    have hmem : o ∈ [5, 7] := by
      rw [← hoptions, hsplit]
      simp
    -- the first option has another value
    have ho : o = 7 := by
      rcases List.mem_cons.mp hmem with rfl | hmem
      · rw [hvalues.1] at hv
        exact absurd hv (by decide)
      · exact List.mem_singleton.mp hmem
    rw [ho] at hshown
    exact ⟨hvalue, hshown⟩
  · refine (hread₂.missing htag fun o ho => ?_).2
    rw [hoptions] at ho
    rcases List.mem_cons.mp ho with rfl | ho
    · rw [hvalues.1]
      decide
    · rw [List.mem_singleton.mp ho, hvalues.2]
      decide
  · exact hread₃.lasting hkeeps _ (by decide)

end Tree

end WebPage
