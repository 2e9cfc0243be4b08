import WebPage.Proofs.Attributes
import WebPage.Proofs.ClassTokens
import WebPage.Proofs.Page.Failures
import WebPage.Proofs.Selector.Printing

/-!
# Classes as sets of tokens

The class attribute is the only place where the classes of an element are kept: a verb reads a set of
tokens off its text, changes the set, and writes the text that spells it. Because a set is read off
what it spells, the verbs on a page are operations on sets. Adding and removing the tokens of a text
one by one is the same as adding and removing them together, and doing it again does nothing, so it
does not matter how often a target names an element.

## Main definitions

* `Element.classWords`: the words of the class attribute, as they stand there
* `Element.writeClasses`, `Element.forceClasses`: what a class verb does to an element
* `ElementsChanged`, `ClassesBecome`: what a verb does to the elements of a target

## Main results

* `Element.forceClasses_append`: tokens after tokens are forced together
* `Element.classWords_forceClasses_true`, `Element.classWords_forceClasses_false`: the words after
  tokens were added, and after they were removed
* `editTreeAll_modifyElement`: a change that does nothing the second time, on a whole target
* `toggleClass_some`: to force tokens one by one is to force them together
* `class_verbs`: the class verbs and the tests for a class
-/

namespace WebPage

open Text (IsWord)

/-! ## Elements -/

namespace Element

variable {e : Element} {c d : ClassTokens} {wanted : Bool} {tokens tokens' : List String}
  {s : String}

/-- The words of the class attribute, as they stand there. -/
def classWords (e : Element) : List String :=
  Text.words ((e.attributes.get? "class").getD "")

/-- Writes a set of tokens as the class attribute. An element without the attribute does not get one
for an empty set. -/
def writeClasses (e : Element) (c : ClassTokens) : Element :=
  if e.attributes.contains "class" || !c.isEmpty then e.setAttribute "class" c.value else e

/-- Adds tokens to the classes, or removes them. -/
def forceClasses (e : Element) (wanted : Bool) (tokens : List String) : Element :=
  e.writeClasses (e.classes.force wanted tokens)

theorem sound_classes (e : Element) : e.classes.Sound :=
  ClassTokens.sound_ofAttribute _

theorem toList_classes (e : Element) : e.classes.toList = e.classWords.eraseDups :=
  ClassTokens.toList_ofAttribute _

/-- The attribute after a set was written. -/
theorem get?_writeClasses (e : Element) (c : ClassTokens) :
    (e.writeClasses c).attributes.get? "class" =
      if e.attributes.contains "class" || !c.isEmpty then some c.value else none := by
  unfold writeClasses
  split
  · rw [setAttribute, Attributes.get?_insert]
    exact if_pos (beq_self_eq_true _)
  next h =>
    rw [Bool.not_eq_true, Bool.or_eq_false_iff, ← Attributes.isSome_get?] at h
    simpa using h.1

/-- Without the attribute there is nothing to spell. -/
theorem getD_get?_writeClasses (e : Element) (c : ClassTokens) :
    ((e.writeClasses c).attributes.get? "class").getD "" = c.value := by
  rw [get?_writeClasses]
  split
  · rfl
  next h =>
    rw [Bool.not_eq_true, Bool.or_eq_false_iff] at h
    have hnil : c.toList = [] := by simpa [ClassTokens.isEmpty] using h.2
    rw [ClassTokens.value, hnil]
    rfl

/-- What is written are the tokens and the spaces between them. -/
theorem classWords_writeClasses (hc : c.Sound) : (e.writeClasses c).classWords = c.toList := by
  rw [classWords, getD_get?_writeClasses, ClassTokens.words_value hc]

/-- **A set is read off the element that it was written to.** -/
theorem classes_writeClasses (hc : c.Sound) : (e.writeClasses c).classes = c := by
  rw [classes, ClassTokens.ofAttribute, getD_get?_writeClasses]
  exact ClassTokens.ofAttribute_value hc

/-- Of two sets that are written the later one counts, unless the earlier one left an attribute that
the later one would not have needed. -/
theorem writeClasses_writeClasses
    (h : e.attributes.contains "class" = true ∨ c.isEmpty = true ∨ d.isEmpty = false) :
    (e.writeClasses c).writeClasses d = e.writeClasses d := by
  unfold writeClasses
  cases ha : e.attributes.contains "class" with
  | true =>
    simp [setAttribute, Attributes.contains_insert, Attributes.insert_insert, ha]
  | false =>
    cases hc : c.isEmpty with
    | true => simp [ha]
    | false =>
      have hd : d.isEmpty = false := by simpa [ha, hc] using h
      simp [setAttribute, Attributes.contains_insert, Attributes.insert_insert, ha, hd]

/-- **Forcing tokens after tokens** forces them all. -/
theorem forceClasses_append (e : Element) (hw : ∀ token ∈ tokens, IsWord token)
    (hw' : ∀ token ∈ tokens', IsWord token) :
    (e.forceClasses wanted tokens).forceClasses wanted tokens' =
      e.forceClasses wanted (tokens ++ tokens') := by
  have hsound := e.sound_classes.force hw wanted
  unfold forceClasses
  rw [classes_writeClasses hsound, ← ClassTokens.force_append, writeClasses_writeClasses]
  rw [ClassTokens.force_append]
  cases wanted with
  | true =>
    cases hd : ((e.classes.force true tokens).force true tokens').isEmpty with
    | false => exact .inr (.inr rfl)
    | true => exact .inr (.inl (ClassTokens.isEmpty_of_add hsound hw' hd))
  | false =>
    cases ha : e.attributes.contains "class" with
    | true => exact .inl rfl
    | false =>
      -- an element without the attribute has no class that could be removed
      have hnone : e.attributes.get? "class" = none := by
        simpa [← Attributes.isSome_get?] using ha
      have hempty : e.classes.isEmpty = true := by
        rw [classes, hnone]
        rfl
      exact .inr (.inl (ClassTokens.isEmpty_remove hempty tokens))

theorem forceClasses_forceClasses (e : Element) (hw : ∀ token ∈ tokens, IsWord token) :
    (e.forceClasses wanted tokens).forceClasses wanted tokens = e.forceClasses wanted tokens := by
  rw [forceClasses_append e hw hw, forceClasses, ClassTokens.force_append,
    ClassTokens.force_force e.sound_classes hw, forceClasses]

/-- **The classes after tokens were added** are those before and the tokens behind them, each at its
first place. -/
theorem classWords_forceClasses_true (hw : ∀ token ∈ tokens, IsWord token) :
    (e.forceClasses true tokens).classWords = (e.classWords ++ tokens).eraseDups := by
  have hnodup : e.classWords.eraseDups.Nodup := toList_classes e ▸ e.sound_classes.nodup
  rw [forceClasses, classWords_writeClasses (e.sound_classes.force hw true)]
  refine (ClassTokens.toList_add e.sound_classes hw).trans ?_
  rw [toList_classes, List.eraseDups_append, List.eraseDups_append,
    eraseDups_of_nodup hnodup]
  simp [List.removeAll]

/-- **The classes after tokens were removed** are those before without them, each at its first
place. -/
theorem classWords_forceClasses_false (hw : ∀ token ∈ tokens, IsWord token) :
    (e.forceClasses false tokens).classWords = e.classWords.eraseDups.filter (· ∉ tokens) := by
  rw [forceClasses, classWords_writeClasses (e.sound_classes.force hw false), ← toList_classes]
  exact ClassTokens.toList_remove

/-- The element `e` has become `e'`, with the words `l` as its classes. -/
structure Reclassed (e : Element) (l : List String) (e' : Element) : Prop where
  words : e'.classWords = l
  nodup : l.Nodup
  /-- An element without a class attribute does not get one for no class. -/
  bare : e.attributes.get? "class" = none → l = [] → e' = e
  otherAttributes : ∀ name, Text.equalsIgnoringCase "class" name = false →
    e'.attributes.get? name = e.attributes.get? name
  rest : { e' with attributes := e.attributes } = e

theorem reclassed_forceClasses (e : Element) (wanted : Bool)
    (hw : ∀ token ∈ tokens, IsWord token) :
    e.Reclassed (e.forceClasses wanted tokens).classWords (e.forceClasses wanted tokens) := by
  have hsound := e.sound_classes.force hw wanted
  have hwords : (e.forceClasses wanted tokens).classWords = (e.classes.force wanted tokens).toList :=
    classWords_writeClasses hsound
  refine ⟨rfl, hwords ▸ hsound.nodup, fun hnone hnil => ?_, fun name hname => ?_, ?_⟩
  · have habsent : e.attributes.contains "class" = false := by
      rw [← Attributes.isSome_get?, hnone]
      rfl
    have hempty : (e.classes.force wanted tokens).isEmpty = true := by
      rw [ClassTokens.isEmpty, ← hwords, hnil]
      rfl
    rw [forceClasses, writeClasses, habsent, hempty]
    rfl
  · unfold forceClasses writeClasses
    split
    · rw [setAttribute, Attributes.get?_insert, hname]
      rfl
    · rfl
  · unfold forceClasses writeClasses
    split <;> rfl

/-- **The two tests for a class agree**: the set has the words of the attribute as its tokens. -/
theorem contains_classes_iff : e.classes.contains s = true ↔ s ∈ e.classWords := by
  rw [ClassTokens.contains, List.contains_iff_mem, toList_classes, List.mem_eraseDups]

theorem hasClass_iff : e.hasClass s = true ↔ s ∈ e.classWords := by
  unfold hasClass classWords
  cases e.attributes.get? "class" with
  | none => exact iff_of_false nofun nofun
  | some value => exact List.contains_iff_mem

end Element

/-! ## Changes of elements -/

namespace Tree

variable {t : Tree} {id : NodeId} {token : String}

theorem addClasses_eq (t : Tree) (r : NodeRef) (tokens : List String) :
    t.addClasses r tokens = t.modifyElement r (·.forceClasses true tokens) := by
  unfold addClasses updateClasses updateElement modifyElement
  cases t.element r <;> rfl

theorem removeClasses_eq (t : Tree) (r : NodeRef) (tokens : List String) :
    t.removeClasses r tokens = t.modifyElement r (·.forceClasses false tokens) := by
  unfold removeClasses updateClasses updateElement modifyElement
  cases t.element r <;> rfl

/-- To force one token is to add or remove it. -/
theorem toggleClass_eq (ht : token ≠ "") (t : Tree) (r : NodeRef) (wanted : Bool) :
    (return (← t.toggleClass r token (some wanted)).2) =
      t.modifyElement r (·.forceClasses wanted [token]) := by
  have hempty : token.isEmpty = false := by simpa using ht
  unfold toggleClass updateClasses updateElement modifyElement
  rw [hempty]
  cases t.element r with
  | error e => rfl
  | ok e => cases wanted <;> rfl

theorem setElement_setElement (t : Tree) (e e' : Element) :
    (t.setElement id e).setElement id e' = t.setElement id e' := by
  refine congrArg mk (Array.ext_getElem? fun i => ?_)
  simp only [setElement, setData, modify, Array.getElem?_modify]
  split
  · rw [Option.map_map]
    rfl
  · rfl

/-- **An element that was written is changed again** without a trace of the first writing. -/
theorem modifyElement_setElement (he : t.isElement (some id) = true) (e : Element)
    (g : Element → Element) :
    (t.setElement id e).modifyElement (some id) g = .ok (t.setElement id (g e)) := by
  refine modifyElement_eq_ok.mpr ⟨id, e, rfl, ?_, (setElement_setElement t e (g e)).symm⟩
  rw [element?_setElement he, if_pos rfl]

end Tree

/-! ## Verbs -/

section Verbs

open WebPage.Tree

variable {p : Page} {target : Target} {ids : List NodeId} {names s : String}
  {f : Element → Element} {e : Element} {id x : NodeId}

/-- **A change after a change of one element** is one change, and fails as the first one does. -/
theorem editTree_modifyElement_bind (r : NodeRef) (f g : Element → Element) :
    (Verb.editTree (·.modifyElement r f) >>= fun _ => Verb.editTree (·.modifyElement r g)) =
      Verb.editTree (·.modifyElement r fun e => g (f e)) := by
  funext p
  cases he : p.document.tree.element r with
  | error error =>
    have hfail : ∀ h : Element → Element, p.document.tree.modifyElement r h = .error error := by
      intro h
      rw [modifyElement, he]
      rfl
    rw [bind_apply_of_error (editTree_of_error (hfail f)), editTree_of_error (hfail _)]
  | ok e =>
    obtain ⟨id, e, rfl, he, ht⟩ := modifyElement_eq_ok.mp
      (show p.document.tree.modifyElement r f = .ok _ by rw [modifyElement, he]; rfl)
    have hid : p.document.tree.isElement (some id) = true := isElement_of_element? he
    rw [bind_apply_of_ok (editTree_of_ok (modifyElement_eq_ok.mpr ⟨id, e, rfl, he, rfl⟩)),
      editTree_of_ok (modifyElement_setElement hid (f e) g),
      editTree_of_ok (modifyElement_eq_ok.mpr ⟨id, e, rfl, he, rfl⟩)]
    rfl

/-- **To force tokens one by one** is to force them together. -/
theorem forM_toggleClass (r : NodeRef) (wanted : Bool) (token : String) (tokens : List String)
    (hw : ∀ token' ∈ token :: tokens, IsWord token') :
    ((token :: tokens).forM fun name =>
        Verb.editTree fun t => return (← t.toggleClass r name (some wanted)).2) =
      Verb.editTree (·.modifyElement r (·.forceClasses wanted (token :: tokens))) := by
  induction tokens generalizing token with
  | nil =>
    obtain ⟨htoken, -⟩ := List.forall_mem_cons.mp hw
    have hone := funext fun t => toggleClass_eq htoken.1 t r wanted
    rw [List.forM_eq_forM, List.forM_cons, hone]
    exact bind_pure_unit
  | cons next tokens ih =>
    obtain ⟨htoken, hw⟩ := List.forall_mem_cons.mp hw
    have hone := funext fun t => toggleClass_eq htoken.1 t r wanted
    rw [List.forM_eq_forM, List.forM_cons, hone, ← List.forM_eq_forM, ih next hw,
      editTree_modifyElement_bind]
    refine congrArg Verb.editTree (funext fun t => congrArg (t.modifyElement r) (funext fun e => ?_))
    exact e.forceClasses_append (List.forall_mem_singleton.mpr htoken) hw

theorem toggleClass_some (hne : Text.words names ≠ []) (target : Target) (wanted : Bool) :
    Page.toggleClass target names (some wanted) =
      Page.editTreeAll target (·.modifyElement · (·.forceClasses wanted (Text.words names))) := by
  obtain ⟨token, tokens, hwords⟩ := List.exists_cons_of_ne_nil hne
  have hw : ∀ token' ∈ token :: tokens, IsWord token' := by
    rw [← hwords]
    exact fun _ => Text.isWord_of_mem_words
  unfold Page.toggleClass Page.editTreeAll
  rw [hwords]
  exact congrArg (Page.forAll target)
    (funext fun id => forM_toggleClass (some id) wanted token tokens hw)

theorem addClass_eq (target : Target) (names : String) : Page.addClass target names =
    Page.editTreeAll target (·.modifyElement · (·.forceClasses true (Text.words names))) :=
  congrArg (Page.editTreeAll target) (funext fun t => funext fun r => addClasses_eq t r _)

theorem removeClass_eq (target : Target) (names : String) : Page.removeClass target names =
    Page.editTreeAll target (·.modifyElement · (·.forceClasses false (Text.words names))) :=
  congrArg (Page.editTreeAll target) (funext fun t => funext fun r => removeClasses_eq t r _)

/-! ## Targets -/

/-- The elements `ids` are changed by `f`, in place. -/
structure ElementsChanged (t : Tree) (ids : List NodeId) (f : Element → Element) (t' : Tree) :
    Prop where
  frame : SameFrame t t'
  targets : ∀ x ∈ ids, t'.element? (some x) = (t.element? (some x)).map f
  others : ∀ x ∉ ids, t'.node? (some x) = t.node? (some x)

/-- One element is changed, and then others, perhaps itself again. -/
theorem ElementsChanged.cons {t t' : Tree} (hread : t.element? (some id) = some e)
    (hf : f (f e) = f e)
    (h : ElementsChanged (t.setElement id (f e)) ids f t') : ElementsChanged t (id :: ids) f t' := by
  have hid : t.isElement (some id) = true := isElement_of_element? hread
  have hself : (t.setElement id (f e)).element? (some id) = some (f e) := by
    rw [element?_setElement hid, if_pos rfl]
  refine ⟨(sameFrame_setElement hid).trans h.frame, fun x hx => ?_, fun x hx => ?_⟩
  · by_cases hxid : x = id
    · subst hxid
      rw [hread, Option.map_some]
      by_cases hmem : x ∈ ids
      · rw [h.targets x hmem, hself, Option.map_some, hf]
      · rw [element?, h.others x hmem]
        exact hself
    · have hmem := (List.mem_cons.mp hx).resolve_left hxid
      rw [h.targets x hmem, element?_setElement hid, if_neg fun he => hxid (Option.some.inj he)]
  · have hxid : some x ≠ some id := fun he => hx (Option.some.inj he ▸ List.mem_cons_self)
    rw [h.others x fun hmem => hx (List.mem_cons_of_mem id hmem), setElement, setData, node?_modify,
      if_neg hxid]

/-- **A change that does nothing the second time**, on the elements of a target, is made to all of
them, however often they are named. -/
theorem editTreeAll_modifyElement (hids : p.resolveAll target = .ok ids)
    (he : ∀ x ∈ ids, p.document.tree.isElement (some x) = true)
    (hf : ∀ x ∈ ids, ∀ e, p.document.tree.element? (some x) = some e → f (f e) = f e) :
    ∃ t', Page.editTreeAll target (·.modifyElement · f) p = .ok () (p.withTree t') ∧
      ElementsChanged p.document.tree ids f t' := by
  have hresolve : Page.editTreeAll target (·.modifyElement · f) p =
      (ids.forM fun id => Verb.editTree (·.modifyElement (some id) f)) p := by
    rw [Page.editTreeAll, Page.forAll, get_bind_apply, hids]
    rfl
  rw [hresolve]
  clear hresolve hids
  induction ids generalizing p with
  | nil => exact ⟨p.document.tree, rfl, .refl _, by simp, fun _ _ => rfl⟩
  | cons id ids ih =>
    obtain ⟨hid, he⟩ := List.forall_mem_cons.mp he
    obtain ⟨hfid, hf⟩ := List.forall_mem_cons.mp hf
    obtain ⟨e, hread⟩ := Option.isSome_iff_exists.mp hid
    have hstep : p.document.tree.modifyElement (some id) f =
        .ok (p.document.tree.setElement id (f e)) :=
      modifyElement_eq_ok.mpr ⟨id, e, rfl, hread, rfl⟩
    have hframe := sameFrame_setElement (e := f e) hid
    have hagain : ∀ x ∈ ids, ∀ e', (p.document.tree.setElement id (f e)).element? (some x) =
        some e' → f (f e') = f e' := by
      intro x hx e' he'
      rw [element?_setElement hid] at he'
      split at he'
      · obtain rfl := Option.some.inj he'
        exact congrArg f (hfid e hread)
      · exact hf x hx e' he'
    obtain ⟨t', hrun, hchanged⟩ := ih (p := p.withTree (p.document.tree.setElement id (f e)))
      (fun x hx => (congrFun hframe.isElement_eq (some x)).trans (he x hx)) hagain
    refine ⟨t', ?_, .cons hread (hfid e hread) hchanged⟩
    rw [List.forM_eq_forM, List.forM_cons, bind_apply_of_ok (editTree_of_ok hstep)]
    exact hrun

/-! ## Tests -/

/-- The escaped form of a name, with a dot in front of it, asks for that class. -/
theorem parse_className (hs : Selector.IsName s) :
    Selector.SelectorList.parse (String.ofList ('.' :: Selector.escape s.toList)) =
      .ok ⟨[.single (.mk none [.className s])]⟩ :=
  Selector.parse_opening_body (.className s) hs

theorem matches_className (hs : Selector.IsName s) (he : p.document.tree.element? (some x) = some e) :
    p.document.matches (some x) (String.ofList ('.' :: Selector.escape s.toList)) =
      .ok (e.hasClass s) := by
  have hmatches : (⟨[.single (.mk none [.className s])]⟩ : Selector.SelectorList).matches
      p.document.tree x = e.hasClass s := by
    simp [Selector.SelectorList.matches, Selector.anyMatches, Selector.Complex.matches,
      Selector.Compound.matches, Selector.tagMatches, Selector.allMatch, Selector.Simple.matches, he]
  unfold Document.matches
  rw [parse_className hs, element_eq_ok.mpr he]
  exact congrArg Except.ok hmatches

/-! ## Sets of tokens -/

/-- The class attributes of the elements `ids` have been rewritten, each from its words to the words
that `l` makes of them, and nothing else has changed. -/
structure ClassesBecome (t : Tree) (ids : List NodeId) (l : List String → List String) (t' : Tree) :
    Prop where
  frame : SameFrame t t'
  targets : ∀ x ∈ ids, ∃ e e', t.element? (some x) = some e ∧ t'.element? (some x) = some e' ∧
    e.Reclassed (l e.classWords) e'
  others : ∀ x ∉ ids, t'.node? (some x) = t.node? (some x)

/-- **The words of a text are forced** on all elements of a target. -/
theorem editTreeAll_forceClasses {l : List String → List String} (wanted : Bool) (names : String)
    (hl : ∀ e : Element, (e.forceClasses wanted (Text.words names)).classWords = l e.classWords)
    (hids : p.resolveAll target = .ok ids)
    (he : ∀ x ∈ ids, p.document.tree.isElement (some x) = true) :
    ∃ t', Page.editTreeAll target
        (·.modifyElement · (·.forceClasses wanted (Text.words names))) p = .ok () (p.withTree t') ∧
      ClassesBecome p.document.tree ids l t' := by
  have hw : ∀ token ∈ Text.words names, IsWord token := fun _ => Text.isWord_of_mem_words
  obtain ⟨t', hrun, hchanged⟩ := editTreeAll_modifyElement
    (f := (·.forceClasses wanted (Text.words names))) hids he
    fun _ _ e _ => e.forceClasses_forceClasses hw
  refine ⟨t', hrun, hchanged.frame, fun x hx => ?_, hchanged.others⟩
  obtain ⟨e, hread⟩ := Option.isSome_iff_exists.mp (he x hx)
  refine ⟨e, e.forceClasses wanted (Text.words names), hread, ?_,
    hl e ▸ e.reclassed_forceClasses wanted hw⟩
  rw [hchanged.targets x hx, hread, Option.map_some]

theorem hasClass_of_element? {t : Tree} (hread : t.element? (some x) = some e) (s : String) :
    t.hasClass (some x) s = .ok (e.hasClass s) := by
  rw [Tree.hasClass, element_eq_ok.mpr hread]
  rfl

/-- What has become of each class. -/
theorem ClassesBecome.hasClass_iff {t t' : Tree} {l : List String → List String}
    (h : ClassesBecome t ids l t') (hx : x ∈ ids) (s : String) :
    ∃ old, (t.hasClass (some x) s = .ok true ↔ s ∈ old) ∧
      (t'.hasClass (some x) s = .ok true ↔ s ∈ l old) := by
  obtain ⟨e, e', hread, hread', hclasses⟩ := h.targets x hx
  refine ⟨e.classWords, ?_, ?_⟩
  · rw [hasClass_of_element? hread, Except.ok.injEq, Element.hasClass_iff]
  · rw [hasClass_of_element? hread', Except.ok.injEq, Element.hasClass_iff, hclasses.words]

/-- **Class verbs are set operations on tokens**, on every page and for every target whose nodes are
elements:
* adding the words of a text puts them behind the words of the attribute, each word once, at its
  first place;
* removing them leaves the other words, each once, at its first place;
* the verb that asks for a class, the set of tokens and the selector for the escaped class agree;
* to force a text that has a word on is to add it, and to force it off is to remove it, whatever the
  target is. -/
theorem class_verbs (names : String) (hids : p.resolveAll target = .ok ids)
    (he : ∀ x ∈ ids, p.document.tree.isElement (some x) = true) :
    (∃ t', Page.addClass target names p = .ok () (p.withTree t') ∧
      ClassesBecome p.document.tree ids (fun old => (old ++ Text.words names).eraseDups) t' ∧
      ∀ x ∈ ids, ∀ s, t'.hasClass (some x) s = .ok true ↔
        p.document.tree.hasClass (some x) s = .ok true ∨ s ∈ Text.words names) ∧
    (∃ t', Page.removeClass target names p = .ok () (p.withTree t') ∧
      ClassesBecome p.document.tree ids
        (fun old => old.eraseDups.filter (· ∉ Text.words names)) t' ∧
      ∀ x ∈ ids, ∀ s, t'.hasClass (some x) s = .ok true ↔
        p.document.tree.hasClass (some x) s = .ok true ∧ s ∉ Text.words names) ∧
    (∀ x e s, p.document.tree.element? (some x) = some e →
      ∃ b, (b = true ↔ s ∈ e.classWords) ∧ p.document.tree.hasClass (some x) s = .ok b ∧
        p.hasClass (.node (some x)) s = .ok b ∧ e.classes.contains s = b ∧
        (Selector.IsName s → p.document.matches (some x)
          (String.ofList ('.' :: Selector.escape s.toList)) = .ok b)) ∧
    (Text.words names ≠ [] →
      Page.toggleClass target names (some true) = Page.addClass target names ∧
        Page.toggleClass target names (some false) = Page.removeClass target names) := by
  have hw : ∀ token ∈ Text.words names, IsWord token := fun _ => Text.isWord_of_mem_words
  refine ⟨?_, ?_, fun x e s hread => ?_, fun hne => ⟨?_, ?_⟩⟩
  · obtain ⟨t', hrun, hbecome⟩ := editTreeAll_forceClasses
      (l := fun old => (old ++ Text.words names).eraseDups) true names
      (fun _ => Element.classWords_forceClasses_true hw) hids he
    refine ⟨t', addClass_eq target names ▸ hrun, hbecome, fun x hx s => ?_⟩
    obtain ⟨old, hold, hnew⟩ := hbecome.hasClass_iff hx s
    rw [hold, hnew, List.mem_eraseDups, List.mem_append]
  · obtain ⟨t', hrun, hbecome⟩ := editTreeAll_forceClasses
      (l := fun old => old.eraseDups.filter (· ∉ Text.words names)) false names
      (fun _ => Element.classWords_forceClasses_false hw) hids he
    refine ⟨t', removeClass_eq target names ▸ hrun, hbecome, fun x hx s => ?_⟩
    obtain ⟨old, hold, hnew⟩ := hbecome.hasClass_iff hx s
    rw [hold, hnew, List.mem_filter, List.mem_eraseDups, decide_eq_true_iff]
  · refine ⟨e.hasClass s, Element.hasClass_iff, hasClass_of_element? hread s, ?_, ?_,
      fun hs => matches_className hs hread⟩
    · show Page.lift (p.document.tree.hasClass (some x) s) = _
      rw [hasClass_of_element? hread]
      rfl
    · rw [Bool.eq_iff_iff, Element.contains_classes_iff, Element.hasClass_iff]
  · rw [toggleClass_some hne, addClass_eq]
  · rw [toggleClass_some hne, removeClass_eq]

/-- A page whose `body` has a class twice. -/
def repeatedClass : Page where
  document :=
    { tree := Document.skeletonTree.setElement 3 ((Element.ofTag "body").setAttribute "class" "a c a")
      url := "about:blank" }

/-- A target that names `body` twice, and no node between. -/
theorem class_verbs_repeatedClass :
    let target : Target := .nodes [some 3, none, some 1, some 3]
    repeatedClass.resolveAll target = .ok [3, 1, 3] ∧
      (∀ x ∈ [3, 1, 3], repeatedClass.document.tree.isElement (some x) = true) ∧
      (∃ t', Page.addClass target " b a b " repeatedClass = .ok () (repeatedClass.withTree t') ∧
        t'.hasClass (some 1) "b" = .ok true) ∧
      (∃ t', Page.removeClass target " b a b " repeatedClass = .ok () (repeatedClass.withTree t') ∧
        t'.hasClass (some 3) "a" ≠ .ok true) ∧
      Page.toggleClass target " b a b " (some true) = Page.addClass target " b a b " := by
  intro target
  have hids : repeatedClass.resolveAll target = .ok [3, 1, 3] := rfl
  have helements : ∀ x ∈ [3, 1, 3], repeatedClass.document.tree.isElement (some x) = true := by
    decide +kernel
  have hwords : Text.words " b a b " = ["b", "a", "b"] := by decide +kernel
  obtain ⟨⟨t₁, hadd, -, hclasses₁⟩, ⟨t₂, hremove, -, hclasses₂⟩, -, htoggle⟩ :=
    class_verbs " b a b " hids helements
  rw [hwords] at hclasses₁ hclasses₂ htoggle
  refine ⟨hids, helements, ⟨t₁, hadd, ?_⟩, ⟨t₂, hremove, ?_⟩, (htoggle (by decide)).1⟩
  · exact (hclasses₁ 1 (by decide) "b").mpr (.inr (by decide))
  · intro h
    exact ((hclasses₂ 3 (by decide) "a").mp h).2 (by decide)

end Verbs

end WebPage
