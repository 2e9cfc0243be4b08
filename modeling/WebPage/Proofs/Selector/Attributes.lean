import WebPage.Document
import WebPage.Proofs.Tree.SameBut

/-!
# The attributes that a selector looks at

A selector looks at the attributes that its tests are about, and at no other one. In trees that
agree but for an attribute that it does not look at, it describes the same elements.

## Main definitions

* `PseudoClass.looksAt`, `Simple.looksAt`, …, `SelectorList.looksAt`: whether some test is about an
  attribute

## Main results

* `candidates_eq_of_sameFrame`: what stands on the left of a combinator is a matter of links
* `SelectorList.matches_eq_of_sameBut`: a selector that does not look at an attribute describes the
  same elements, whatever becomes of the attribute
-/

namespace WebPage.Selector

open WebPage.Tree (SameFrame)

/-! ## What the tests are about -/

/-- Whether a state is read off an attribute. -/
def PseudoClass.looksAt (name : String) : PseudoClass → Bool
  | checked => ["type", "checked", "selected"].any (Text.equalsIgnoringCase name)
  | disabled | enabled => Text.equalsIgnoringCase name "disabled"
  | firstChild | lastChild | onlyChild | empty | root => false

mutual

/-- Whether a test is about an attribute. -/
def Simple.looksAt (name : String) : Simple → Bool
  | .id _ => Text.equalsIgnoringCase name "id"
  | .className _ => Text.equalsIgnoringCase name "class"
  | .attribute other _ _ => Text.equalsIgnoringCase name other
  | .pseudo state => state.looksAt name
  | .not alternatives => anyLooksAt name alternatives

/-- Whether one of some tests is about an attribute. -/
def allLookAt (name : String) : List Simple → Bool
  | [] => false
  | part :: parts => part.looksAt name || allLookAt name parts

/-- Whether a test of a compound is about an attribute. -/
def Compound.looksAt (name : String) : Compound → Bool
  | .mk _ parts => allLookAt name parts

/-- Whether a test of a chain is about an attribute. -/
def Complex.looksAt (name : String) : Complex → Bool
  | .single compound => compound.looksAt name
  | .join left _ right => left.looksAt name || right.looksAt name

/-- Whether a test of one of the alternatives is about an attribute. -/
def anyLooksAt (name : String) : List Complex → Bool
  | [] => false
  | chain :: chains => chain.looksAt name || anyLooksAt name chains

end

/-- Whether a test of a selector is about an attribute. -/
def SelectorList.looksAt (name : String) (list : SelectorList) : Bool :=
  anyLooksAt name list.alternatives

/-! ## Tests that are about links -/

section Frame

variable {t t' : Tree} (h : SameFrame t t')
include h

theorem previousElementSibling_eq_of_sameFrame :
    t'.previousElementSibling = t.previousElementSibling := by
  funext r
  unfold Tree.previousElementSibling
  rw [h.prevSibling, h.size_eq, h.isElement_eq]

theorem nextElementSibling_eq_of_sameFrame : t'.nextElementSibling = t.nextElementSibling := by
  funext r
  unfold Tree.nextElementSibling
  rw [h.nextSibling, h.size_eq, h.isElement_eq]

theorem parentElement_eq_of_sameFrame : parentElement t' = parentElement t := by
  funext r
  unfold parentElement
  rw [h.parent, h.isElement_eq]

/-- What stands on the left of a combinator is a matter of links. -/
theorem candidates_eq_of_sameFrame (k : Combinator) (x : NodeId) :
    candidates t' k x = candidates t k x := by
  cases k with
  | descendant => simp only [candidates, parentElement_eq_of_sameFrame h, h.size_eq]
  | child => simp only [candidates, parentElement_eq_of_sameFrame h]
  | nextSibling => simp only [candidates, previousElementSibling_eq_of_sameFrame h]
  | subsequentSibling =>
    simp only [candidates, previousElementSibling_eq_of_sameFrame h, h.size_eq]

end Frame

/-! ## Tests in trees that agree but for one attribute -/

/-- An element among the children is neither an empty text nor a comment. -/
theorem any_isEmptyChild_of_isElement {t : Tree} {r : NodeRef} (h : t.isElement r = true) :
    ((t.node? r).any fun n => !n.isElement && n.text?.all String.isEmpty) = false := by
  cases hn : t.node? r with
  | none => rfl
  | some n =>
    rw [Tree.isElement, Tree.element?, hn] at h
    have hn : n.isElement = true := h
    rw [Option.any_some, hn]
    rfl

section Tests

variable {name : String} {t t' : Tree} (h : t.SameBut name t') {x : NodeId} {e e' : Element}
include h

/-- A node without children but empty texts and comments is one afterwards. -/
theorem isEmptyNode_eq_of_sameBut (r : NodeRef) : isEmptyNode t' r = isEmptyNode t r := by
  unfold isEmptyNode
  rw [h.frame.childIds_eq]
  refine congrArg (t.childIds r).all (funext fun c => ?_)
  cases hc : t.isElement (some c) with
  | true =>
    -- an element is none of these, whatever its attributes are
    have hc' : t'.isElement (some c) = true := by rw [h.frame.isElement_eq, hc]
    rw [any_isEmptyChild_of_isElement hc, any_isEmptyChild_of_isElement hc']
  | false => rw [h.others _ hc]

theorem PseudoClass.holds_eq_of_sameBut (he : e.SameBut name e') (state : PseudoClass)
    (hl : state.looksAt name = false) : state.holds t' x e' = state.holds t x e := by
  have hprev := previousElementSibling_eq_of_sameFrame h.frame
  have hnext := nextElementSibling_eq_of_sameFrame h.frame
  cases state with
  | firstChild => simp only [holds, h.frame.parent, hprev]
  | lastChild => simp only [holds, h.frame.parent, hnext]
  | onlyChild => simp only [holds, h.frame.parent, hprev, hnext]
  | empty => exact isEmptyNode_eq_of_sameBut h _
  | root => simp only [holds, h.frame.parent]
  | checked =>
    simp only [looksAt, List.any_cons, List.any_nil, Bool.or_false, Bool.or_eq_false_iff] at hl
    obtain ⟨htype, hchecked, hselected⟩ := hl
    simp only [holds, Element.isCheckable, he.inputType?_eq htype, he.tag_eq,
      he.isChecked_eq hchecked hselected]
  | disabled => exact he.isDisabled_eq hl
  | enabled => simp only [holds, he.isFormControl_eq, he.isDisabled_eq hl]

end Tests

-- The induction is on the selector. Both trees have the same elements in the same places, so the
-- parts of a chain are met at the same nodes.
mutual

/-- **A test that is not about the attribute** has the same outcome. -/
theorem Simple.matches_eq_of_sameBut {name : String} {t t' : Tree} (h : t.SameBut name t') :
    ∀ (part : Simple), part.looksAt name = false → ∀ {x : NodeId} {e e' : Element},
      e.SameBut name e' → part.matches t' x e' = part.matches t x e
  | .id value, hl, x, e, e', he => by
    rw [Simple.looksAt] at hl
    rw [Simple.matches, Simple.matches, Element.id?, Element.id?, he.others _ hl]
  | .className token, hl, x, e, e', he => by
    rw [Simple.looksAt] at hl
    rw [Simple.matches, Simple.matches, Element.hasClass, Element.hasClass, he.others _ hl]
  | .attribute other test ignoreCase, hl, x, e, e', he => by
    rw [Simple.looksAt] at hl
    unfold Simple.matches
    rw [he.others _ hl]
  | .pseudo state, hl, x, e, e', he => by
    rw [Simple.looksAt] at hl
    rw [Simple.matches, Simple.matches, PseudoClass.holds_eq_of_sameBut h he state hl]
  | .not alternatives, hl, x, e, e', _ => by
    rw [Simple.looksAt] at hl
    rw [Simple.matches, Simple.matches, anyMatches_eq_of_sameBut h alternatives hl]

theorem allMatch_eq_of_sameBut {name : String} {t t' : Tree} (h : t.SameBut name t') :
    ∀ (parts : List Simple), allLookAt name parts = false → ∀ {x : NodeId} {e e' : Element},
      e.SameBut name e' → allMatch t' x e' parts = allMatch t x e parts
  | [], _, x, e, e', _ => by rw [allMatch, allMatch]
  | part :: parts, hl, x, e, e', he => by
    rw [allLookAt, Bool.or_eq_false_iff] at hl
    rw [allMatch, allMatch, Simple.matches_eq_of_sameBut h part hl.1 he,
      allMatch_eq_of_sameBut h parts hl.2 he]

theorem Compound.matches_eq_of_sameBut {name : String} {t t' : Tree} (h : t.SameBut name t') :
    ∀ (compound : Compound), compound.looksAt name = false → ∀ {x : NodeId},
      compound.matches t' x = compound.matches t x
  | .mk tag parts, hl, x => by
    rw [Compound.looksAt] at hl
    have hread : ∀ e e' : Element, e.SameBut name e' →
        (tagMatches tag e' && allMatch t' x e' parts) =
          (tagMatches tag e && allMatch t x e parts) := by
      intro e e' he
      rw [allMatch_eq_of_sameBut h parts hl he]
      unfold tagMatches
      rw [he.tag_eq]
    unfold Compound.matches
    cases he : t.element? (some x) with
    | none =>
      have hnone := h.element?_map_eq (f := fun _ => ()) (fun _ _ _ => rfl) (some x)
      rw [he, Option.map_none, Option.map_eq_none_iff] at hnone
      rw [hnone]
    | some e =>
      obtain ⟨e', he', hsame⟩ := h.elements _ e he
      rw [he']
      exact hread e e' hsame

theorem Complex.matches_eq_of_sameBut {name : String} {t t' : Tree} (h : t.SameBut name t') :
    ∀ (chain : Complex), chain.looksAt name = false → ∀ {x : NodeId},
      chain.matches t' x = chain.matches t x
  | .single compound, hl, x => by
    rw [Complex.looksAt] at hl
    rw [Complex.matches, Complex.matches, Compound.matches_eq_of_sameBut h compound hl]
  | .join left k right, hl, x => by
    rw [Complex.looksAt, Bool.or_eq_false_iff] at hl
    have hleft : left.matches t' = left.matches t :=
      funext fun y => Complex.matches_eq_of_sameBut h left hl.1
    rw [Complex.matches, Complex.matches, Compound.matches_eq_of_sameBut h right hl.2, hleft,
      candidates_eq_of_sameFrame h.frame]

theorem anyMatches_eq_of_sameBut {name : String} {t t' : Tree} (h : t.SameBut name t') :
    ∀ (alternatives : List Complex), anyLooksAt name alternatives = false → ∀ {x : NodeId},
      anyMatches t' x alternatives = anyMatches t x alternatives
  | [], _, x => by rw [anyMatches, anyMatches]
  | chain :: chains, hl, x => by
    rw [anyLooksAt, Bool.or_eq_false_iff] at hl
    rw [anyMatches, anyMatches, Complex.matches_eq_of_sameBut h chain hl.1,
      anyMatches_eq_of_sameBut h chains hl.2]

end

/-- **A selector that does not look at an attribute** describes the same elements, whatever becomes
of the attribute. -/
theorem SelectorList.matches_eq_of_sameBut {name : String} {t t' : Tree} (h : t.SameBut name t')
    (list : SelectorList) (hl : list.looksAt name = false) : list.matches t' = list.matches t :=
  funext fun _ => anyMatches_eq_of_sameBut h list.alternatives hl

end WebPage.Selector
