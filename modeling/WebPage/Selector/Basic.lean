/-!
# Selectors

A selector list names elements by what they are and where they stand. It is a list of
alternatives; each is a chain of compounds joined by combinators, and each compound is a
conjunction of simple selectors.

A chain is kept with its last compound outermost, so that reading a chain from the outside in goes
from the element that it names to the elements that this one stands next to or below.

## Main definitions

* `Combinator`: how two compounds of a chain stand to each other
* `AttributeTest`, `PseudoClass`: the tests of a simple selector
* `Simple`, `Compound`, `Complex`: the three layers
* `SelectorList`: the alternatives
-/

namespace WebPage.Selector

/-- How the element of one compound stands to the element of the next. -/
inductive Combinator where
  | descendant
  | child
  | nextSibling
  | subsequentSibling
deriving DecidableEq, Repr

/-- How the value of an attribute is compared. -/
inductive AttributeTest where
  | equals
  /-- The value has the text among its words. -/
  | hasWord
  /-- The value is the text, or goes on with a hyphen after it. -/
  | dashMatch
  | startsWith
  | endsWith
  | contains
deriving DecidableEq, Repr

/-- A state of an element that has a name. -/
inductive PseudoClass where
  | firstChild
  | lastChild
  | onlyChild
  | empty
  | root
  | checked
  | disabled
  | enabled
deriving DecidableEq, Repr

mutual

/-- One test of an element. -/
inductive Simple where
  | id (name : String)
  | className (token : String)
  /-- The attribute is present and, if there is a test, its value passes. -/
  | attribute (name : String) (test : Option (AttributeTest × String)) (ignoreCase : Bool)
  | pseudo (state : PseudoClass)
  /-- None of the alternatives holds. -/
  | not (alternatives : List Complex)

/-- Tests of one element: its tag, where `*` stands for all, and any number of others. -/
inductive Compound where
  | mk (tag : Option String) (parts : List Simple)

/-- A chain of compounds. -/
inductive Complex where
  | single (compound : Compound)
  | join (left : Complex) (combinator : Combinator) (right : Compound)

end

/-- Alternatives, of which one has to hold. -/
structure SelectorList where
  alternatives : List Complex

mutual

/-- Whether two simple selectors are the same. -/
def Simple.same : Simple → Simple → Bool
  | .id a, .id b => a == b
  | .className a, .className b => a == b
  | .attribute a s i, .attribute b t j => a == b && s == t && i == j
  | .pseudo a, .pseudo b => a == b
  | .not a, .not b => sameAlternatives a b
  | _, _ => false

/-- Whether two compounds are the same. -/
def Compound.same : Compound → Compound → Bool
  | .mk a ps, .mk b qs => a == b && sameParts ps qs

/-- Whether two chains are the same. -/
def Complex.same : Complex → Complex → Bool
  | .single a, .single b => a.same b
  | .join l k a, .join m k' b => l.same m && k == k' && a.same b
  | _, _ => false

/-- Whether two conjunctions have the same members in the same order. -/
def sameParts : List Simple → List Simple → Bool
  | [], [] => true
  | p :: ps, q :: qs => p.same q && sameParts ps qs
  | _, _ => false

/-- Whether two lists of chains have the same members in the same order. -/
def sameAlternatives : List Complex → List Complex → Bool
  | [], [] => true
  | c :: cs, d :: ds => c.same d && sameAlternatives cs ds
  | _, _ => false

end

/-- Whether two selector lists are the same, alternative by alternative. -/
def SelectorList.same (a b : SelectorList) : Bool :=
  sameAlternatives a.alternatives b.alternatives

end WebPage.Selector
