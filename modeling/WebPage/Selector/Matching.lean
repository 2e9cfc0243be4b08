import WebPage.Form.Checkedness
import WebPage.Selector.Basic
import WebPage.Text.Lowercase

/-!
# Matching selectors

An element matches a chain if it passes the last compound and some element, standing as the
combinator says, matches the chain before it.

## Main definitions

* `AttributeTest.holds`, `PseudoClass.holds`: the tests
* `candidates`: the elements that stand to an element as a combinator says
* `Simple.matches`, `Compound.matches`, `Complex.matches`: the three layers
* `SelectorList.matches`: some alternative matches
-/

namespace WebPage.Selector

/-- Whether `part` is a run of neighbours in a text. -/
def occursIn (part : List Char) : List Char → Bool
  | [] => part.isEmpty
  | c :: cs => part.isPrefixOf (c :: cs) || occursIn part cs

/-- Whether `actual` passes the test against `expected`. The tests for a part of the text fail
against the empty text. -/
def AttributeTest.holds (test : AttributeTest) (actual expected : String) : Bool :=
  match test with
  | equals => actual == expected
  | hasWord => !expected.isEmpty && (Text.words actual).contains expected
  | dashMatch => actual == expected || (expected.toList ++ ['-']).isPrefixOf actual.toList
  | startsWith => !expected.isEmpty && expected.toList.isPrefixOf actual.toList
  | endsWith => !expected.isEmpty && expected.toList.isSuffixOf actual.toList
  | contains => !expected.isEmpty && occursIn expected.toList actual.toList

/-- Whether the value of an attribute passes a test, in lower case where case is ignored. -/
def passes (test : AttributeTest) (actual expected : String) (ignoreCase : Bool) : Bool :=
  if ignoreCase then test.holds (Text.lowercase actual) (Text.lowercase expected)
  else test.holds actual expected

/-- Whether a node has no children but texts without a character and comments. -/
def isEmptyNode (t : Tree) (r : NodeRef) : Bool :=
  (t.childIds r).all fun id =>
    (t.node? (some id)).any fun n => !n.isElement && n.text?.all String.isEmpty

/-- Whether an element is in a state. -/
def PseudoClass.holds (state : PseudoClass) (t : Tree) (id : NodeId) (e : Element) : Bool :=
  let r : NodeRef := some id
  let hasParent := (t.parent r).isSome
  match state with
  | firstChild => hasParent && (t.previousElementSibling r).isNone
  | lastChild => hasParent && (t.nextElementSibling r).isNone
  | onlyChild =>
    hasParent && (t.previousElementSibling r).isNone && (t.nextElementSibling r).isNone
  | empty => isEmptyNode t r
  | root => t.parent r == some documentNode
  | checked => (e.isCheckable || e.tag == "option") && e.isChecked
  | disabled => e.isDisabled
  | enabled => e.isFormControl && !e.isDisabled

/-- Whether a tag is the one that a compound asks for. -/
def tagMatches (tag : Option String) (e : Element) : Bool :=
  match tag with
  | none => true
  | some tag => tag == "*" || Text.equalsIgnoringCase e.tag tag

/-- The parent of a node, if it is an element. -/
def parentElement (t : Tree) (r : NodeRef) : NodeRef :=
  (t.parent r).filter fun id => t.isElement (some id)

/-- The elements that may stand on the left of a combinator with `id` on its right, the nearest
first. -/
def candidates (t : Tree) (k : Combinator) (id : NodeId) : List NodeId :=
  match k with
  | .descendant => Tree.chain (parentElement t) t.size (parentElement t id)
  | .child => (parentElement t id).toList
  | .nextSibling => (t.previousElementSibling id).toList
  | .subsequentSibling =>
    Tree.chain t.previousElementSibling t.size (t.previousElementSibling id)

mutual

/-- Whether an element passes a test. -/
def Simple.matches (t : Tree) (id : NodeId) (e : Element) : Simple → Bool
  | .id name => e.id? == some name
  | .className token => e.hasClass token
  | .attribute name test ignoreCase =>
    match e.attributes.get? name, test with
    | none, _ => false
    | some _, none => true
    | some actual, some (test, expected) => passes test actual expected ignoreCase
  | .pseudo state => state.holds t id e
  | .not alternatives => !anyMatches t id alternatives

/-- Whether an element passes all tests. -/
def allMatch (t : Tree) (id : NodeId) (e : Element) : List Simple → Bool
  | [] => true
  | part :: parts => part.matches t id e && allMatch t id e parts

/-- Whether a node is an element that a compound describes. -/
def Compound.matches (t : Tree) (id : NodeId) : Compound → Bool
  | .mk tag parts =>
    match t.element? (some id) with
    | none => false
    | some e => tagMatches tag e && allMatch t id e parts

/-- Whether a node is an element that a chain describes. -/
def Complex.matches (t : Tree) : Complex → NodeId → Bool
  | .single compound, id => compound.matches t id
  | .join left k right, id =>
    right.matches t id && (candidates t k id).any (left.matches t)

/-- Whether a node is an element that one of the alternatives describes. -/
def anyMatches (t : Tree) (id : NodeId) : List Complex → Bool
  | [] => false
  | chain :: chains => chain.matches t id || anyMatches t id chains

end

/-- Whether a node is an element that a selector list describes. -/
def SelectorList.matches (t : Tree) (list : SelectorList) (id : NodeId) : Bool :=
  anyMatches t id list.alternatives

end WebPage.Selector
