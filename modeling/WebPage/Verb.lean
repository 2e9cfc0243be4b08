import WebPage.Page

/-!
# Verbs

A verb reads or changes a page. A verb for one node takes the first node of its target, and fails
if there is none. A verb for all nodes takes them one after the other; if it fails at one of them,
what it did to those before stays done.

## Main definitions

* `Verb`: a change of a page that gives a value or fails
* `Page.readFirst`: reads from the first node of a target
* `Page.actOnFirst`: changes the document at the first node of a target
* `Page.editAll`: changes the document at each node of a target
-/

namespace WebPage

/-- A change of a page that gives a value or fails. What was done before a failure stays done. -/
abbrev Verb := EStateM VerbError Page

/-- A result, without a change of the page. -/
def Verb.ofResult {α : Type} : Except VerbError α → Verb α
  | .ok a => pure a
  | .error e => throw e

/-- Changes the document, or leaves it as it is on failure, and gives a value. -/
def Verb.act {α : Type} (f : Document → Except DomError (α × Document)) : Verb α := do
  let p ← get
  let (a, document) ← Verb.ofResult (Page.lift (f p.document))
  set { p with document }
  pure a

/-- Changes the document, or leaves it as it is on failure. -/
def Verb.edit (f : Document → Except DomError Document) : Verb Unit :=
  Verb.act fun d => return ((), ← f d)

/-- Changes the tree of the document, or leaves it as it is on failure. -/
def Verb.editTree (f : Tree → Except DomError Tree) : Verb Unit :=
  Verb.edit fun d => return { d with tree := ← f d.tree }

namespace Page

/-- Reads from the first node of a target. -/
def readFirst {α : Type} (p : Page) (target : Target) (f : Tree → NodeRef → Except DomError α) :
    Except VerbError α := do
  let id ← p.resolveRequired target
  lift (f p.document.tree (some id))

/-- Changes the document at the first node of a target. -/
def actOnFirst {α : Type} (target : Target)
    (f : Document → NodeRef → Except DomError (α × Document)) : Verb α := do
  let id ← Verb.ofResult ((← get).resolveRequired target)
  Verb.act fun d => f d (some id)

/-- Runs a verb on each node of a target. -/
def forAll (target : Target) (f : NodeId → Verb Unit) : Verb Unit := do
  let ids ← Verb.ofResult (lift ((← get).resolveAll target))
  ids.forM f

/-- Changes the document at each node of a target. -/
def editAll (target : Target) (f : Document → NodeRef → Except DomError Document) : Verb Unit :=
  forAll target fun id => Verb.edit fun d => f d (some id)

/-- Changes the tree of the document at each node of a target. -/
def editTreeAll (target : Target) (f : Tree → NodeRef → Except DomError Tree) : Verb Unit :=
  forAll target fun id => Verb.editTree fun t => f t (some id)

end Page

end WebPage
