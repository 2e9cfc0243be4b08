import WebPage.Config
import WebPage.Document

/-!
# Pages and the targets of their verbs

A page is a document with settings. The verbs of a page act on a target: what a selector describes,
one node, or several nodes.

## Main definitions

* `Page`: the state
* `Target`: what a verb acts on
* `VerbError`: why a verb fails
* `Page.resolveAll`, `Page.resolve`, `Page.resolveLast`, `Page.resolveNth`,
  `Page.resolveRequired`: the nodes of a target
-/

namespace WebPage

/-- A document with settings. -/
structure Page where
  document : Document
  config : Config := {}
deriving DecidableEq, Repr

/-- What a verb acts on. -/
inductive Target where
  | selector (text : String)
  | node (node : NodeRef)
  | nodes (nodes : List NodeRef)
deriving DecidableEq, Repr

/-- The text by which messages name a target. -/
def Target.text : Target → String
  | selector text => "selector " ++ Text.quote text
  | node r => NodeRef.text r
  | nodes rs => "[" ++ ", ".intercalate (rs.map NodeRef.text) ++ "]"

/-- Why a verb fails. -/
inductive VerbError where
  /-- One node is needed, and the target has none. -/
  | resolution (target : Target)
  /-- The document refuses the operation. -/
  | dom (error : DomError)
deriving DecidableEq, Repr

/-- The message of a failure. -/
def VerbError.message : VerbError → String
  | resolution target => "no element matches " ++ target.text
  | dom error => error.message

namespace Page

/-- A result of the document as a result of a verb. -/
def lift {α : Type} (result : Except DomError α) : Except VerbError α :=
  result.mapError .dom

/-- The nodes of a target: those that the selector describes in document order, or those given
without the references to no node. -/
def resolveAll (p : Page) : Target → Except DomError (List NodeId)
  | .selector text => p.document.querySelectorAll text
  | .node r => pure r.toList
  | .nodes rs => pure (rs.filterMap id)

/-- The first node of a target. -/
def resolve (p : Page) : Target → Except DomError NodeRef
  | .selector text => p.document.querySelector text
  | .node r => pure r
  | .nodes rs => pure (rs.findSome? id)

/-- The last node of a target. -/
def resolveLast (p : Page) (target : Target) : Except DomError NodeRef :=
  return (← p.resolveAll target).getLast?

/-- The node of a target at an index. -/
def resolveNth (p : Page) (target : Target) (index : Nat) : Except DomError NodeRef :=
  return (← p.resolveAll target)[index]?

/-- The first node of a target; a target without nodes fails. -/
def resolveRequired (p : Page) (target : Target) : Except VerbError NodeId := do
  match ← lift (p.resolve target) with
  | some id => pure id
  | none => throw (.resolution target)

end Page

end WebPage
