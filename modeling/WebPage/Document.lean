import WebPage.Event.Listeners
import WebPage.Selector.Matching
import WebPage.Selector.Parser
import WebPage.Tree.TextContent

/-!
# Documents

A document is a tree with an address and a memory of which element has the focus. It also keeps a
journal of the listener calls that its events have made.

## Main definitions

* `ListenerCall`, `Document`: the state
* `Document.blank`, `Document.skeleton`: fresh documents
* `Document.documentElement`, `Document.head`, `Document.body`, `Document.title`: its landmarks
* `Document.querySelector`, `Document.querySelectorAll`, `Document.matches`, `Document.closest`:
  queries
-/

namespace WebPage

/-- A call of a listener, with the event as the listener was shown it. -/
structure ListenerCall where
  listener : Listener
  /-- The registration that called for it; a handler has none. -/
  registration : Option Registration
  event : Event
deriving DecidableEq, Repr

/-- A document. -/
structure Document where
  tree : Tree
  url : String
  /-- The element that was given the focus last, whether it is still in the tree or not. -/
  focused : NodeRef := none
  /-- The listener calls made so far. -/
  journal : List ListenerCall := []
deriving DecidableEq, Repr

namespace Document

/-- A document with nothing in it. -/
def blank (url : String) : Document :=
  { tree := .empty, url }

/-- The tree of an empty page: `html` with `head` and `body`. -/
def skeletonTree? : Except DomError Tree := do
  let (html, t) := Tree.empty.createElement "html"
  let (head, t) := t.createElement "head"
  let (body, t) := t.createElement "body"
  let t ← t.appendChild (some documentNode) (some html)
  let t ← t.appendChild (some html) (some head)
  t.appendChild (some html) (some body)

/-- The tree of an empty page, as an answer that cannot be missing. -/
def skeletonTree : Tree :=
  skeletonTree?.toOption.getD .empty

/-- A document with an empty page. -/
def skeleton (url : String) : Document :=
  { tree := skeletonTree, url }

/-! ## Landmarks -/

/-- The first element under the document node. -/
def documentElement (d : Document) : NodeRef :=
  (d.tree.elementChildren (some documentNode)).head?

/-- The first element with a tag under the document element. -/
def childOfRoot (d : Document) (tag : String) : NodeRef :=
  match d.documentElement with
  | none => none
  | some html => (d.tree.elementChildren (some html)).find? fun id => d.tree.hasTag tag (some id)

/-- The element `head`. -/
def head (d : Document) : NodeRef :=
  d.childOfRoot "head"

/-- The element `body`. -/
def body (d : Document) : NodeRef :=
  d.childOfRoot "body"

/-- The nodes in the tree below the document node, in document order. -/
def nodes (d : Document) : List NodeId :=
  d.tree.descendants (some documentNode)

/-- The text of the first element `title`, with single spaces. -/
def title (d : Document) : String :=
  match d.nodes.find? fun id => d.tree.hasTag "title" (some id) with
  | none => ""
  | some id => Text.collapse ((d.tree.textContent (some id)).toOption.getD "")

/-- Whether a node is reached from the document node. -/
def isConnected (d : Document) (r : NodeRef) : Bool :=
  d.tree.isConnected r

/-! ## Queries -/

/-- The first element in the tree with an identifier; the empty text is none. -/
def getElementById (d : Document) (id : String) : NodeRef :=
  if id.isEmpty then none
  else d.nodes.find? fun n => (d.tree.element? (some n)).any fun e => e.id? == some id

/-- The first element in the tree that a selector describes. -/
def querySelector (d : Document) (selector : String) : Except DomError NodeRef :=
  return d.nodes.find? ((← Selector.SelectorList.parse selector).matches d.tree)

/-- The elements in the tree that a selector describes, in document order. -/
def querySelectorAll (d : Document) (selector : String) : Except DomError (List NodeId) :=
  return d.nodes.filter ((← Selector.SelectorList.parse selector).matches d.tree)

/-- Whether a selector describes an element. -/
def «matches» (d : Document) (r : NodeRef) (selector : String) : Except DomError Bool := do
  let list ← Selector.SelectorList.parse selector
  let _ ← d.tree.element r
  pure (r.any (list.matches d.tree))

/-- The first that a selector describes of a node and its ancestors. -/
def closest (d : Document) (r : NodeRef) (selector : String) : Except DomError NodeRef := do
  let list ← Selector.SelectorList.parse selector
  let _ ← d.tree.node r
  pure ((r.toList ++ d.tree.ancestors r).find? (list.matches d.tree))

end Document

end WebPage
