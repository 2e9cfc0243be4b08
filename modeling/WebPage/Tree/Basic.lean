import WebPage.Element
import WebPage.Error

/-!
# The tree of a document

The nodes of a document are kept in an arena and linked to their parent, their siblings and their
first and last child. Node 0 is the document node. A node that is taken out of the tree stays in
the arena, so its name stays its own.

Every walk along the links is bounded by the size of the arena. In a tree whose links fit together
no walk is longer, so the bound is never felt.

## Main definitions

* `NodeData`, `Node`, `Tree`: the arena
* `Tree.node?`, `Tree.node`, `Tree.element?`, `Tree.element`: looking a node up
* `Tree.childIds`, `Tree.descendants`: the walks down
* `Tree.ancestors`, `Tree.treeRoot`, `Tree.contains`: the walks up
* `Tree.previousElementSibling`, `Tree.nextElementSibling`: the walks sideways
-/

namespace WebPage

/-- What a node is. -/
inductive NodeData where
  | document
  /-- A container without parent; where it is inserted, its children go. -/
  | fragment
  | element (element : Element)
  | text (text : String)
  | comment (text : String)
deriving DecidableEq, Repr

/-- A node with its links; a fresh one has none. -/
structure Node where
  data : NodeData
  parent : NodeRef := none
  firstChild : NodeRef := none
  lastChild : NodeRef := none
  prevSibling : NodeRef := none
  nextSibling : NodeRef := none
deriving DecidableEq, Repr

namespace Node

/-- The element that a node is. -/
def element? (n : Node) : Option Element :=
  match n.data with
  | .element e => some e
  | _ => none

/-- The text of a text node. -/
def text? (n : Node) : Option String :=
  match n.data with
  | .text s => some s
  | _ => none

/-- Whether a node is an element. -/
def isElement (n : Node) : Bool :=
  n.element?.isSome

/-- Whether a node is a text. -/
def isText (n : Node) : Bool :=
  n.text?.isSome

/-- Whether a node may have children. -/
def isContainer (n : Node) : Bool :=
  match n.data with
  | .document | .fragment | .element _ => true
  | .text _ | .comment _ => false

end Node

/-- The nodes of a document by name. -/
structure Tree where
  nodes : Array Node
deriving DecidableEq, Repr

namespace Tree

/-- The tree that holds the document node only. -/
def empty : Tree :=
  ⟨#[{ data := .document }]⟩

instance : Inhabited Tree := ⟨empty⟩

/-- The number of nodes, whether in the tree or taken out. -/
def size (t : Tree) : Nat :=
  t.nodes.size

/-- Whether there is no node besides the document node. -/
def isEmpty (t : Tree) : Bool :=
  t.size ≤ 1

/-! ## Looking up -/

/-- The node that a reference names. -/
def node? (t : Tree) (r : NodeRef) : Option Node :=
  r.bind fun id => t.nodes[id]?

/-- The node that a reference names, or the failure to find it. -/
def node (t : Tree) (r : NodeRef) : Except DomError Node :=
  match t.node? r with
  | some n => .ok n
  | none => .error (.notFound r)

/-- The element that a reference names. -/
def element? (t : Tree) (r : NodeRef) : Option Element :=
  (t.node? r).bind Node.element?

/-- The element that a reference names, or the failure to find it. -/
def element (t : Tree) (r : NodeRef) : Except DomError Element :=
  match t.node? r with
  | none => .error (.notFound r)
  | some n =>
    match n.element? with
    | some e => .ok e
    | none => .error (.notAnElement r)

/-- Whether a reference names an element. -/
def isElement (t : Tree) (r : NodeRef) : Bool :=
  (t.element? r).isSome

/-- Whether a reference names an element with this tag. -/
def hasTag (t : Tree) (tag : String) (r : NodeRef) : Bool :=
  (t.element? r).any fun e => e.tag == tag

/-- The parent of a node. -/
def parent (t : Tree) (r : NodeRef) : NodeRef :=
  (t.node? r).bind Node.parent

/-- The first child of a node. -/
def firstChild (t : Tree) (r : NodeRef) : NodeRef :=
  (t.node? r).bind Node.firstChild

/-- The last child of a node. -/
def lastChild (t : Tree) (r : NodeRef) : NodeRef :=
  (t.node? r).bind Node.lastChild

/-- The sibling before a node. -/
def prevSibling (t : Tree) (r : NodeRef) : NodeRef :=
  (t.node? r).bind Node.prevSibling

/-- The sibling after a node. -/
def nextSibling (t : Tree) (r : NodeRef) : NodeRef :=
  (t.node? r).bind Node.nextSibling

/-! ## Walks -/

/-- The nodes reached from `start` by following `next`, at most `bound` of them. -/
def chain (next : NodeRef → NodeRef) : Nat → NodeRef → List NodeId
  | 0, _ => []
  | _ + 1, none => []
  | bound + 1, some id => id :: chain next bound (next (some id))

/-- The children of a node in order. -/
def childIds (t : Tree) (r : NodeRef) : List NodeId :=
  chain t.nextSibling t.size (t.firstChild r)

/-- The children of a node that are elements. -/
def elementChildren (t : Tree) (r : NodeRef) : List NodeId :=
  (t.childIds r).filter fun id => t.isElement (some id)

/-- The nodes on a stack and all nodes below them in document order, at most `bound` of them. -/
def preorder (t : Tree) : Nat → List NodeId → List NodeId
  | 0, _ => []
  | _ + 1, [] => []
  | bound + 1, id :: stack => id :: t.preorder bound (t.childIds (some id) ++ stack)

/-- The nodes below a node in document order. -/
def descendants (t : Tree) (r : NodeRef) : List NodeId :=
  t.preorder t.size (t.childIds r)

/-- The ancestors of a node, its parent first. -/
def ancestors (t : Tree) (r : NodeRef) : List NodeId :=
  chain t.parent t.size (t.parent r)

/-- The topmost ancestor of a node, or the node itself if it has no parent. -/
def treeRoot (t : Tree) (r : NodeRef) : NodeRef :=
  (t.ancestors r).getLast?.or r

/-- Whether `node` is `ancestor` or lies below it. -/
def contains (t : Tree) (ancestor node : NodeRef) : Bool :=
  ancestor == node || (t.ancestors node).any fun id => some id == ancestor

/-- The nearest element before a node among its siblings. -/
def previousElementSibling (t : Tree) (r : NodeRef) : NodeRef :=
  (chain t.prevSibling t.size (t.prevSibling r)).find? fun id => t.isElement (some id)

/-- The nearest element after a node among its siblings. -/
def nextElementSibling (t : Tree) (r : NodeRef) : NodeRef :=
  (chain t.nextSibling t.size (t.nextSibling r)).find? fun id => t.isElement (some id)

/-- Whether a node is reached from the document node. -/
def isConnected (t : Tree) (r : NodeRef) : Bool :=
  (t.node? r).isSome && t.treeRoot r == some documentNode

end Tree

end WebPage
