import WebPage.Tree.Basic

/-!
# Putting nodes in and taking them out

A node is inserted into the children of a container, in front of a given child or at the end. A
node that is in the tree already is moved; a fragment gives its children instead of itself. All
conditions are checked before the first link changes, so an insertion that fails changes nothing.

## Main definitions

* `Tree.add`, `Tree.createElement`, `Tree.createText`, …: fresh nodes
* `Tree.place`, `Tree.linkAfter`, `Tree.linkBefore`: the links of one node
* `Tree.link`, `Tree.unlink`: one node among the children of another
* `Tree.insertBefore`, `Tree.appendChild`: insertion
* `Tree.detach`, `Tree.removeChildren`: removal
-/

namespace WebPage.Tree

/-! ## Fresh nodes -/

/-- Adds a node that is linked to no other, and gives its name. -/
def add (t : Tree) (data : NodeData) : NodeId × Tree :=
  (t.size, ⟨t.nodes.push { data }⟩)

/-- A fresh element. -/
def createElement (t : Tree) (tag : String) : NodeId × Tree :=
  t.add (.element (.ofTag tag))

/-- A fresh text. -/
def createText (t : Tree) (text : String) : NodeId × Tree :=
  t.add (.text text)

/-- A fresh comment. -/
def createComment (t : Tree) (text : String) : NodeId × Tree :=
  t.add (.comment text)

/-- A fresh fragment. -/
def createFragment (t : Tree) : NodeId × Tree :=
  t.add .fragment

/-! ## Links -/

/-- Changes one node; the others stay. -/
def modify (t : Tree) (id : NodeId) (f : Node → Node) : Tree :=
  ⟨t.nodes.modify id f⟩

/-- Changes the data of one node; all links stay. -/
def setData (t : Tree) (id : NodeId) (data : NodeData) : Tree :=
  t.modify id fun n => { n with data }

/-- Writes the links of a node to its parent and to the siblings beside it. -/
def place (t : Tree) (child : NodeId) (parent prev next : NodeRef) : Tree :=
  t.modify child fun n => { n with parent, prevSibling := prev, nextSibling := next }

/-- Writes which child of `parent` follows `prev`; with no node before it, it is the first. -/
def linkAfter (t : Tree) (parent : NodeId) (prev child : NodeRef) : Tree :=
  match prev with
  | some p => t.modify p fun n => { n with nextSibling := child }
  | none => t.modify parent fun n => { n with firstChild := child }

/-- Writes which child of `parent` comes before `next`; with no node after it, it is the last. -/
def linkBefore (t : Tree) (parent : NodeId) (next child : NodeRef) : Tree :=
  match next with
  | some s => t.modify s fun n => { n with prevSibling := child }
  | none => t.modify parent fun n => { n with lastChild := child }

/-- The child of `parent` that comes before `before`, or the last one if that is none. -/
def childBefore (t : Tree) (parent : NodeId) (before : NodeRef) : NodeRef :=
  match before with
  | some b => t.prevSibling (some b)
  | none => t.lastChild (some parent)

/-- Links a node without parent into the children of `parent`, in front of `before` or at the
end. -/
def link (t : Tree) (parent child : NodeId) (before : NodeRef) : Tree :=
  let prev := t.childBefore parent before
  ((t.place child (some parent) prev before).linkAfter parent prev (some child)).linkBefore
    parent before (some child)

/-- Takes a node out of the children of its parent, if it has one. -/
def unlink (t : Tree) (child : NodeId) : Tree :=
  match t.parent (some child) with
  | none => t
  | some parent =>
    let prev := t.prevSibling (some child)
    let next := t.nextSibling (some child)
    ((t.linkAfter parent prev next).linkBefore parent next prev).place child none none none

/-- Moves a node into the children of `parent`, in front of `before` or at the end. -/
def move (t : Tree) (parent : NodeId) (before : NodeRef) (child : NodeId) : Tree :=
  (t.unlink child).link parent child before

/-! ## Insertion -/

/-- Whether `child` may be inserted into `parent`, and which of the two fails first. -/
def checkInsert (t : Tree) (parent child : NodeRef) : Except DomError (NodeId × NodeId × Node) := do
  let p ← t.node parent
  refuseIf (!p.isContainer) (.hierarchy (.childless parent))
  let c ← t.node child
  refuseIf (c.data = .document) (.hierarchy .documentInserted)
  refuseIf (t.contains child parent) (.hierarchy (.containsParent child parent))
  match parent, child with
  | some parent, some child => pure (parent, child, c)
  | none, _ => throw (.notFound parent)
  | _, none => throw (.notFound child)

/-- The child of `parent` in front of which a node is to go: `before`, or the sibling after it if
the node is `before` itself. -/
def insertionPoint (t : Tree) (parent child : NodeRef) : NodeRef → Except DomError NodeRef
  | none => .ok none
  | some b => do
    let n ← t.node (some b)
    refuseIf (n.parent ≠ parent) (.hierarchy (.notChild (some b) parent))
    pure (if some b = child then n.nextSibling else some b)

/-- Inserts `child` into the children of `parent`, in front of `before` or at the end. A fragment
gives its children, in order, instead of itself. -/
def insertBefore (t : Tree) (parent child before : NodeRef) : Except DomError Tree := do
  let (parentId, childId, c) ← t.checkInsert parent child
  let point ← t.insertionPoint parent child before
  if c.data = .fragment then
    pure ((t.childIds child).foldl (fun t id => t.move parentId point id) t)
  else
    pure (t.move parentId point childId)

/-- Inserts `child` at the end of the children of `parent`. -/
def appendChild (t : Tree) (parent child : NodeRef) : Except DomError Tree :=
  t.insertBefore parent child none

/-! ## Removal -/

/-- Takes a node out of the tree, and gives whether it had a parent. -/
def detach (t : Tree) (r : NodeRef) : Except DomError (Bool × Tree) := do
  let n ← t.node r
  pure (n.parent.isSome, r.elim t t.unlink)

/-- Takes all children of a node out, and gives their number. -/
def removeChildren (t : Tree) (r : NodeRef) : Except DomError (Nat × Tree) := do
  let _ ← t.node r
  let children := t.childIds r
  pure (children.length, children.foldl unlink t)

end WebPage.Tree
