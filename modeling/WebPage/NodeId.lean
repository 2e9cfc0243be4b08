/-!
# Naming nodes

A document keeps its nodes in an arena, in the order of their creation. A node is named by its
place there, and no name is ever given to a second node.

## Main definitions

* `NodeId`: the name of a node
* `NodeRef`: a reference to a node, or to no node
-/

namespace WebPage

/-- The name of a node: its place in the arena. -/
abbrev NodeId := Nat

/-- The document node is the first of every arena. -/
def documentNode : NodeId := 0

/-- A reference to a node, or to no node at all. -/
abbrev NodeRef := Option NodeId

/-- The text by which messages name a reference. -/
def NodeRef.text : NodeRef → String
  | some id => s!"node#{id}"
  | none => "null"

end WebPage
