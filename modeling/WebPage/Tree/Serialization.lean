import WebPage.Markup.Content
import WebPage.Tree.Basic

/-!
# Markup of a tree

The nodes below a node are read off as labelled trees, and these are written as markup.

## Main definitions

* `Tree.contents`: a node and all below it as labelled trees
* `Tree.innerHtml`, `Tree.outerHtml`: markup of the children of a node, and of the node
-/

namespace WebPage.Tree

open Markup (Content)

/-- A node and all below it as labelled trees, down to `depth` generations. The document node and
fragments show their children instead of themselves. -/
def contentsWithin (t : Tree) : Nat → NodeId → List Content
  | 0, _ => []
  | depth + 1, id =>
    match t.node? (some id) with
    | none => []
    | some n =>
      match n.data with
      | .text s => [.text s]
      | .comment s => [.comment s]
      | .element e =>
        [.element e.tag e.attributes.entries
          ((t.childIds (some id)).flatMap (t.contentsWithin depth))]
      | .document | .fragment => (t.childIds (some id)).flatMap (t.contentsWithin depth)

/-- A node and all below it as labelled trees. No node lies deeper than there are nodes. -/
def contents (t : Tree) (id : NodeId) : List Content :=
  t.contentsWithin t.size id

/-- The markup of the children of a node. -/
def innerHtml (t : Tree) (r : NodeRef) : Except DomError String := do
  let n ← t.node r
  let raw := n.element?.any fun e => Markup.isRawText e.tag
  pure (Content.renderAll raw ((t.childIds r).flatMap t.contents))

/-- The markup of a node and all below it. -/
def outerHtml (t : Tree) (r : NodeRef) : Except DomError String := do
  let _ ← t.node r
  pure (Content.renderAll false (r.elim [] t.contents))

end WebPage.Tree
