import WebPage.Tree.Insertion

/-!
# The text of a node

A text or a comment has its own text. The text of a container is made of the texts below it.

## Main definitions

* `Tree.textContent`: the text of a node
* `Tree.setTextContent`: writes it
-/

namespace WebPage.Tree

/-- The text of a node: its own for a text or a comment, and the texts below it in document order
for a container. -/
def textContent (t : Tree) (r : NodeRef) : Except DomError String := do
  let n ← t.node r
  match n.data with
  | .text s | .comment s => pure s
  | _ =>
    pure (String.join ((t.descendants r).filterMap fun id => (t.node? (some id)).bind Node.text?))

/-- Writes the text of a node. A container loses its children and gets one text instead, or none if
the text is empty. -/
def setTextContent (t : Tree) (r : NodeRef) (text : String) : Except DomError Tree := do
  let n ← t.node r
  match n.data, r with
  | .text _, some id => pure (t.setData id (.text text))
  | .comment _, some id => pure (t.setData id (.comment text))
  | _, _ =>
    let (_, t) ← t.removeChildren r
    if text.isEmpty then pure t
    else
      let (child, t) := t.createText text
      t.appendChild r (some child)

end WebPage.Tree
