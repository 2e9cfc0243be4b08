import WebPage.Markup.Content

/-!
# Documents under construction

While markup is read, nodes are added, moved and merged in a draft. When it is complete, its
content is read off.

## Main definitions

* `Space`, `Kind`: the kinds of elements
* `DraftData`, `DraftNode`, `Draft`: the draft
* `Draft.insert`, `Draft.insertText`, `Draft.remove`, `Draft.moveChildren`: changes
* `Draft.contents`: the content of a node
-/

namespace WebPage.Markup

/-- The vocabularies of elements. -/
inductive Space where
  | html
  | svg
  | math
deriving DecidableEq, Repr

/-- The kind of an element: its name in its vocabulary. -/
structure Kind where
  space : Space
  name : String
deriving DecidableEq, Repr

/-- What a node of a draft is. -/
inductive DraftData where
  | document
  | doctype (name : String)
  | text (text : String)
  | comment (text : String)
  | element (kind : Kind) (attributes : List (String × String))
  /-- The content of a template, which is not part of the document. -/
  | template
deriving DecidableEq, Repr

/-- A node of a draft, with the places of its parent and its children. -/
structure DraftNode where
  data : DraftData
  parent : Option Nat := none
  children : List Nat := []
deriving Repr

/-- The nodes of a draft by place; the first one is the document. -/
structure Draft where
  nodes : Array DraftNode := #[{ data := .document }]

namespace Draft

/-- The node at a place. -/
def node? (d : Draft) (id : Nat) : Option DraftNode :=
  d.nodes[id]?

/-- The kind of the element at a place. -/
def kind? (d : Draft) (id : Nat) : Option Kind :=
  match d.node? id with
  | some { data := .element kind _, .. } => some kind
  | _ => none

/-- The attributes of the element at a place. -/
def attributes (d : Draft) (id : Nat) : List (String × String) :=
  match d.node? id with
  | some { data := .element _ attributes, .. } => attributes
  | _ => []

/-- Whether the element at a place is of the kind `html` with this name. -/
def isHtml (d : Draft) (name : String) (id : Nat) : Bool :=
  d.kind? id == some ⟨.html, name⟩

/-- The parent of a node. -/
def parent? (d : Draft) (id : Nat) : Option Nat :=
  (d.node? id).bind DraftNode.parent

/-- The children of a node. -/
def children (d : Draft) (id : Nat) : List Nat :=
  ((d.node? id).map DraftNode.children).getD []

/-- Adds a node that has no place among the others yet. -/
def add (d : Draft) (data : DraftData) : Nat × Draft :=
  (d.nodes.size, ⟨d.nodes.push { data }⟩)

/-- Changes the node at a place. -/
def modify (d : Draft) (id : Nat) (f : DraftNode → DraftNode) : Draft :=
  ⟨d.nodes.modify id f⟩

/-- Puts `x` in front of `before`, or at the end. -/
def insertInto (x : Nat) (before : Option Nat) : List Nat → List Nat
  | [] => [x]
  | y :: ys => if before = some y then x :: y :: ys else y :: insertInto x before ys

/-- Takes a node away from its parent. -/
def remove (d : Draft) (id : Nat) : Draft :=
  match d.parent? id with
  | none => d
  | some p =>
    (d.modify p fun n => { n with children := n.children.erase id }).modify id fun n =>
      { n with parent := none }

/-- Moves a node to the children of `parent`, in front of `before` or at the end. -/
def insert (d : Draft) (parent : Nat) (before : Option Nat) (id : Nat) : Draft :=
  let d := d.remove id
  (d.modify parent fun n => { n with children := insertInto id before n.children }).modify id
    fun n => { n with parent := some parent }

/-- The child of `parent` that stands in front of `before`, or the last one. -/
def childBefore? (d : Draft) (parent : Nat) (before : Option Nat) : Option Nat :=
  match before with
  | none => (d.children parent).getLast?
  | some b => ((d.children parent).takeWhile (· ≠ b)).getLast?

/-- Adds a character to the text that stands at a place among the children of `parent`, or to a new
text there. -/
def insertText (d : Draft) (parent : Nat) (before : Option Nat) (c : Char) : Draft :=
  let neighbour := (d.childBefore? parent before).filter fun id =>
    match d.node? id with
    | some { data := .text _, .. } => true
    | _ => false
  match neighbour with
  | some id =>
    d.modify id fun n =>
      match n.data with
      | .text s => { n with data := .text (s.push c) }
      | _ => n
  | none =>
    let (id, d) := d.add (.text c.toString)
    d.insert parent before id

/-- Moves the children of a node to the end of the children of another. -/
def moveChildren (d : Draft) (source target : Nat) : Draft :=
  (d.children source).foldl (fun d id => d.insert target none id) d

/-- Gives an element the attributes that it does not have yet. -/
def addAttributes (d : Draft) (id : Nat) (more : List (String × String)) : Draft :=
  d.modify id fun n =>
    match n.data with
    | .element kind attributes =>
      let missing := more.filter fun entry => !attributes.any fun a => a.1 == entry.1
      { n with data := .element kind (attributes ++ missing) }
    | _ => n

/-- The content of a node, down to `depth` generations. -/
def contentWithin (d : Draft) : Nat → Nat → List Content
  | 0, _ => []
  | depth + 1, id =>
    match d.node? id with
    | none => []
    | some n =>
      let inside := n.children.flatMap (d.contentWithin depth)
      match n.data with
      | .document => inside
      | .doctype name => [.doctype name]
      | .text s => [.text s]
      | .comment s => [.comment s]
      | .element kind attributes => [.element kind.name attributes inside]
      | .template => []

/-- The content of a node. No node lies deeper than there are nodes. -/
def contents (d : Draft) (id : Nat) : List Content :=
  d.contentWithin d.nodes.size id

end Draft

end WebPage.Markup
