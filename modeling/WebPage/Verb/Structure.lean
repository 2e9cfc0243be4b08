import WebPage.Tree.Loading
import WebPage.Tree.Serialization
import WebPage.Verb

/-!
# Verbs on the tree and its text

What reads markup takes a parser. The verbs of a page take the parser of HTML.

## Main definitions

* `Document.ofMarkupWith`, `Document.ofMarkup`: the document of a text
* `Page.getText`, `Page.setText`, `Page.getHtml`, `Page.setHtml`: text and markup
* `Page.createElement`, `Page.append`: new nodes and their places
* `Page.removeChildren`, `Page.removeElements`: taking nodes out
* `Page.setHtmlWith`, `Page.createElementWith`: the verbs that read markup, with any parser
-/

namespace WebPage

open Markup (Parser htmlParser)

/-- The document of a text. -/
def Document.ofMarkupWith (parser : Parser) (options : MarkupOptions) (url markup : String) :
    Document :=
  { tree := .ofMarkupWith parser options markup, url }

/-- The document of a text, with the parser of HTML. -/
def Document.ofMarkup (options : MarkupOptions) (url markup : String) : Document :=
  ofMarkupWith htmlParser options url markup

/-- Runs an operation that may stop halfway on the tree of the page. -/
def Verb.runEdit {α : Type} (f : Tree.Edit α) : Verb α := do
  let p ← get
  match f p.document.tree with
  | .ok a tree => do
    set { p with document := { p.document with tree } }
    pure a
  | .error e tree => do
    set { p with document := { p.document with tree } }
    throw (.dom e)

namespace Page

/-! ## Text and markup -/

/-- The text of the first node. -/
def getText (p : Page) (target : Target) : Except VerbError String :=
  p.readFirst target Tree.textContent

/-- Writes the text of every node. -/
def setText (target : Target) (text : String) : Verb Unit :=
  editTreeAll target fun t r => t.setTextContent r text

/-- The markup inside the first node. -/
def getHtml (p : Page) (target : Target) : Except VerbError String :=
  p.readFirst target Tree.innerHtml

/-- Replaces what is inside every element by a fragment of markup. -/
def setHtmlWith (parser : Parser) (target : Target) (markup : String) : Verb Unit := do
  let options := (← get).config.markup
  forAll target fun id => do
    Verb.editTree fun t => do
      let _ ← t.element (some id)
      return (← t.removeChildren (some id)).2
    let _ ← Verb.runEdit (Tree.loadFragmentWith parser options (some id) markup)

/-! ## Nodes -/

/-- Creates an element outside the tree, perhaps with a fragment of markup inside. -/
def createElementWith (parser : Parser) (tag : String) (markup : Option String) :
    Verb NodeId := do
  Verb.ofResult (lift (Name.validate tag))
  let options := (← get).config.markup
  let id ← Verb.act fun d =>
    let (id, tree) := d.tree.createElement tag
    .ok (id, { d with tree })
  match markup with
  | some markup =>
    let _ ← Verb.runEdit (Tree.loadFragmentWith parser options (some id) markup)
  | none => pure ()
  pure id

/-- Puts a node at the end of the children of the first node. -/
def append (target : Target) (node : NodeRef) : Verb Unit := do
  let parent ← Verb.ofResult ((← get).resolveRequired target)
  Verb.editTree fun t => t.appendChild (some parent) node

/-- Takes all children out of every node. -/
def removeChildren (target : Target) : Verb Unit :=
  editTreeAll target fun t r => return (← t.removeChildren r).2

/-- Accepts nodes that can be taken out: nodes that are there, and not the document node. -/
def checkRemovable (t : Tree) (ids : List NodeId) : Except DomError Unit :=
  ids.forM fun id => do
    refuseIf ((← t.node (some id)).data = .document) (.hierarchy (.documentRemoved (some id)))

/-- Moves nodes into a fragment, in order, except those that are in it already. -/
def gather (fragment : NodeId) (ids : List NodeId) (t : Tree) : Except DomError Tree :=
  ids.foldlM (fun t id =>
    if t.parent (some id) = some fragment then pure t
    else t.appendChild (some fragment) (some id)) t

/-- Takes all nodes of the target out of the tree and into a new fragment, side by side, and gives
the fragment if there are any nodes. -/
def removeElements (target : Target) : Verb NodeRef := do
  let ids ← Verb.ofResult (lift ((← get).resolveAll target))
  if ids.isEmpty then return none
  Verb.ofResult (lift (checkRemovable (← get).document.tree ids))
  let fragment ← Verb.act fun d =>
    let (id, tree) := d.tree.createFragment
    .ok (id, { d with tree })
  Verb.editTree (gather fragment ids)
  return some fragment

/-! ## With the parser of HTML -/

def setHtml (target : Target) (markup : String) : Verb Unit :=
  setHtmlWith htmlParser target markup

def createElement (tag : String) (markup : Option String) : Verb NodeId :=
  createElementWith htmlParser tag markup

end Page

end WebPage
