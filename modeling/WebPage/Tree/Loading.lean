import WebPage.Config
import WebPage.Markup.Parse
import WebPage.Tree.Insertion

/-!
# Putting content into a tree

Content that was read from markup is copied into a tree, each node before those below it. Document
types and processing instructions leave no node, and texts of blanks only leave none if they are not
to be kept. How markup is read is up to a parser; the pages here use the parser of HTML.

## Main definitions

* `Tree.load`, `Tree.loadAll`: copies content below a node
* `Tree.ofMarkupWith`: the tree of a document
* `Tree.loadFragmentWith`: copies a fragment of markup below a node
* `Tree.ofMarkup`, `Tree.loadFragment`: the same with the parser of HTML
-/

namespace WebPage

open Markup (Content Parser htmlParser)

/-- An element of markup with its attributes; of two with one name the later one counts, in the
place of the first. -/
def Element.ofMarkup (tag : String) (attributes : List (String × String)) : Element :=
  attributes.foldl (fun e (name, value) => e.setAttribute name value) (.ofTag tag)

namespace Tree

/-- Operations on a tree that may stop halfway: what was done before the failure stays done. -/
abbrev Edit := EStateM DomError Tree

/-- Adds a node below a parent. The node is there even if the parent cannot have it. -/
def addBelow (parent : NodeRef) (data : NodeData) : Edit NodeId := do
  let (id, t) := (← get).add data
  set t
  match t.appendChild parent (some id) with
  | .ok t => do
    set t
    pure id
  | .error e => throw e

mutual

/-- Copies content below a parent, and gives the node at its top if it leaves one. -/
def load (keepBlank : Bool) (parent : NodeRef) : Content → Edit (Option NodeId)
  | .text s => do
    if !keepBlank && Text.isBlankText s then pure none
    else return some (← addBelow parent (.text s))
  | .comment s => return some (← addBelow parent (.comment s))
  | .doctype _ => pure none
  | .instruction _ _ => pure none
  | .element tag attributes children => do
    let id ← addBelow parent (.element (.ofMarkup tag attributes))
    let _ ← loadAll keepBlank (some id) children
    pure (some id)

/-- Copies content in a row below a parent, and gives the nodes at the top. -/
def loadAll (keepBlank : Bool) (parent : NodeRef) : List Content → Edit (List NodeId)
  | [] => pure []
  | c :: cs => do
    let id ← load keepBlank parent c
    return id.toList ++ (← loadAll keepBlank parent cs)

end

/-- Copies a fragment of markup below a node, and gives the nodes at the top. -/
def loadFragmentWith (parser : Parser) (options : MarkupOptions) (r : NodeRef) (markup : String) :
    Edit (List NodeId) := do
  match (← get).node r with
  | .ok _ => loadAll options.keepBlankText r (parser.fragment options.scripting markup)
  | .error e => throw e

/-- The tree of a document. -/
def ofMarkupWith (parser : Parser) (options : MarkupOptions) (markup : String) : Tree :=
  match loadAll options.keepBlankText (some documentNode)
      (parser.document options.scripting markup) Tree.empty with
  | .ok _ t => t
  | .error _ t => t

/-! ## With the parser of HTML -/

def loadFragment (options : MarkupOptions) (r : NodeRef) (markup : String) : Edit (List NodeId) :=
  loadFragmentWith htmlParser options r markup

def ofMarkup (options : MarkupOptions) (markup : String) : Tree :=
  ofMarkupWith htmlParser options markup

end Tree

end WebPage
