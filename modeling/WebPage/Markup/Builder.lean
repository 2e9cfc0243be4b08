import WebPage.Markup.Draft
import WebPage.Markup.Token

/-!
# Building a document from tokens

Tokens are turned into nodes of a draft. The elements whose end has not been read are kept on a
stack. Formatting elements that were closed too early are remembered, to be opened again where text
goes on. The insertion mode says which part of a document is being read.

## Main definitions

* `Mode`: the insertion modes
* `FormattingEntry`, `Builder`: the state of construction
* `Builder.hasInScope`: whether an element is open and not shut off
* `Builder.place`: where the next node goes
* `Builder.insertElement`, `Builder.insertChar`, `Builder.insertComment`: insertion
* `Builder.resetMode`: the mode that the open elements call for
-/

namespace WebPage.Markup

/-- The insertion modes. -/
inductive Mode where
  | initial
  | beforeHtml
  | beforeHead
  | inHead
  | inHeadNoscript
  | afterHead
  | inBody
  | text
  | inTable
  | inTableText
  | inCaption
  | inColumnGroup
  | inTableBody
  | inRow
  | inCell
  | inSelect
  | inSelectInTable
  | inTemplate
  | afterBody
  | inFrameset
  | afterFrameset
  | afterAfterBody
  | afterAfterFrameset
deriving DecidableEq, Repr

/-- A formatting element that may have to be opened again, with its tag, or a marker that shuts off
those before it. -/
inductive FormattingEntry where
  | marker
  | element (id : Nat) (tag : Tag)
deriving DecidableEq, Repr

/-- The state of construction. -/
structure Builder where
  draft : Draft := {}
  /-- The open elements, the current one first. -/
  stack : List Nat := []
  /-- The formatting elements, the latest first. -/
  formatting : List FormattingEntry := []
  mode : Mode := .initial
  /-- The mode to go back to after a text. -/
  returnMode : Mode := .initial
  /-- The modes of the open templates, the innermost first. -/
  templateModes : List Mode := []
  /-- The templates, each with the node that holds its content. -/
  templates : List (Nat × Nat) := []
  head : Option Nat := none
  form : Option Nat := none
  /-- Nothing has been read yet that a frameset could not follow. -/
  framesetOk : Bool := true
  /-- The document does not declare a type that is in use. -/
  outdated : Bool := false
  scripting : Bool
  /-- Nodes that a table cannot hold go in front of it. -/
  fostering : Bool := false
  /-- The characters read inside a table, the last one first. -/
  pending : List Char := []
  /-- A line feed that comes next is left out. -/
  skipNewline : Bool := false
  /-- How text is to be read from here on. -/
  textMode : Option TextMode := none

namespace Builder

/-! ## Open elements -/

/-- The kind of an element. -/
def kind? (b : Builder) (id : Nat) : Option Kind :=
  b.draft.kind? id

/-- Whether an element is of the vocabulary of documents and has one of these names. -/
def isOneOf (b : Builder) (names : List String) (id : Nat) : Bool :=
  (b.kind? id).any fun k => k.space = .html && names.contains k.name

/-- Whether the current element is one of these. -/
def currentIs (b : Builder) (names : List String) : Bool :=
  b.stack.head?.any (b.isOneOf names)

/-- Whether one of these is open. -/
def hasOpen (b : Builder) (names : List String) : Bool :=
  b.stack.any (b.isOneOf names)

/-- Closes the current element. -/
def pop (b : Builder) : Builder :=
  { b with stack := b.stack.drop 1 }

/-- Closes elements up to and including the first that is one of these. -/
def popThrough (b : Builder) (names : List String) : Builder :=
  { b with stack := (b.stack.dropWhile fun id => !b.isOneOf names id).drop 1 }

/-- Closes elements until the current one is one of these. -/
def popTo (b : Builder) (names : List String) : Builder :=
  { b with stack := b.stack.dropWhile fun id => !b.isOneOf names id }

/-- Closes elements up to and including this one. -/
def popThroughId (b : Builder) (id : Nat) : Builder :=
  { b with stack := (b.stack.dropWhile (· ≠ id)).drop 1 }

/-- Elements other than those of documents that shut off what is outside. -/
def isForeignBoundary (k : Kind) : Bool :=
  match k.space with
  | .html => false
  | .math => ["mi", "mo", "mn", "ms", "mtext", "annotation-xml"].contains k.name
  | .svg => ["foreignobject", "desc", "title"].contains k.name

/-- How far an open element is looked for. -/
inductive Scope where
  | default
  | listItem
  | button
  | table
  | select

/-- Whether an element shuts off what is outside. -/
def Scope.stops (scope : Scope) (k : Kind) : Bool :=
  let common := ["applet", "caption", "html", "table", "td", "th", "marquee", "object", "template"]
  let isHtml (names : List String) : Bool := k.space = .html && names.contains k.name
  match scope with
  | default => isHtml common || isForeignBoundary k
  | listItem => isHtml ("ol" :: "ul" :: common) || isForeignBoundary k
  | button => isHtml ("button" :: common) || isForeignBoundary k
  | table => isHtml ["html", "table", "template"]
  | select => !isHtml ["optgroup", "option"]

/-- Whether an element with a property is open and not shut off. -/
def hasInScopeThat (b : Builder) (scope : Scope) (wanted : Nat → Bool) : Bool :=
  match b.stack.find? fun id => wanted id || (b.kind? id).any scope.stops with
  | some id => wanted id
  | none => false

/-- Whether one of these is open and not shut off. -/
def hasInScope (b : Builder) (scope : Scope) (names : List String) : Bool :=
  b.hasInScopeThat scope (b.isOneOf names)

/-! ## Implied ends -/

/-- The elements that may end without saying so. -/
def impliedEnds : List String :=
  ["dd", "dt", "li", "option", "optgroup", "p", "rb", "rp", "rt", "rtc"]

/-- Closes elements that may end without saying so. -/
def closeImplied (b : Builder) (names : List String) : Builder :=
  { b with stack := b.stack.dropWhile (b.isOneOf names) }

/-- Closes elements that may end without saying so, but not one with this name. -/
def closeImpliedExcept (b : Builder) (name : String) : Builder :=
  b.closeImplied (impliedEnds.filter (· ≠ name))

/-- Closes the open paragraph. -/
def closeParagraph (b : Builder) : Builder :=
  (b.closeImpliedExcept "p").popThrough ["p"]

/-- Closes the open paragraph if there is one that is not shut off. -/
def closeParagraphInScope (b : Builder) : Builder :=
  if b.hasInScope .button ["p"] then b.closeParagraph else b

/-! ## Insertion -/

/-- The node that holds the children of an element: its content for a template, else itself. -/
def holder (b : Builder) (id : Nat) : Nat :=
  (b.templates.lookup id).getD id

/-- Where a node goes that a table cannot hold: into the content of a template if one is open
inside the table, else in front of the table, or into the element around it. -/
def fosterPlace (b : Builder) : List Nat → Nat × Option Nat
  | [] => (0, none)
  | [root] => (b.holder root, none)
  | id :: outer :: rest =>
    if b.isOneOf ["template"] id then (b.holder id, none)
    else if b.isOneOf ["table"] id then
      match b.draft.parent? id with
      | some parent => (parent, some id)
      | none => (b.holder outer, none)
    else b.fosterPlace (outer :: rest)

/-- Where a node goes that belongs into `target`: the parent, and the child to insert before. -/
def placeIn (b : Builder) (target : Nat) : Nat × Option Nat :=
  if b.fostering && b.isOneOf ["table", "tbody", "tfoot", "thead", "tr"] target then
    b.fosterPlace b.stack
  else (b.holder target, none)

/-- Where the next node goes. -/
def place (b : Builder) : Nat × Option Nat :=
  match b.stack with
  | [] => (0, none)
  | current :: _ => b.placeIn current

/-- Creates an element that has no place yet. -/
def createElement (b : Builder) (kind : Kind) (attributes : List (String × String)) :
    Nat × Builder :=
  let (id, draft) := b.draft.add (.element kind attributes)
  let b := { b with draft }
  if kind = ⟨.html, "template"⟩ then
    let (content, draft) := b.draft.add .template
    (id, { b with draft, templates := (id, content) :: b.templates })
  else (id, b)

/-- Inserts an element and opens it. -/
def insertKind (b : Builder) (kind : Kind) (attributes : List (String × String)) : Nat × Builder :=
  let (id, b) := b.createElement kind attributes
  let (parent, before) := b.place
  (id, { b with draft := b.draft.insert parent before id, stack := id :: b.stack })

/-- Inserts the element of a start tag and opens it. -/
def insertElement (b : Builder) (tag : Tag) : Builder :=
  (b.insertKind ⟨.html, tag.name⟩ tag.attributes).2

/-- Inserts an element that no tag was written for, and opens it. -/
def insertPhantom (b : Builder) (name : String) : Builder :=
  b.insertElement { name }

/-- Inserts the element of a start tag, which has no content. -/
def insertVoid (b : Builder) (tag : Tag) : Builder :=
  (b.insertElement tag).pop

/-- Inserts a character. -/
def insertChar (b : Builder) (c : Char) : Builder :=
  let (parent, before) := b.place
  { b with draft := b.draft.insertText parent before c }

/-- Inserts a comment. -/
def insertComment (b : Builder) (text : String) : Builder :=
  let (id, draft) := b.draft.add (.comment text)
  let (parent, before) := b.place
  { b with draft := draft.insert parent before id }

/-- Inserts a comment at the end of the children of a node. -/
def insertCommentIn (b : Builder) (parent : Nat) (text : String) : Builder :=
  let (id, draft) := b.draft.add (.comment text)
  { b with draft := draft.insert parent none id }

/-- Inserts the element of a start tag, whose content is text and is read in a way of its own. -/
def insertRaw (b : Builder) (tag : Tag) (textMode : TextMode) : Builder :=
  { b.insertElement tag with returnMode := b.mode, mode := .text, textMode := some textMode }

/-- Adds the attributes of a start tag to an element that is open already. -/
def addMissingAttributes (b : Builder) (id : Option Nat) (tag : Tag) : Builder :=
  match id with
  | some id => { b with draft := b.draft.addAttributes id tag.attributes }
  | none => b

/-! ## Modes -/

/-- The mode that the open elements call for, from the current one outwards. -/
def modeFor (b : Builder) : List Nat → Mode
  | [] => .inBody
  | id :: outer =>
    match b.kind? id with
    | some ⟨.html, name⟩ =>
      match name with
      | "select" =>
        match outer.find? (b.isOneOf ["template", "table"]) with
        | some other => if b.isOneOf ["table"] other then .inSelectInTable else .inSelect
        | none => .inSelect
      | "td" | "th" => if outer.isEmpty then b.modeFor outer else .inCell
      | "tr" => .inRow
      | "tbody" | "thead" | "tfoot" => .inTableBody
      | "caption" => .inCaption
      | "colgroup" => .inColumnGroup
      | "table" => .inTable
      | "template" => b.templateModes.headD .inBody
      | "head" => if outer.isEmpty then b.modeFor outer else .inHead
      | "body" => .inBody
      | "frameset" => .inFrameset
      | "html" => if b.head.isSome then .afterHead else .beforeHead
      | _ => b.modeFor outer
    | _ => b.modeFor outer

/-- Takes the mode that the open elements call for. -/
def resetMode (b : Builder) : Builder :=
  { b with mode := b.modeFor b.stack }

end Builder

end WebPage.Markup
