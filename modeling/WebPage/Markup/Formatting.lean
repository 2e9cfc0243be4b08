import WebPage.Markup.Builder

/-!
# Formatting elements

A formatting element that is closed while other elements are open inside it goes on after them.
Where text goes on, formatting elements that are no longer open are opened again. The end tag of a
formatting element that has blocks inside splits it, so that elements nest.

## Main definitions

* `Builder.reopenFormatting`: opens what is to go on
* `Builder.insertFormatting`: a start tag
* `Builder.endFormatting`: an end tag
* `Builder.endOther`: the end tag of an element that is none
-/

namespace WebPage.Markup.Builder

/-- The elements that are not simply passed over when an end tag is looked for. -/
def specialNames : List String :=
  ["address", "applet", "area", "article", "aside", "base", "basefont", "bgsound", "blockquote",
    "body", "br", "button", "caption", "center", "col", "colgroup", "dd", "details", "dir", "div",
    "dl", "dt", "embed", "fieldset", "figcaption", "figure", "footer", "form", "frame", "frameset",
    "h1", "h2", "h3", "h4", "h5", "h6", "head", "header", "hgroup", "hr", "html", "iframe", "img",
    "input", "keygen", "li", "link", "listing", "main", "marquee", "menu", "meta", "nav", "noembed",
    "noframes", "noscript", "object", "ol", "p", "param", "plaintext", "pre", "script", "search",
    "section", "select", "source", "style", "summary", "table", "tbody", "td", "template",
    "textarea", "tfoot", "th", "thead", "title", "tr", "track", "ul", "wbr", "xmp"]

/-- Whether an element is special. -/
def isSpecial (b : Builder) (id : Nat) : Bool :=
  b.isOneOf specialNames id || (b.kind? id).any isForeignBoundary

/-! ## The list of formatting elements -/

/-- Whether an entry is this element. -/
def isEntry (id : Nat) : FormattingEntry → Bool
  | .element other _ => other == id
  | .marker => false

/-- Whether an entry is no marker. -/
def isElementEntry : FormattingEntry → Bool
  | .element _ _ => true
  | .marker => false

/-- Whether an element is in the list of formatting elements. -/
def isFormatting (b : Builder) (id : Nat) : Bool :=
  b.formatting.any (isEntry id)

/-- Takes an element out of the list of formatting elements. -/
def forget (b : Builder) (id : Nat) : Builder :=
  { b with formatting := b.formatting.filter fun e => !isEntry id e }

/-- Takes an element out of the open elements, wherever it is. -/
def removeOpen (b : Builder) (id : Nat) : Builder :=
  { b with stack := b.stack.filter (· ≠ id) }

/-- Shuts off the formatting elements so far. -/
def pushMarker (b : Builder) : Builder :=
  { b with formatting := .marker :: b.formatting }

/-- Forgets the formatting elements since the last marker, and the marker. -/
def clearToMarker (b : Builder) : Builder :=
  { b with formatting := (b.formatting.dropWhile isElementEntry).drop 1 }

/-- The formatting elements since the last marker, the latest first. -/
def sinceMarker (b : Builder) : List FormattingEntry :=
  b.formatting.takeWhile isElementEntry

/-- The latest formatting element with a name since the last marker. -/
def latestFormatting? (b : Builder) (name : String) : Option (Nat × Tag) :=
  b.sinceMarker.findSome? fun
    | .element id tag => if tag.name = name then some (id, tag) else none
    | .marker => none

/-- Whether two tags have the same name and the same attributes in any order. -/
def sameTag (a c : Tag) : Bool :=
  a.name == c.name && a.attributes.length == c.attributes.length &&
    a.attributes.all c.attributes.contains

/-- Forgets the earliest of the formatting elements since the last marker that are like a tag, if
there are three of them. -/
def limitFormatting (b : Builder) (tag : Tag) : Builder :=
  let alike := b.sinceMarker.filterMap fun
    | .element id other => if sameTag other tag then some id else none
    | .marker => none
  if 3 ≤ alike.length then (alike.getLast?.map b.forget).getD b else b

/-- Inserts a formatting element and remembers it. -/
def insertFormatting (b : Builder) (tag : Tag) : Builder :=
  let b := b.limitFormatting tag
  let (id, b) := b.insertKind ⟨.html, tag.name⟩ tag.attributes
  { b with formatting := .element id tag :: b.formatting }

/-- Opens formatting elements again, the earliest first; the list of formatting elements gets the
new ones. -/
def reopenAll (b : Builder) : List FormattingEntry → Builder
  | [] => b
  | .marker :: rest => b.reopenAll rest
  | .element _ tag :: rest =>
    let (id, b) := b.insertKind ⟨.html, tag.name⟩ tag.attributes
    { b with formatting := .element id tag :: b.formatting }.reopenAll rest

/-- Opens the formatting elements again that are to go on: the latest ones, back to a marker or to
one that is open. -/
def reopenFormatting (b : Builder) : Builder :=
  let isClosed : FormattingEntry → Bool
    | .element id _ => !b.stack.contains id
    | .marker => false
  let closed := b.formatting.takeWhile isClosed
  { b with formatting := b.formatting.drop closed.length }.reopenAll closed.reverse

/-! ## End tags -/

/-- The end tag of an element that is no formatting element: closes it if no special element is in
the way. -/
def endOther (b : Builder) (name : String) : Builder :=
  match b.stack.find? fun id => b.isOneOf [name] id || b.isSpecial id with
  | some id => if b.isOneOf [name] id then (b.closeImpliedExcept name).popThroughId id else b
  | none => b

/-- Where a split formatting element comes in the list of formatting elements. -/
inductive Bookmark where
  /-- In the place of the element that is split. -/
  | replace
  /-- Right after another element. -/
  | after (id : Nat)

/-- Replaces an element in a list. -/
def swapIn (old new : Nat) (ids : List Nat) : List Nat :=
  ids.map fun id => if id = old then new else id

/-- Splits the elements between a formatting element and a block inside it. They are given from the
block outwards. Those that are formatting elements, up to the third element, are copied around
`last`; the others are closed. -/
def splitBetween (b : Builder) (last : Nat) (bookmark : Bookmark) (count : Nat) :
    List Nat → Builder × Nat × Bookmark
  | [] => (b, last, bookmark)
  | node :: rest =>
    let entry := if 3 < count then none else b.formatting.find? (isEntry node)
    match entry with
    | some (.element _ tag) =>
      let (copy, b) := b.createElement ⟨.html, tag.name⟩ tag.attributes
      let b := { b with
        stack := swapIn node copy b.stack
        formatting := b.formatting.map fun e => if isEntry node e then .element copy tag else e
        draft := b.draft.insert (b.holder copy) none last }
      let bookmark := match bookmark with
        | .replace => .after copy
        | bookmark => bookmark
      b.splitBetween copy bookmark (count + 1) rest
    | _ => ((b.forget node).removeOpen node).splitBetween last bookmark (count + 1) rest

/-- Puts an element into the list of formatting elements in the place of another that leaves it. -/
def placeBookmark (b : Builder) (leaving new : Nat) (tag : Tag) (bookmark : Bookmark) : Builder :=
  match bookmark with
  | .replace =>
    let entry (e : FormattingEntry) := if isEntry leaving e then .element new tag else e
    { b with formatting := b.formatting.map entry }
  | .after id =>
    let formatting := b.formatting.flatMap fun e =>
      if isEntry id e then [.element new tag, e] else [e]
    { b with formatting }.forget leaving

/-- Splits a formatting element around the outermost block inside it. -/
def splitAround (b : Builder) (id : Nat) (tag : Tag) (block : Nat) : Builder :=
  let outer := ((b.stack.dropWhile (· ≠ id)).drop 1).headD 0
  let between := ((b.stack.takeWhile (· ≠ id)).dropWhile (· ≠ block)).drop 1
  let (b, last, bookmark) := b.splitBetween block .replace 1 between
  let (parent, before) := b.placeIn outer
  let b := { b with draft := b.draft.insert parent before last }
  let (copy, b) := b.createElement ⟨.html, tag.name⟩ tag.attributes
  let draft := (b.draft.moveChildren block copy).insert block none copy
  let b := { b with draft }.placeBookmark id copy tag bookmark
  let b := b.removeOpen id
  { b with stack := b.stack.flatMap fun other => if other = block then [copy, other] else [other] }

/-- The end tag of a formatting element, for at most `count` splits. -/
def splitFormatting (b : Builder) (name : String) : Nat → Builder
  | 0 => b
  | count + 1 =>
    match b.latestFormatting? name with
    | none => b.endOther name
    | some (id, tag) =>
      if !b.stack.contains id then b.forget id
      else if !b.hasInScopeThat .default (· == id) then b
      else
        match (b.stack.takeWhile (· ≠ id)).reverse.find? b.isSpecial with
        | none => (b.popThroughId id).forget id
        | some block => (b.splitAround id tag block).splitFormatting name count

/-- The end tag of a formatting element. -/
def endFormatting (b : Builder) (name : String) : Builder :=
  match b.stack with
  | current :: _ =>
    if b.isOneOf [name] current && !b.isFormatting current then b.pop
    else b.splitFormatting name 8
  | [] => b

end WebPage.Markup.Builder
