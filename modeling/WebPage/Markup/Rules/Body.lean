import WebPage.Markup.Rules.Foreign
import WebPage.Markup.Rules.Head

/-!
# Rules in the body

## Main definitions

* `bodyChar`: a character in the body
* `bodyStartTag`, `bodyEndTag`: tags in the body
* `inBody`, `text`, `afterBody`, `afterAfterBody`: the rules
-/

namespace WebPage.Markup.Rules

/-- A character in the body. The null character is left out. -/
def bodyChar (c : Char) (b : Builder) : Builder :=
  if c.toNat = 0 then b
  else
    let b := b.reopenFormatting.insertChar c
    if Token.isBlank (.character c) then b else { b with framesetOk := false }

/-- The headings. -/
def headings : List String := ["h1", "h2", "h3", "h4", "h5", "h6"]

/-- The blocks that close a paragraph and do nothing else. -/
def plainBlocks : List String :=
  ["address", "article", "aside", "blockquote", "center", "details", "dialog", "dir", "div", "dl",
    "fieldset", "figcaption", "figure", "footer", "header", "hgroup", "main", "menu", "nav", "ol",
    "p", "search", "section", "summary", "ul"]

/-- The formatting elements, links apart. -/
def formattingNames : List String :=
  ["b", "big", "code", "em", "font", "i", "s", "small", "strike", "strong", "tt", "u"]

/-- The insertion modes inside a table. -/
def isTableMode : Mode → Bool
  | .inTable | .inCaption | .inTableBody | .inRow | .inCell => true
  | _ => false

/-- Closes an open list item of one of these kinds, unless another special element than an address,
a section or a paragraph is in the way. -/
def closeItem (names : List String) (b : Builder) : Builder :=
  let stops (id : Nat) : Bool :=
    b.isOneOf names id || (b.isSpecial id && !b.isOneOf ["address", "div", "p"] id)
  match b.stack.find? stops with
  | some id =>
    match b.kind? id with
    | some kind =>
      if b.isOneOf names id then (b.closeImpliedExcept kind.name).popThrough [kind.name] else b
    | none => b
  | none => b

/-- The start tag of a link: an open link ends first. -/
def openLink (tag : Tag) (b : Builder) : Builder :=
  let b := match b.latestFormatting? "a" with
    | some (id, _) => ((b.endFormatting "a").forget id).removeOpen id
    | none => b
  b.reopenFormatting.insertFormatting tag

/-- Inserts an element without content where text may stand. -/
def insertInlineVoid (tag : Tag) (b : Builder) : Builder :=
  { b.reopenFormatting.insertVoid tag with framesetOk := false }

/-- Whether an input control is not shown. -/
def isHiddenInput (tag : Tag) : Bool :=
  (tag.attributes.lookup "type").any fun type => type.toLower = "hidden"

/-- The second of the open elements, counted from the root, if it is the body. -/
def openBody? (b : Builder) : Option Nat :=
  (b.stack.reverse[1]?).filter (b.isOneOf ["body"])

/-- A start tag in the body. -/
def bodyStartTag (tag : Tag) (b : Builder) : Step :=
  let token := Token.startTag tag
  let name := tag.name
  if name = "html" then
    .done (if b.hasOpen ["template"] then b else b.addMissingAttributes b.stack.getLast? tag)
  else if headNames.contains name then .use .inHead token b
  else if name = "body" then
    match openBody? b with
    | some id =>
      if b.hasOpen ["template"] then .done b
      else .done { b.addMissingAttributes (some id) tag with framesetOk := false }
    | none => .done b
  else if name = "frameset" then
    match openBody? b with
    | some id =>
      if b.framesetOk then
        let b := { b with draft := b.draft.remove id, stack := b.stack.drop (b.stack.length - 1) }
        .done { b.insertElement tag with mode := .inFrameset }
      else .done b
    | none => .done b
  else if plainBlocks.contains name then .done (b.closeParagraphInScope.insertElement tag)
  else if headings.contains name then
    let b := b.closeParagraphInScope
    .done ((if b.currentIs headings then b.pop else b).insertElement tag)
  else if name = "pre" || name = "listing" then
    let b := b.closeParagraphInScope.insertElement tag
    .done { b with skipNewline := true, framesetOk := false }
  else if name = "form" then
    let inTemplate := b.hasOpen ["template"]
    if b.form.isSome && !inTemplate then .done b
    else
      let b := b.closeParagraphInScope.insertElement tag
      .done (if inTemplate then b else { b with form := b.stack.head? })
  else if name = "li" then
    let b := closeItem ["li"] { b with framesetOk := false }
    .done (b.closeParagraphInScope.insertElement tag)
  else if name = "dd" || name = "dt" then
    let b := closeItem ["dd", "dt"] { b with framesetOk := false }
    .done (b.closeParagraphInScope.insertElement tag)
  else if name = "plaintext" then
    .done { b.closeParagraphInScope.insertElement tag with textMode := some .plain }
  else if name = "button" then
    let b := if b.hasInScope .default ["button"] then
      (b.closeImplied Builder.impliedEnds).popThrough ["button"] else b
    .done { b.reopenFormatting.insertElement tag with framesetOk := false }
  else if name = "a" then .done (openLink tag b)
  else if formattingNames.contains name then .done (b.reopenFormatting.insertFormatting tag)
  else if name = "nobr" then
    let b := b.reopenFormatting
    let b := if b.hasInScope .default ["nobr"] then (b.endFormatting "nobr").reopenFormatting else b
    .done (b.insertFormatting tag)
  else if ["applet", "marquee", "object"].contains name then
    .done { (b.reopenFormatting.insertElement tag).pushMarker with framesetOk := false }
  else if name = "table" then
    let b := if b.outdated then b else b.closeParagraphInScope
    .done { b.insertElement tag with framesetOk := false, mode := .inTable }
  else if ["area", "br", "embed", "img", "keygen", "wbr"].contains name then
    .done (insertInlineVoid tag b)
  else if name = "input" then
    let ok := b.framesetOk && isHiddenInput tag
    .done { insertInlineVoid tag b with framesetOk := ok }
  else if ["param", "source", "track"].contains name then .done (b.insertVoid tag)
  else if name = "hr" then
    .done { b.closeParagraphInScope.insertVoid tag with framesetOk := false }
  else if name = "image" then .again (.startTag { tag with name := "img" }) b
  else if name = "textarea" then
    .done { b.insertRaw tag .escapableRaw with skipNewline := true, framesetOk := false }
  else if name = "xmp" then
    .done { b.closeParagraphInScope.reopenFormatting.insertRaw tag .raw with framesetOk := false }
  else if name = "iframe" then .done { b.insertRaw tag .raw with framesetOk := false }
  else if name = "noembed" || (name = "noscript" && b.scripting) then .done (b.insertRaw tag .raw)
  else if name = "select" then
    let mode := if isTableMode b.mode then Mode.inSelectInTable else Mode.inSelect
    .done { b.reopenFormatting.insertElement tag with framesetOk := false, mode }
  else if name = "optgroup" || name = "option" then
    let b := if b.currentIs ["option"] then b.pop else b
    .done (b.reopenFormatting.insertElement tag)
  else if name = "rb" || name = "rtc" then
    let b := if b.hasInScope .default ["ruby"] then b.closeImplied Builder.impliedEnds else b
    .done (b.insertElement tag)
  else if name = "rp" || name = "rt" then
    let b := if b.hasInScope .default ["ruby"] then b.closeImpliedExcept "rtc" else b
    .done (b.insertElement tag)
  else if name = "math" then .done (insertForeign .math tag b.reopenFormatting)
  else if name = "svg" then .done (insertForeign .svg tag b.reopenFormatting)
  else if ["caption", "col", "colgroup", "frame", "head", "tbody", "td", "tfoot", "th", "thead",
      "tr"].contains name then .done b
  else .done (b.reopenFormatting.insertElement tag)

/-- The end of a form. -/
def closeForm (b : Builder) : Builder :=
  if b.hasOpen ["template"] then
    if b.hasInScope .default ["form"] then
      (b.closeImplied Builder.impliedEnds).popThrough ["form"]
    else b
  else
    match b.form with
    | none => b
    | some id =>
      let b := { b with form := none }
      if b.hasInScopeThat .default (· == id) then
        (b.closeImplied Builder.impliedEnds).removeOpen id
      else b

/-- The end of an element that is open and not shut off. -/
def closeInScope (scope : Builder.Scope) (name : String) (b : Builder) : Builder :=
  if b.hasInScope scope [name] then (b.closeImpliedExcept name).popThrough [name] else b

/-- An end tag in the body. -/
def bodyEndTag (name : String) (b : Builder) : Step :=
  if name = "template" then .use .inHead (.endTag name) b
  else if name = "body" then
    .done (if b.hasInScope .default ["body"] then { b with mode := .afterBody } else b)
  else if name = "html" then
    if b.hasInScope .default ["body"] then .switch .afterBody (.endTag name) b else .done b
  else if (name ≠ "p" && plainBlocks.contains name) ||
      ["button", "listing", "pre"].contains name then
    .done (if b.hasInScope .default [name] then
      (b.closeImplied Builder.impliedEnds).popThrough [name] else b)
  else if name = "form" then .done (closeForm b)
  else if name = "p" then
    let b := if b.hasInScope .button ["p"] then b else b.insertPhantom "p"
    .done b.closeParagraph
  else if name = "li" then .done (closeInScope .listItem name b)
  else if name = "dd" || name = "dt" then .done (closeInScope .default name b)
  else if headings.contains name then
    .done (if b.hasInScope .default headings then
      (b.closeImplied Builder.impliedEnds).popThrough headings else b)
  else if name = "a" || name = "nobr" || formattingNames.contains name then
    .done (b.endFormatting name)
  else if ["applet", "marquee", "object"].contains name then
    .done (if b.hasInScope .default [name] then
      ((b.closeImplied Builder.impliedEnds).popThrough [name]).clearToMarker else b)
  else if name = "br" then .done (insertInlineVoid { name } b)
  else .done (b.endOther name)

/-- The rules in the body. -/
def inBody (token : Token) (b : Builder) : Step :=
  match token with
  | .character c => .done (bodyChar c b)
  | .comment text => .done (b.insertComment text)
  | .doctype _ => .done b
  | .startTag tag => bodyStartTag tag b
  | .endTag name => bodyEndTag name b
  | .endOfText => if b.templateModes.isEmpty then .done b else .use .inTemplate token b

/-- The rules in an element whose content is text. -/
def text (token : Token) (b : Builder) : Step :=
  let back : Builder := { b.pop with mode := b.returnMode }
  match token with
  | .character c => .done (b.insertChar c)
  | .endOfText => .again token back
  | .endTag _ => .done back
  | _ => .done b

/-- The rules after the body. -/
def afterBody (token : Token) (b : Builder) : Step :=
  match token with
  | .comment text => .done (b.insertCommentIn (b.stack.getLast?.getD 0) text)
  | .doctype _ => .done b
  | .endOfText => .done b
  | _ =>
    if token.isBlank || token.isStartTagOf ["html"] then .use .inBody token b
    else if token.isEndTagOf ["html"] then .done { b with mode := .afterAfterBody }
    else .switch .inBody token b

/-- The rules after the document element. -/
def afterAfterBody (token : Token) (b : Builder) : Step :=
  match token with
  | .comment text => .done (b.insertCommentIn 0 text)
  | .endOfText => .done b
  | _ =>
    if token.isBlank || token.isStartTagOf ["html"] then .use .inBody token b
    else match token with
      | .doctype _ => .done b
      | _ => .switch .inBody token b

end WebPage.Markup.Rules
