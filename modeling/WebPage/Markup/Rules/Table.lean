import WebPage.Markup.Rules.Body

/-!
# Rules in tables

What a table cannot hold goes in front of it.

## Main definitions

* `inTable`, `inTableText`, `inCaption`, `inColumnGroup`, `inTableBody`, `inRow`, `inCell`: the
  rules
-/

namespace WebPage.Markup.Rules

/-- Reads a token by the rules of the body, with what a table cannot hold put in front of it. -/
def foster (token : Token) (b : Builder) : Step :=
  .use .inBody token { b with fostering := true }

/-- Closes a table, if one is open and not shut off. -/
def closeTable? (b : Builder) : Option Builder :=
  if b.hasInScope .table ["table"] then some (b.popThrough ["table"]).resetMode else none

/-- The start tags of the parts of a table. -/
def partNames : List String :=
  ["caption", "col", "colgroup", "tbody", "td", "tfoot", "th", "thead", "tr"]

/-- A start tag in a table. -/
def tableStartTag (tag : Tag) (b : Builder) : Step :=
  let token := Token.startTag tag
  let b' := b.popTo ["table", "template", "html"]
  match tag.name with
  | "caption" => .done { b'.pushMarker.insertElement tag with mode := .inCaption }
  | "colgroup" => .done { b'.insertElement tag with mode := .inColumnGroup }
  | "col" => .switch .inColumnGroup token (b'.insertPhantom "colgroup")
  | "tbody" | "tfoot" | "thead" => .done { b'.insertElement tag with mode := .inTableBody }
  | "td" | "th" | "tr" => .switch .inTableBody token (b'.insertPhantom "tbody")
  | "table" =>
    match closeTable? b with
    | some b => .again token b
    | none => .done b
  | "style" | "script" | "template" => .use .inHead token b
  | "input" => if isHiddenInput tag then .done (b.insertVoid tag) else foster token b
  | "form" =>
    if b.form.isNone && !b.hasOpen ["template"] then
      let b := b.insertElement tag
      .done { b with form := b.stack.head?, stack := b.stack.drop 1 }
    else .done b
  | _ => foster token b

/-- An end tag in a table. -/
def tableEndTag (name : String) (b : Builder) : Step :=
  if name = "table" then .done ((closeTable? b).getD b)
  else if name = "body" || name = "html" || partNames.contains name then .done b
  else if name = "template" then .use .inHead (.endTag name) b
  else foster (.endTag name) b

/-- The rules in a table. -/
def inTable (token : Token) (b : Builder) : Step :=
  match token with
  | .character _ =>
    if b.currentIs ["table", "tbody", "template", "tfoot", "thead", "tr"] then
      .switch .inTableText token { b with returnMode := b.mode, pending := [] }
    else foster token b
  | .comment text => .done (b.insertComment text)
  | .doctype _ => .done b
  | .startTag tag => tableStartTag tag b
  | .endTag name => tableEndTag name b
  | .endOfText => .use .inBody token b

/-- Inserts the characters read inside a table: all of them in front of it, unless they are
blank. -/
def insertPending (b : Builder) : Builder :=
  let chars := b.pending.reverse
  let b := { b with pending := [] }
  if chars.all fun c => Token.isBlank (.character c) then chars.foldl Builder.insertChar b
  else
    let b := chars.foldl (fun b c => bodyChar c b) { b with fostering := true }
    { b with fostering := false }

/-- The rules for text in a table. -/
def inTableText (token : Token) (b : Builder) : Step :=
  match token with
  | .character c => .done (if c.toNat = 0 then b else { b with pending := c :: b.pending })
  | _ =>
    let b := insertPending b
    .switch b.returnMode token b

/-- Closes a caption, if one is open and not shut off. -/
def closeCaption? (b : Builder) : Option Builder :=
  if b.hasInScope .table ["caption"] then
    let b := ((b.closeImplied Builder.impliedEnds).popThrough ["caption"]).clearToMarker
    some { b with mode := .inTable }
  else none

/-- The rules in a caption. -/
def inCaption (token : Token) (b : Builder) : Step :=
  if token.isEndTagOf ["caption"] then .done ((closeCaption? b).getD b)
  else if token.isStartTagOf partNames || token.isEndTagOf ["table"] then
    match closeCaption? b with
    | some b => .again token b
    | none => .done b
  else if token.isEndTagOf ["body", "col", "colgroup", "html", "tbody", "td", "tfoot", "th",
      "thead", "tr"] then .done b
  else .use .inBody token b

/-- The rules in a group of columns. -/
def inColumnGroup (token : Token) (b : Builder) : Step :=
  let other : Step :=
    if b.currentIs ["colgroup"] then .switch .inTable token b.pop else .done b
  match token with
  | .character c => if token.isBlank then .done (b.insertChar c) else other
  | .comment text => .done (b.insertComment text)
  | .doctype _ => .done b
  | .startTag tag =>
    match tag.name with
    | "html" => .use .inBody token b
    | "col" => .done (b.insertVoid tag)
    | "template" => .use .inHead token b
    | _ => other
  | .endTag name =>
    match name with
    | "colgroup" =>
      .done (if b.currentIs ["colgroup"] then { b.pop with mode := .inTable } else b)
    | "col" => .done b
    | "template" => .use .inHead token b
    | _ => other
  | .endOfText => .use .inBody token b

/-- Closes elements down to the rows of a table. -/
def popToRows (b : Builder) : Builder :=
  b.popTo ["tbody", "tfoot", "thead", "template", "html"]

/-- Closes elements down to the cells of a row. -/
def popToCells (b : Builder) : Builder :=
  b.popTo ["tr", "template", "html"]

/-- The rules among the rows of a table. -/
def inTableBody (token : Token) (b : Builder) : Step :=
  let leave : Step :=
    if b.hasInScope .table ["tbody", "thead", "tfoot"] then .switch .inTable token (popToRows b).pop
    else .done b
  match token with
  | .startTag tag =>
    match tag.name with
    | "tr" => .done { (popToRows b).insertElement tag with mode := .inRow }
    | "th" | "td" => .switch .inRow token ((popToRows b).insertPhantom "tr")
    | "caption" | "col" | "colgroup" | "tbody" | "tfoot" | "thead" => leave
    | _ => .use .inTable token b
  | .endTag name =>
    match name with
    | "tbody" | "tfoot" | "thead" =>
      .done (if b.hasInScope .table [name] then { (popToRows b).pop with mode := .inTable } else b)
    | "table" => leave
    | "body" | "caption" | "col" | "colgroup" | "html" | "td" | "th" | "tr" => .done b
    | _ => .use .inTable token b
  | _ => .use .inTable token b

/-- The rules in a row. -/
def inRow (token : Token) (b : Builder) : Step :=
  let closed : Builder := { (popToCells b).pop with mode := .inTableBody }
  let leave : Step := if b.hasInScope .table ["tr"] then .again token closed else .done b
  match token with
  | .startTag tag =>
    match tag.name with
    | "th" | "td" => .done { ((popToCells b).insertElement tag).pushMarker with mode := .inCell }
    | "caption" | "col" | "colgroup" | "tbody" | "tfoot" | "thead" | "tr" => leave
    | _ => .use .inTable token b
  | .endTag name =>
    match name with
    | "tr" => .done (if b.hasInScope .table ["tr"] then closed else b)
    | "table" => leave
    | "tbody" | "tfoot" | "thead" => if b.hasInScope .table [name] then leave else .done b
    | "body" | "caption" | "col" | "colgroup" | "html" | "td" | "th" => .done b
    | _ => .use .inTable token b
  | _ => .use .inTable token b

/-- Closes the open cell. -/
def closeCell (b : Builder) : Builder :=
  let b := ((b.closeImplied Builder.impliedEnds).popThrough ["td", "th"]).clearToMarker
  { b with mode := .inRow }

/-- The rules in a cell. -/
def inCell (token : Token) (b : Builder) : Step :=
  match token with
  | .startTag tag =>
    if partNames.contains tag.name then
      if b.hasInScope .table ["td", "th"] then .again token (closeCell b) else .done b
    else .use .inBody token b
  | .endTag name =>
    if name = "td" || name = "th" then
      if b.hasInScope .table [name] then
        let b := ((b.closeImplied Builder.impliedEnds).popThrough [name]).clearToMarker
        .done { b with mode := .inRow }
      else .done b
    else if ["body", "caption", "col", "colgroup", "html"].contains name then .done b
    else if ["table", "tbody", "tfoot", "thead", "tr"].contains name then
      if b.hasInScope .table [name] then .again token (closeCell b) else .done b
    else .use .inBody token b
  | _ => .use .inBody token b

end WebPage.Markup.Rules
