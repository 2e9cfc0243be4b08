import WebPage.Markup.Rules.Table

/-!
# Rules in choices, templates and framesets

## Main definitions

* `inSelect`, `inSelectInTable`: the rules in a select control
* `inTemplate`: the rules in a template
* `inFrameset`, `afterFrameset`, `afterAfterFrameset`: the rules of frames
-/

namespace WebPage.Markup.Rules

/-! ## Choices -/

/-- Closes the open select control. -/
def closeSelect (b : Builder) : Builder :=
  (b.popThrough ["select"]).resetMode

/-- The rules in a select control. -/
def inSelect (token : Token) (b : Builder) : Step :=
  let closeIf (names : List String) (b : Builder) : Builder :=
    if b.currentIs names then b.pop else b
  match token with
  | .character c => .done (if c.toNat = 0 then b else b.insertChar c)
  | .comment text => .done (b.insertComment text)
  | .doctype _ => .done b
  | .startTag tag =>
    match tag.name with
    | "html" => .use .inBody token b
    | "option" => .done ((closeIf ["option"] b).insertElement tag)
    | "optgroup" => .done ((closeIf ["optgroup"] (closeIf ["option"] b)).insertElement tag)
    | "hr" => .done ((closeIf ["optgroup"] (closeIf ["option"] b)).insertVoid tag)
    | "select" => .done (if b.hasInScope .select ["select"] then closeSelect b else b)
    | "input" | "keygen" | "textarea" =>
      if b.hasInScope .select ["select"] then .again token (closeSelect b) else .done b
    | "script" | "template" => .use .inHead token b
    | _ => .done b
  | .endTag name =>
    match name with
    | "optgroup" =>
      let inGroup := b.currentIs ["option"] && (b.stack[1]?).any (b.isOneOf ["optgroup"])
      .done (closeIf ["optgroup"] (if inGroup then b.pop else b))
    | "option" => .done (closeIf ["option"] b)
    | "select" => .done (if b.hasInScope .select ["select"] then closeSelect b else b)
    | "template" => .use .inHead token b
    | _ => .done b
  | .endOfText => .use .inBody token b

/-- The rules in a select control that stands in a table. -/
def inSelectInTable (token : Token) (b : Builder) : Step :=
  let names := ["caption", "table", "tbody", "tfoot", "thead", "tr", "td", "th"]
  match token with
  | .startTag tag =>
    if names.contains tag.name then .again token (closeSelect b) else .use .inSelect token b
  | .endTag name =>
    if names.contains name then
      if b.hasInScope .table [name] then .again token (closeSelect b) else .done b
    else .use .inSelect token b
  | _ => .use .inSelect token b

/-! ## Templates -/

/-- Considers a token afresh in the mode that the content of a template calls for. -/
def switchTemplate (mode : Mode) (token : Token) (b : Builder) : Step :=
  .switch mode token { b with templateModes := mode :: b.templateModes.drop 1 }

/-- The rules in a template. -/
def inTemplate (token : Token) (b : Builder) : Step :=
  match token with
  | .startTag tag =>
    if headNames.contains tag.name then .use .inHead token b
    else
      match tag.name with
      | "caption" | "colgroup" | "tbody" | "tfoot" | "thead" => switchTemplate .inTable token b
      | "col" => switchTemplate .inColumnGroup token b
      | "tr" => switchTemplate .inTableBody token b
      | "td" | "th" => switchTemplate .inRow token b
      | _ => switchTemplate .inBody token b
  | .endTag name => if name = "template" then .use .inHead token b else .done b
  | .endOfText =>
    if b.hasOpen ["template"] then .again token (closeTemplate b) else .done b
  | _ => .use .inBody token b

/-! ## Frames -/

/-- The rules in a frameset. -/
def inFrameset (token : Token) (b : Builder) : Step :=
  match token with
  | .character c => .done (if token.isBlank then b.insertChar c else b)
  | .comment text => .done (b.insertComment text)
  | .startTag tag =>
    match tag.name with
    | "html" => .use .inBody token b
    | "frameset" => .done (b.insertElement tag)
    | "frame" => .done (b.insertVoid tag)
    | "noframes" => .use .inHead token b
    | _ => .done b
  | .endTag name =>
    if name = "frameset" && 1 < b.stack.length then
      let b := b.pop
      .done (if b.currentIs ["frameset"] then b else { b with mode := .afterFrameset })
    else .done b
  | _ => .done b

/-- The rules after the frameset. -/
def afterFrameset (token : Token) (b : Builder) : Step :=
  match token with
  | .character c => .done (if token.isBlank then b.insertChar c else b)
  | .comment text => .done (b.insertComment text)
  | .startTag tag =>
    match tag.name with
    | "html" => .use .inBody token b
    | "noframes" => .use .inHead token b
    | _ => .done b
  | .endTag name => .done (if name = "html" then { b with mode := .afterAfterFrameset } else b)
  | _ => .done b

/-- The rules after a document of frames. -/
def afterAfterFrameset (token : Token) (b : Builder) : Step :=
  match token with
  | .comment text => .done (b.insertCommentIn 0 text)
  | .startTag tag =>
    match tag.name with
    | "html" => .use .inBody token b
    | "noframes" => .use .inHead token b
    | _ => .done b
  | .character _ => if token.isBlank then .use .inBody token b else .done b
  | _ => .done b

end WebPage.Markup.Rules
