import WebPage.Markup.Rules

/-!
# Rules up to the head

## Main definitions

* `initial`, `beforeHtml`, `beforeHead`, `inHead`, `inHeadNoscript`, `afterHead`: the rules
* `isOutdated`: whether a document type is not one in use
-/

namespace WebPage.Markup.Rules

/-- The starts of the descriptions of document types that are out of use. -/
def oldDescriptions : List String :=
  ["dtd html 2", "dtd html 3", "dtd html 4.0 frameset", "dtd html 4.0 transitional",
    "dtd html experimental", "dtd html extended", "dtd html level", "dtd html strict",
    "dtd strict html", "dtd w3 html"]

/-- The same for those that are out of use only without a system identifier. -/
def halfOldDescriptions : List String :=
  ["dtd html 4.01 frameset", "dtd html 4.01 transitional"]

/-- The description in a public identifier: what stands between the second and the third pair of
slashes, in small letters. -/
def description (publicId : String) : String :=
  match publicId.splitOn "//" with
  | _ :: _ :: text :: _ => text.toLower
  | _ => ""

/-- Whether a document with this type is read as older documents are. -/
def isOutdated (d : Doctype) : Bool :=
  let described (texts : List String) : Bool :=
    d.publicId.any fun id => texts.any fun text => (description id).startsWith text
  d.broken || d.name != "html" ||
    d.publicId.any (fun id => id.toLower = "html" || description id = "dtd html") ||
    described oldDescriptions || (d.systemId.isNone && described halfOldDescriptions)

/-- The rules for a document of which nothing has been read. -/
def initial (token : Token) (b : Builder) : Step :=
  match token with
  | .comment text => .done (b.insertCommentIn 0 text)
  | .doctype d =>
    let (id, draft) := b.draft.add (.doctype d.name)
    .done { b with draft := draft.insert 0 none id, outdated := isOutdated d, mode := .beforeHtml }
  | _ =>
    if token.isBlank then .done b else .switch .beforeHtml token { b with outdated := true }

/-- Opens the document element. -/
def openRoot (b : Builder) (attributes : List (String × String)) : Builder :=
  (b.insertKind ⟨.html, "html"⟩ attributes).2

/-- The rules up to the document element. -/
def beforeHtml (token : Token) (b : Builder) : Step :=
  match token with
  | .comment text => .done (b.insertCommentIn 0 text)
  | .doctype _ => .done b
  | .startTag tag =>
    if tag.name = "html" then .done { openRoot b tag.attributes with mode := .beforeHead }
    else .switch .beforeHead token (openRoot b [])
  | _ =>
    if token.isBlank then .done b
    else if token.isEndTag && !token.isEndTagOf ["head", "body", "html", "br"] then .done b
    else .switch .beforeHead token (openRoot b [])

/-- Opens the head. -/
def openHead (b : Builder) (tag : Tag) : Builder :=
  let b := b.insertElement tag
  { b with head := b.stack.head? }

/-- The rules up to the head. -/
def beforeHead (token : Token) (b : Builder) : Step :=
  let other := Step.switch .inHead token (openHead b { name := "head" })
  match token with
  | .comment text => .done (b.insertComment text)
  | .doctype _ => .done b
  | .startTag tag =>
    if tag.name = "html" then .use .inBody token b
    else if tag.name = "head" then .done { openHead b tag with mode := .inHead }
    else other
  | _ =>
    if token.isBlank then .done b
    else if token.isEndTag && !token.isEndTagOf ["head", "body", "html", "br"] then .done b
    else other

/-- Opens a template. -/
def openTemplate (b : Builder) (tag : Tag) : Builder :=
  let b := (b.insertElement tag).pushMarker
  { b with
    framesetOk := false, mode := .inTemplate, templateModes := .inTemplate :: b.templateModes }

/-- Closes the innermost template. -/
def closeTemplate (b : Builder) : Builder :=
  let b := (b.popThrough ["template"]).clearToMarker
  { b with templateModes := b.templateModes.drop 1 }.resetMode

/-- All elements whose end may be implied when a template ends. -/
def thoroughlyImplied : List String :=
  ["caption", "colgroup", "tbody", "td", "tfoot", "th", "thead", "tr"] ++ Builder.impliedEnds

/-- The rules in the head. -/
def inHead (token : Token) (b : Builder) : Step :=
  let other := Step.switch .afterHead token b.pop
  match token with
  | .character c => if token.isBlank then .done (b.insertChar c) else other
  | .comment text => .done (b.insertComment text)
  | .doctype _ => .done b
  | .startTag tag =>
    match tag.name with
    | "html" => .use .inBody token b
    | "base" | "basefont" | "bgsound" | "link" | "meta" => .done (b.insertVoid tag)
    | "title" => .done (b.insertRaw tag .escapableRaw)
    | "noframes" | "style" => .done (b.insertRaw tag .raw)
    | "noscript" =>
      if b.scripting then .done (b.insertRaw tag .raw)
      else .done { b.insertElement tag with mode := .inHeadNoscript }
    | "script" => .done (b.insertRaw tag (.script .plain))
    | "template" => .done (openTemplate b tag)
    | "head" => .done b
    | _ => other
  | .endTag name =>
    match name with
    | "head" => .done { b.pop with mode := .afterHead }
    | "template" =>
      if b.hasOpen ["template"] then .done (closeTemplate (b.closeImplied thoroughlyImplied))
      else .done b
    | "body" | "html" | "br" => other
    | _ => .done b
  | .endOfText => other

/-- The rules in what is shown without scripts in the head. -/
def inHeadNoscript (token : Token) (b : Builder) : Step :=
  let other := Step.switch .inHead token b.pop
  match token with
  | .doctype _ => .done b
  | .startTag tag =>
    if tag.name = "html" then .use .inBody token b
    else if ["basefont", "bgsound", "link", "meta", "noframes", "style"].contains tag.name then
      .use .inHead token b
    else if ["head", "noscript"].contains tag.name then .done b
    else other
  | .endTag name =>
    if name = "noscript" then .done { b.pop with mode := .inHead }
    else if name = "br" then other
    else .done b
  | .comment _ => .use .inHead token b
  | .character _ => if token.isBlank then .use .inHead token b else other
  | .endOfText => other

/-- The elements that belong into the head even where they come after it. -/
def headNames : List String :=
  ["base", "basefont", "bgsound", "link", "meta", "noframes", "script", "style", "template",
    "title"]

/-- The rules between head and body. -/
def afterHead (token : Token) (b : Builder) : Step :=
  let other := Step.switch .inBody token (b.insertPhantom "body")
  match token with
  | .character c => if token.isBlank then .done (b.insertChar c) else other
  | .comment text => .done (b.insertComment text)
  | .doctype _ => .done b
  | .startTag tag =>
    if tag.name = "html" then .use .inBody token b
    else if tag.name = "body" then
      .done { b.insertElement tag with framesetOk := false, mode := .inBody }
    else if tag.name = "frameset" then .done { b.insertElement tag with mode := .inFrameset }
    else if headNames.contains tag.name then
      match b.head with
      | some head =>
        match inHead token { b with stack := head :: b.stack } with
        | .done b => .done (b.removeOpen head)
        | step => step
      | none => .done b
    else if tag.name = "head" then .done b
    else other
  | .endTag name =>
    match name with
    | "template" => .use .inHead token b
    | "body" | "html" | "br" => other
    | _ => .done b
  | .endOfText => other

end WebPage.Markup.Rules
