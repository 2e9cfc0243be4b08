import WebPage.Markup.Rules

/-!
# Rules for drawings and formulas

Elements of other vocabularies can stand in a document: drawings and formulas. Some of their
elements take elements of documents again.

## Main definitions

* `foreignAttributes`: attributes without the prefixes that other vocabularies give them
* `insertForeign`: opens an element of another vocabulary
* `isForeign`: whether a token goes into another vocabulary
* `inForeign`: the rules there
-/

namespace WebPage.Markup.Rules

/-- The attributes with a prefix that stands for a vocabulary, and their names in it. -/
def prefixedAttributes : List (String × String) :=
  [("xlink:actuate", "actuate"), ("xlink:arcrole", "arcrole"), ("xlink:href", "href"),
    ("xlink:role", "role"), ("xlink:show", "show"), ("xlink:title", "title"),
    ("xlink:type", "type"), ("xml:lang", "lang"), ("xml:space", "space"), ("xmlns:xlink", "xlink")]

/-- The attributes of an element of another vocabulary, without prefixes. -/
def foreignAttributes (attributes : List (String × String)) : List (String × String) :=
  attributes.map fun (name, value) => ((prefixedAttributes.lookup name).getD name, value)

/-- Opens an element of another vocabulary; one that closes itself is closed at once. -/
def insertForeign (space : Space) (tag : Tag) (b : Builder) : Builder :=
  let (_, b) := b.insertKind ⟨space, tag.name⟩ (foreignAttributes tag.attributes)
  if tag.selfClosing then b.pop else b

/-- Whether an element of formulas takes text of documents. -/
def isTextIntegration (k : Kind) : Bool :=
  k.space = .math && ["mi", "mo", "mn", "ms", "mtext"].contains k.name

/-- Whether an element of another vocabulary takes elements of documents. -/
def isHtmlIntegration (b : Builder) (id : Nat) : Bool :=
  match b.kind? id with
  | some ⟨.svg, name⟩ => ["foreignobject", "desc", "title"].contains name
  | some ⟨.math, name⟩ =>
    name = "annotation-xml" && ((b.draft.attributes id).lookup "encoding").any fun value =>
      ["text/html", "application/xhtml+xml"].contains value.toLower
  | _ => false

/-- Whether the current element is of another vocabulary. -/
def currentIsForeign (b : Builder) : Bool :=
  (b.stack.head?.bind b.kind?).any fun k => k.space ≠ .html

/-- Whether a token goes into another vocabulary. -/
def isForeign (token : Token) (b : Builder) : Bool :=
  match b.stack with
  | [] => false
  | current :: _ =>
    match b.kind? current with
    | none => false
    | some k =>
      let isCharacter := match token with
        | .character _ => true
        | _ => false
      let isStart := match token with
        | .startTag _ => true
        | _ => false
      if k.space = .html || token = .endOfText then false
      else if isTextIntegration k &&
          (isCharacter || (isStart && !token.isStartTagOf ["mglyph", "malignmark"])) then false
      else if k = ⟨.math, "annotation-xml"⟩ && token.isStartTagOf ["svg"] then false
      else if isHtmlIntegration b current && (isCharacter || isStart) then false
      else true

/-- The start tags that end all elements of other vocabularies. -/
def breakoutNames : List String :=
  ["b", "big", "blockquote", "body", "br", "center", "code", "dd", "div", "dl", "dt", "em", "embed",
    "h1", "h2", "h3", "h4", "h5", "h6", "head", "hr", "i", "img", "li", "listing", "menu", "meta",
    "nobr", "ol", "p", "pre", "ruby", "s", "small", "span", "strong", "strike", "sub", "sup",
    "table", "tt", "u", "ul", "var"]

/-- Whether a start tag ends all elements of other vocabularies. -/
def breaksOut (tag : Tag) : Bool :=
  breakoutNames.contains tag.name ||
    (tag.name = "font" && tag.attributes.any fun entry =>
      ["color", "face", "size"].contains entry.1)

/-- Closes elements of other vocabularies down to one that takes elements of documents. -/
def leaveForeign (b : Builder) : Builder :=
  { b with stack := b.stack.dropWhile fun id =>
      match b.kind? id with
      | some k => k.space ≠ .html && !isTextIntegration k && !isHtmlIntegration b id
      | none => false }

/-- The end tag of an element of another vocabulary: closes the innermost element with its name, or
goes to the rules of the mode if an element of documents comes first. -/
def closeForeign (name : String) (b : Builder) (first : Bool) : List Nat → Step
  | [] => .done b
  | [_] => .done b
  | id :: outer =>
    match b.kind? id with
    | none => .done b
    | some k =>
      if !first && k.space = .html then .use b.mode (.endTag name) b
      else if k.name = name then .done (b.popThroughId id)
      else closeForeign name b false outer

/-- The rules inside an element of another vocabulary. -/
def inForeign (token : Token) (b : Builder) : Step :=
  match token with
  | .character c =>
    if c.toNat = 0 then .done (b.insertChar (Char.ofNat 0xFFFD))
    else
      let b := b.insertChar c
      .done (if token.isBlank then b else { b with framesetOk := false })
  | .comment text => .done (b.insertComment text)
  | .doctype _ => .done b
  | .startTag tag =>
    if breaksOut tag then
      let b := leaveForeign b
      .use b.mode token b
    else
      match b.stack.head?.bind b.kind? with
      | some k => .done (insertForeign k.space tag b)
      | none => .done b
  | .endTag name =>
    if name = "br" || name = "p" then
      let b := leaveForeign b
      .use b.mode token b
    else closeForeign name b true b.stack
  | .endOfText => .done b

end WebPage.Markup.Rules
