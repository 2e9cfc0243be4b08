/-!
# Content of a document as a labelled tree

What a document holds, apart from where its nodes are kept: elements with their attributes and
children, texts and comments. Reading markup gives such content, and writing markup starts from it.
What is done with content does not depend on how markup is read, so the parser is a parameter there.

## Main definitions

* `Content`: the labelled trees
* `Parser`: ways to read markup
* `Content.render`, `Content.renderAll`: their markup
* `isVoid`, `isRawText`: the tags that are written without end tag, and without escapes inside
-/

namespace WebPage.Markup

/-- A labelled tree. Document types and processing instructions occur in markup only. -/
inductive Content where
  | text (text : String)
  | comment (text : String)
  | doctype (name : String)
  | instruction (target text : String)
  | element (tag : String) (attributes : List (String × String)) (children : List Content)
deriving Repr

/-- A parser gives the content of the document that a text spells, and the content that it spells
inside the body of a document. It is told whether scripts run. -/
structure Parser where
  document (scripting : Bool) (markup : String) : List Content
  fragment (scripting : Bool) (markup : String) : List Content

/-- The tags of elements that have no children and are written without an end tag. -/
def isVoid (tag : String) : Bool :=
  ["area", "base", "br", "col", "embed", "hr", "img", "input", "link", "meta", "source", "track",
    "wbr"].contains tag

/-- The tags of elements whose texts are written as they are. -/
def isRawText (tag : String) : Bool :=
  ["script", "style", "xmp", "iframe", "noembed", "noframes", "plaintext"].contains tag

/-- A character of a text as markup. -/
def escapeTextChar (c : Char) : List Char :=
  if c = '&' then "&amp;".toList
  else if c = '<' then "&lt;".toList
  else if c = '>' then "&gt;".toList
  else if c = '\xa0' then "&nbsp;".toList
  else [c]

/-- A character of an attribute value as markup. -/
def escapeValueChar (c : Char) : List Char :=
  if c = '&' then "&amp;".toList
  else if c = '"' then "&quot;".toList
  else if c = '\xa0' then "&nbsp;".toList
  else [c]

/-- A text as markup. -/
def escapeText (s : String) : String :=
  String.ofList (s.toList.flatMap escapeTextChar)

/-- An attribute value as markup, without its quotes. -/
def escapeValue (s : String) : String :=
  String.ofList (s.toList.flatMap escapeValueChar)

/-- An attribute as markup, with the space before it. -/
def renderAttribute (entry : String × String) : String :=
  " " ++ entry.1 ++ "=\"" ++ escapeValue entry.2 ++ "\""

/-- A start tag. -/
def renderStartTag (tag : String) (attributes : List (String × String)) : String :=
  "<" ++ tag ++ String.join (attributes.map renderAttribute) ++ ">"

mutual

/-- The markup of a labelled tree; a text is escaped unless it stands in raw text. -/
def Content.render (raw : Bool) : Content → String
  | .text s => if raw then s else escapeText s
  | .comment s => "<!--" ++ s ++ "-->"
  | .doctype name => "<!DOCTYPE " ++ name ++ ">"
  | .instruction target s => "<?" ++ target ++ " " ++ s ++ ">"
  | .element tag attributes children =>
    let start := renderStartTag tag attributes
    if isVoid tag then start
    else start ++ Content.renderAll (isRawText tag) children ++ "</" ++ tag ++ ">"

/-- The markup of labelled trees in a row. -/
def Content.renderAll (raw : Bool) : List Content → String
  | [] => ""
  | c :: cs => c.render raw ++ Content.renderAll raw cs

end

end WebPage.Markup
