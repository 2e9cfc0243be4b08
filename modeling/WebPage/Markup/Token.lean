/-!
# Tokens of markup

## Main definitions

* `Doctype`, `Tag`, `Token`: the tokens
* `TextMode`: how text is read after a start tag
-/

namespace WebPage.Markup

/-- A document type. -/
structure Doctype where
  name : String := ""
  publicId : Option String := none
  systemId : Option String := none
  /-- It is not written as it should be. -/
  broken : Bool := false
deriving DecidableEq, Repr

/-- A start tag. Of attributes with one name the first counts, and the others are left out. -/
structure Tag where
  name : String
  attributes : List (String × String) := []
  selfClosing : Bool := false
deriving DecidableEq, Repr

/-- A token of markup. -/
inductive Token where
  | doctype (doctype : Doctype)
  | startTag (tag : Tag)
  | endTag (name : String)
  | comment (text : String)
  | character (c : Char)
  | endOfText
deriving DecidableEq, Repr

/-- How deep a script is in what looks like a comment, and in a script inside it, with the number of
hyphens just read. -/
inductive ScriptDepth where
  | plain
  | escaped (hyphens : Nat)
  | doubleEscaped (hyphens : Nat)
deriving DecidableEq, Repr

/-- How text is read. -/
inductive TextMode where
  /-- Tags, references and comments are read. -/
  | data
  /-- References are read, and the end tag of the element. -/
  | escapableRaw
  /-- The end tag of the element is read, and nothing else. -/
  | raw
  /-- As `raw`, but what looks like a comment may hide an end tag. -/
  | script (depth : ScriptDepth)
  /-- All to the end is text. -/
  | plain
deriving DecidableEq, Repr

end WebPage.Markup
