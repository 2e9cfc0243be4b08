import WebPage.Markup.Lexer
import WebPage.Markup.Rules.Choice

/-!
# Reading markup

Tokens are read from the text and built into a draft, one after the other; what is open decides how
the text that follows is read. Any text is read as a document with a head and a body, or with a
frameset.

## Main definitions

* `Mode.rule`: the rules of a mode
* `Builder.consume`: a token, with all rules that it goes through
* `build`: a text
* `parseDocument`: the content of a document
* `parseFragment`: the content of a body
* `htmlParser`: both together
-/

namespace WebPage.Markup

open Rules

/-- The rules of a mode. -/
def Mode.rule : Mode → Token → Builder → Step
  | .initial => Rules.initial
  | .beforeHtml => Rules.beforeHtml
  | .beforeHead => Rules.beforeHead
  | .inHead => Rules.inHead
  | .inHeadNoscript => Rules.inHeadNoscript
  | .afterHead => Rules.afterHead
  | .inBody => Rules.inBody
  | .text => Rules.text
  | .inTable => Rules.inTable
  | .inTableText => Rules.inTableText
  | .inCaption => Rules.inCaption
  | .inColumnGroup => Rules.inColumnGroup
  | .inTableBody => Rules.inTableBody
  | .inRow => Rules.inRow
  | .inCell => Rules.inCell
  | .inSelect => Rules.inSelect
  | .inSelectInTable => Rules.inSelectInTable
  | .inTemplate => Rules.inTemplate
  | .afterBody => Rules.afterBody
  | .inFrameset => Rules.inFrameset
  | .afterFrameset => Rules.afterFrameset
  | .afterAfterBody => Rules.afterAfterBody
  | .afterAfterFrameset => Rules.afterAfterFrameset

namespace Builder

/-- Goes on with a step until the token is complete, for at most `bound` rules. What a table cannot
hold goes in front of it until then, or until the token is considered afresh. -/
def settle : Nat → Step → Builder
  | _, .done b => { b with fostering := false }
  | 0, .again _ b => { b with fostering := false }
  | 0, .use _ _ b => { b with fostering := false }
  | bound + 1, .again token b =>
    let b := { b with fostering := false }
    settle bound (if isForeign token b then inForeign token b else b.mode.rule token b)
  | bound + 1, .use mode token b => settle bound (mode.rule token b)

/-- Consumes a token. Whenever a token is considered afresh an element is closed or the mode goes on
to a later one, so the open elements bound the number of rules. -/
def consume (b : Builder) (token : Token) : Builder :=
  let skip := b.skipNewline
  let b := { b with skipNewline := false }
  if skip && token = .character '\n' then b
  else settle (64 + 8 * b.stack.length) (.again token b)

end Builder

/-- The name of the start tag that was read last. -/
def lastStartTag (before : String) (tokens : List Token) : String :=
  tokens.foldl (fun last token =>
    match token with
    | .startTag tag => tag.name
    | _ => last) before

/-- Reads a text to its end. Each step takes something from the text. -/
def build (b : Builder) (mode : TextMode) (last : String) (s : List Char) : Builder :=
  match s with
  | [] => b.consume .endOfText
  | c :: rest =>
    let (tokens, mode, after) := lex mode last (currentIsForeign b) c rest
    let b := tokens.foldl Builder.consume { b with textMode := none }
    if after.length ≤ rest.length then
      build b (b.textMode.getD mode) (lastStartTag last tokens) after
    else b
termination_by s.length

/-- A text without the mark of its byte order. -/
def skipByteOrderMark : List Char → List Char
  | c :: s => if c.toNat = 0xFEFF then s else c :: s
  | [] => []

/-- The draft of a document. -/
def draft (scripting : Bool) (markup : String) : Draft :=
  (build { scripting } .data "" (normalizeNewlines (skipByteOrderMark markup.toList))).draft

/-- The content of the document that a text spells. -/
def parseDocument (scripting : Bool) (markup : String) : List Content :=
  (draft scripting markup).contents 0

mutual

/-- The content of the first element with a tag, in document order. -/
def Content.find? (tag : String) : Content → Option (List Content)
  | .element name _ children => if name = tag then some children else findAmong? tag children
  | _ => none

/-- The content of the first element with a tag among these and what is below them. -/
def findAmong? (tag : String) : List Content → Option (List Content)
  | [] => none
  | c :: cs => (c.find? tag).or (findAmong? tag cs)

end

/-- The content that a text spells inside the body of a document. -/
def parseFragment (scripting : Bool) (markup : String) : List Content :=
  (findAmong? "body" (parseDocument scripting ("<!DOCTYPE html><body>" ++ markup))).getD []

/-- The parser of documents and fragments. -/
def htmlParser : Parser where
  document := parseDocument
  fragment := parseFragment

end WebPage.Markup
