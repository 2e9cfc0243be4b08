import WebPage.Markup.Reference
import WebPage.Markup.Token

/-!
# Reading tokens of markup

Any text can be read as markup; what is not written as it should be is read in some way all the
same.

## Main definitions

* `normalizeNewlines`: line ends in one form
* `attributes?`, `tag?`: the inside of a tag
* `readComment`, `readDoctype`: declarations
* `lex`: the tokens at the front of a text
-/

namespace WebPage.Markup

/-- A text with line feeds for all its line ends. -/
def normalizeNewlines : List Char → List Char
  | '\r' :: '\n' :: s => '\n' :: normalizeNewlines s
  | '\r' :: s => '\n' :: normalizeNewlines s
  | c :: s => c :: normalizeNewlines s
  | [] => []

/-- The blanks between the parts of a tag. -/
def isTagBlank (c : Char) : Bool :=
  c = ' ' || c = '\t' || c = '\n' || c = '\x0c'

/-- A character with the replacement for the null character. -/
def replaceNull (c : Char) : Char :=
  if c.toNat = 0 then replacementChar else c

/-- A text without the tag blanks at its front. -/
def skipTagBlanks (s : List Char) : List Char :=
  s.dropWhile isTagBlank

/-! ## Tags -/

/-- The characters of an attribute value up to `stop`, with references; also the rest from there. -/
def attributeValue (stop : Char → Bool) (s : List Char) : List Char × List Char :=
  match s with
  | [] => ([], [])
  | c :: rest =>
    if stop c then ([], c :: rest)
    else if c = '&' then
      let (chars, after) := reference true rest
      if after.length ≤ rest.length then
        let (more, last) := attributeValue stop after
        (chars ++ more, last)
      else ([], [])
    else
      let (more, last) := attributeValue stop rest
      (replaceNull c :: more, last)
termination_by s.length

/-- The name of an attribute: it may start with an equals sign, and ends at one, at a blank, a slash
or an angle bracket. -/
def attributeName (s : List Char) : List Char × List Char :=
  let ends (c : Char) : Bool := isTagBlank c || c = '/' || c = '>' || c = '='
  match s with
  | [] => ([], [])
  | c :: rest =>
    ((c :: rest.takeWhile fun c => !ends c).map fun c => (replaceNull c).toLower,
      rest.dropWhile fun c => !ends c)

/-- The value of an attribute after its name, empty if it has none. -/
def attributeAssignment (s : List Char) : List Char × List Char :=
  match skipTagBlanks s with
  | '=' :: rest =>
    match skipTagBlanks rest with
    | '"' :: rest =>
      let (value, after) := attributeValue (· = '"') rest
      (value, after.drop 1)
    | '\'' :: rest =>
      let (value, after) := attributeValue (· = '\'') rest
      (value, after.drop 1)
    | rest => attributeValue (fun c => isTagBlank c || c = '>') rest
  | rest => ([], rest)

/-- The attributes of a tag after its name, whether it closes itself, and what follows the tag.
There is no tag if the text ends inside it. -/
def attributes? (s : List Char) (found : List (String × String)) :
    Option (List (String × String) × Bool × List Char) :=
  match s with
  | [] => none
  | c :: rest =>
    if isTagBlank c then attributes? rest found
    else if c = '>' then some (found.reverse, false, rest)
    else if c = '/' then
      if rest.head? = some '>' then some (found.reverse, true, rest.drop 1)
      else attributes? rest found
    else
      let (name, afterName) := attributeName (c :: rest)
      let (value, after) := attributeAssignment afterName
      let name := String.ofList name
      if after.length ≤ rest.length then
        attributes? after (if found.any fun entry => entry.1 == name then found
          else (name, String.ofList value) :: found)
      else none
termination_by s.length

/-- A tag from its name on, and what follows it. -/
def tag? (s : List Char) : Option (Tag × List Char) :=
  let ends (c : Char) : Bool := isTagBlank c || c = '/' || c = '>'
  let name := (s.takeWhile fun c => !ends c).map fun c => (replaceNull c).toLower
  match attributes? (s.dropWhile fun c => !ends c) [] with
  | some (attributes, selfClosing, rest) =>
    some (⟨String.ofList name, attributes, selfClosing⟩, rest)
  | none => none

/-! ## Declarations -/

/-- The place in a comment with respect to its end. -/
inductive CommentPlace where
  | start
  | startHyphen
  | inside
  | hyphen
  | twoHyphens
  | bang
deriving DecidableEq

/-- Goes on inside a comment with `c`, after `before` turned out to belong to it. -/
def commentInside (before : List Char) (c : Char) : CommentPlace × List Char :=
  if c = '-' then (.hyphen, before) else (.inside, before ++ [replaceNull c])

/-- Where a comment is after one more character, and what that adds to it; nothing if the character
ends the comment. -/
def commentStep (place : CommentPlace) (c : Char) : Option (CommentPlace × List Char) :=
  match place with
  | .start =>
    if c = '>' then none else if c = '-' then some (.startHyphen, []) else some (commentInside [] c)
  | .startHyphen =>
    if c = '>' then none else if c = '-' then some (.twoHyphens, [])
    else some (commentInside ['-'] c)
  | .inside => some (commentInside [] c)
  | .hyphen => if c = '-' then some (.twoHyphens, []) else some (commentInside ['-'] c)
  | .twoHyphens =>
    if c = '>' then none
    else if c = '!' then some (.bang, [])
    else if c = '-' then some (.twoHyphens, ['-'])
    else some (commentInside ['-', '-'] c)
  | .bang =>
    if c = '>' then none
    else if c = '-' then some (.hyphen, ['-', '-', '!'])
    else some (commentInside ['-', '-', '!'] c)

/-- The text of a comment after its opening, and what follows it. -/
def readComment (place : CommentPlace) : List Char → List Char × List Char
  | [] => ([], [])
  | c :: rest =>
    match commentStep place c with
    | none => ([], rest)
    | some (place, added) =>
      let (more, after) := readComment place rest
      (added ++ more, after)

/-- A comment that is not written as one: all up to an angle bracket. -/
def readBogusComment (s : List Char) : Token × List Char :=
  (.comment (String.ofList ((s.takeWhile (· ≠ '>')).map replaceNull)),
    (s.dropWhile (· ≠ '>')).drop 1)

/-- Whether a text starts with a word, in whatever case. -/
def startsWithWord (word : String) (s : List Char) : Bool :=
  (s.take word.length).map Char.toLower = word.toList

/-- Closes a document type at the next angle bracket. -/
def closeDoctype (d : Doctype) (s : List Char) : Doctype × List Char :=
  (d, (s.dropWhile (· ≠ '>')).drop 1)

/-- An identifier in quotes, whether its closing quote is there, and the rest. -/
def doctypeIdentifier (quote : Char) (s : List Char) : String × Bool × List Char :=
  let inside (c : Char) : Bool := c ≠ quote && c ≠ '>'
  let rest := s.dropWhile inside
  (String.ofList ((s.takeWhile inside).map replaceNull), rest.head? == some quote,
    if rest.head? == some quote then rest.drop 1 else rest)

/-- The system identifier of a document type and its end. -/
def doctypeSystem (d : Doctype) (required : Bool) (s : List Char) : Doctype × List Char :=
  match skipTagBlanks s with
  | [] => ({ d with broken := true }, [])
  | c :: rest =>
    if c = '"' || c = '\'' then
      let (text, closed, rest) := doctypeIdentifier c rest
      let d := { d with systemId := some text }
      if closed && !(skipTagBlanks rest).isEmpty then closeDoctype d rest
      else closeDoctype { d with broken := true } rest
    else if c = '>' then ({ d with broken := d.broken || required }, rest)
    else closeDoctype { d with broken := true } rest

/-- The public identifier of a document type and what follows it. -/
def doctypePublic (d : Doctype) (s : List Char) : Doctype × List Char :=
  match skipTagBlanks s with
  | [] => ({ d with broken := true }, [])
  | c :: rest =>
    if c = '"' || c = '\'' then
      let (text, closed, rest) := doctypeIdentifier c rest
      let d := { d with publicId := some text }
      if closed then doctypeSystem d false rest else closeDoctype { d with broken := true } rest
    else closeDoctype { d with broken := true } (c :: rest)

/-- A document type after its keyword, and what follows it. -/
def readDoctype (s : List Char) : Doctype × List Char :=
  let s := skipTagBlanks s
  let ends (c : Char) : Bool := isTagBlank c || c = '>'
  let name := (s.takeWhile fun c => !ends c).map fun c => (replaceNull c).toLower
  let d : Doctype := { name := String.ofList name, broken := name.isEmpty }
  match skipTagBlanks (s.dropWhile fun c => !ends c) with
  | [] => ({ d with broken := true }, [])
  | '>' :: rest => (d, rest)
  | rest =>
    if startsWithWord "public" rest then doctypePublic d (rest.drop 6)
    else if startsWithWord "system" rest then doctypeSystem d true (rest.drop 6)
    else closeDoctype { d with broken := true } rest

/-- The characters of a section of raw text after its opening, and what follows it. -/
def readSection : List Char → List Char × List Char
  | [] => ([], [])
  | ']' :: ']' :: '>' :: rest => ([], rest)
  | c :: rest =>
    let (more, after) := readSection rest
    (c :: more, after)

/-- What follows `<!`. Sections of raw text are read in foreign elements only. -/
def readDeclaration (foreign : Bool) (s : List Char) : List Token × List Char :=
  match s with
  | '-' :: '-' :: rest =>
    let (text, after) := readComment .start rest
    ([.comment (String.ofList text)], after)
  | _ =>
    if startsWithWord "doctype" s then
      let (d, rest) := readDoctype (s.drop 7)
      ([.doctype d], rest)
    else if foreign && s.take 7 = "[CDATA[".toList then
      let (text, rest) := readSection (s.drop 7)
      (text.map .character, rest)
    else
      let (comment, rest) := readBogusComment s
      ([comment], rest)

/-! ## Text -/

/-- Whether the end tag of an element stands at the front of a text, after its slash. -/
def closes (name : String) (s : List Char) : Bool :=
  startsWithWord name s &&
    (s.drop name.length).head?.any fun c => isTagBlank c || c = '/' || c = '>'

/-- The token of a tag that may be cut off by the end of the text. -/
def endTagTokens (s : List Char) : List Token × List Char :=
  match tag? s with
  | some (tag, rest) => ([.endTag tag.name], rest)
  | none => ([], [])

/-- What follows an opening angle bracket where tags are read. -/
def lexTag (foreign : Bool) (s : List Char) : List Token × List Char :=
  match s with
  | '!' :: rest => readDeclaration foreign rest
  | '?' :: _ =>
    let (comment, rest) := readBogusComment s
    ([comment], rest)
  | '/' :: c :: rest =>
    if c.isAlpha then endTagTokens (c :: rest)
    else if c = '>' then ([], rest)
    else
      let (comment, rest) := readBogusComment (c :: rest)
      ([comment], rest)
  | c :: _ =>
    if c.isAlpha then
      match tag? s with
      | some (tag, rest) => ([.startTag tag], rest)
      | none => ([], [])
    else ([.character '<'], s)
  | [] => ([.character '<'], s)

/-- The next token of a script: an end tag, or characters that may lead in or out of what looks like
a comment. -/
def lexScript (depth : ScriptDepth) (c : Char) (s : List Char) :
    List Token × TextMode × List Char :=
  let text (chars : List Char) (depth : ScriptDepth) (rest : List Char) :
      List Token × TextMode × List Char := (chars.map .character, .script depth, rest)
  let closing (depth : ScriptDepth) : List Token × TextMode × List Char :=
    if c = '<' && s.head? = some '/' && closes "script" (s.drop 1) then
      let (tokens, rest) := endTagTokens (s.drop 1)
      (tokens, .data, rest)
    else text [replaceNull c] depth s
  match depth with
  | .plain =>
    if c = '<' && s.take 3 = ['!', '-', '-'] then text ['<', '!', '-', '-'] (.escaped 2) (s.drop 3)
    else closing .plain
  | .escaped hyphens =>
    if c = '-' then text ['-'] (.escaped (hyphens + 1)) s
    else if c = '>' && 2 ≤ hyphens then text ['>'] .plain s
    else if c = '<' && closes "script" s then
      text ('<' :: s.take 7) (.doubleEscaped 0) (s.drop 7)
    else closing (.escaped 0)
  | .doubleEscaped hyphens =>
    if c = '-' then text ['-'] (.doubleEscaped (hyphens + 1)) s
    else if c = '>' && 2 ≤ hyphens then text ['>'] .plain s
    else if c = '<' && s.head? = some '/' && closes "script" (s.drop 1) then
      text ('<' :: s.take 8) (.escaped 0) (s.drop 8)
    else text [replaceNull c] (.doubleEscaped 0) s

/-- The tokens at the front of the text `c :: s`, how text is read after them, and the rest. The
element that was opened last is `last`; it is the one that ends raw text. -/
def lex (mode : TextMode) (last : String) (foreign : Bool) (c : Char) (s : List Char) :
    List Token × TextMode × List Char :=
  let isEnd := c = '<' && s.head? = some '/' && closes last (s.drop 1)
  match mode with
  | .plain => ([.character (replaceNull c)], .plain, s)
  | .script depth => lexScript depth c s
  | .raw =>
    if isEnd then
      let (tokens, rest) := endTagTokens (s.drop 1)
      (tokens, .data, rest)
    else ([.character (replaceNull c)], .raw, s)
  | .escapableRaw =>
    if isEnd then
      let (tokens, rest) := endTagTokens (s.drop 1)
      (tokens, .data, rest)
    else if c = '&' then
      let (chars, rest) := reference false s
      (chars.map .character, .escapableRaw, rest)
    else ([.character (replaceNull c)], .escapableRaw, s)
  | .data =>
    if c = '<' then
      let (tokens, rest) := lexTag foreign s
      (tokens, .data, rest)
    else if c = '&' then
      let (chars, rest) := reference false s
      (chars.map .character, .data, rest)
    else ([.character c], .data, s)

end WebPage.Markup
