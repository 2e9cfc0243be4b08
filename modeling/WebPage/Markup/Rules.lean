import WebPage.Markup.Formatting

/-!
# Rules of construction

For each insertion mode there are rules that say what a token does. A rule completes the token,
hands it to the rules of another mode, or changes the mode and has the token considered afresh.

## Main definitions

* `Step`: what a rule does
* `Token.isBlank`, `Token.isEndTagOf`: tests of tokens
-/

namespace WebPage.Markup

/-- What a rule does with a token. -/
inductive Step where
  /-- The token is complete. -/
  | done (b : Builder)
  /-- The token is considered afresh, in the mode of the builder. -/
  | again (token : Token) (b : Builder)
  /-- The rules of another mode say what to do. -/
  | use (mode : Mode) (token : Token) (b : Builder)

/-- Considers a token afresh in a mode. -/
def Step.switch (mode : Mode) (token : Token) (b : Builder) : Step :=
  .again token { b with mode }

/-- Whether a token is a blank character. -/
def Token.isBlank : Token → Bool
  | .character c => isHtmlBlank c
  | _ => false
where
  /-- Tab, line feed, form feed, carriage return and space. -/
  isHtmlBlank (c : Char) : Bool :=
    c = '\t' || c = '\n' || c = '\x0c' || c = '\r' || c = ' '

/-- Whether a token is the start tag of one of these. -/
def Token.isStartTagOf (names : List String) : Token → Bool
  | .startTag tag => names.contains tag.name
  | _ => false

/-- Whether a token is the end tag of one of these. -/
def Token.isEndTagOf (names : List String) : Token → Bool
  | .endTag name => names.contains name
  | _ => false

/-- Whether a token is an end tag. -/
def Token.isEndTag : Token → Bool
  | .endTag _ => true
  | _ => false

end WebPage.Markup
