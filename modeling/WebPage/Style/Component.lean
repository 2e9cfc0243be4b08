import WebPage.Style.Token

/-!
# Components of styles

The tokens of a style are put together to components: a function or a bracket holds what stands
between its opening and its closing. What is still open at the end is closed there.

## Main definitions

* `Component`: a token, a function or a bracket
* `Component.ofTokens`: the components of tokens
* `Component.isProper`: whether nothing in it is spoiled or closes what is not open
-/

namespace WebPage.Style

/-- A token with all that it encloses. -/
inductive Component where
  | token (token : Token)
  | function (name : String) (arguments : List Component)
  | bracket (bracket : Bracket) (contents : List Component)
deriving Repr

namespace Component

/-- What an enclosure was opened by. -/
inductive Opener where
  | function (name : String)
  | bracket (bracket : Bracket)

/-- The bracket that closes an enclosure. -/
def Opener.closing : Opener → Bracket
  | function _ => .round
  | bracket b => b

/-- The component that an opener makes with its contents. -/
def Opener.close (contents : List Component) : Opener → Component
  | function name => .function name contents
  | bracket b => .bracket b contents

/-- Enclosures that are open, the innermost first, each with the components read in it so far, the
last one first. -/
abbrev Open := List (Opener × List Component)

/-- Puts a component into the innermost enclosure, or into `outside` if none is open. -/
def put (c : Component) (outside : List Component) : Open → List Component × Open
  | [] => (c :: outside, [])
  | (opener, inside) :: rest => (outside, (opener, c :: inside) :: rest)

/-- Closes all enclosures, where `inner` is what closed in the innermost of them. -/
def closeAll (outside : List Component) (inner : Option Component) : Open → List Component
  | [] => (inner.toList ++ outside).reverse
  | (opener, inside) :: rest =>
    closeAll outside (some (opener.close (inner.toList ++ inside).reverse)) rest

/-- Puts tokens together, where `outside` and `stack` hold what was read before them. -/
def assemble (outside : List Component) (stack : Open) : List Token → List Component
  | [] => closeAll outside none stack
  | .function name :: tokens => assemble outside ((.function name, []) :: stack) tokens
  | .opening b :: tokens => assemble outside ((.bracket b, []) :: stack) tokens
  | .closing b :: tokens =>
    match stack with
    | (opener, inside) :: rest =>
      if opener.closing = b then
        let (outside, stack) := put (opener.close inside.reverse) outside rest
        assemble outside stack tokens
      else
        let (outside, stack) := put (.token (.closing b)) outside stack
        assemble outside stack tokens
    | [] => assemble (.token (.closing b) :: outside) [] tokens
  | t :: tokens =>
    let (outside, stack) := put (.token t) outside stack
    assemble outside stack tokens

/-- The components of tokens. -/
def ofTokens (tokens : List Token) : List Component :=
  assemble [] [] tokens

/-- The components of a text. -/
def readAll (s : String) : List Component :=
  ofTokens (Token.readAll s.toList)

/-- Whether a component is a blank. -/
def isBlank : Component → Bool
  | .token (.blank _) => true
  | _ => false

/-- Whether a component is this character. -/
def isDelim (c : Char) : Component → Bool
  | .token (.delim d) => c == d
  | _ => false

/-- Whether a token is sound on its own. -/
def properToken : Token → Bool
  | .badString | .badUrl | .closing _ => false
  | _ => true

mutual

/-- Whether nothing in a component is spoiled, or closes what is not open. -/
def isProper : Component → Bool
  | .token t => properToken t
  | .function _ arguments => areProper arguments
  | .bracket _ contents => areProper contents

/-- Whether nothing in a list of components is spoiled, or closes what is not open. -/
def areProper : List Component → Bool
  | [] => true
  | c :: cs => c.isProper && areProper cs

end

/-- A list of components without the blanks at its two ends. -/
def trim (cs : List Component) : List Component :=
  ((cs.dropWhile isBlank).reverse.dropWhile isBlank).reverse

end Component

end WebPage.Style
