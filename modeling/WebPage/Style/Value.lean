import WebPage.Style.Color
import WebPage.Style.Component

/-!
# Values of style properties

The grammar of the values of the known properties. A value in the grammar of its property is written
in one form, whatever its spelling. Any other value keeps its tokens; only its numbers, colours and
strings are written in one form.

## Main definitions

* `Length`: lengths and percentages
* `Grammar`, `Grammar.write?`: the kinds of values, and their written form
* `grammar?`: the grammar of a property
* `writeTokens`: the written form of a value without grammar
* `writeValue`: the written form of a value of a property
-/

namespace WebPage.Style

/-! ## Lengths -/

/-- The units of length. -/
def lengthUnits : List String :=
  ["px", "em", "rem", "ex", "rex", "ch", "rch", "cap", "rcap", "ic", "ric", "lh", "rlh", "vw",
    "lvw", "svw", "dvw", "cqw", "vh", "lvh", "svh", "dvh", "cqh", "vi", "svi", "lvi", "dvi",
    "cqi", "vb", "svb", "lvb", "dvb", "cqb", "vmin", "svmin", "lvmin", "dvmin", "cqmin", "vmax",
    "svmax", "lvmax", "dvmax", "cqmax", "in", "cm", "mm", "q", "pt", "pc"]

/-- A length or a percentage. -/
inductive Length where
  | length (value : Decimal) (unit : String)
  | percentage (value : Decimal)
deriving DecidableEq, Repr

namespace Length

/-- The length that a component spells; a number without a unit counts pixels. -/
def ofComponent? : Component → Option Length
  | .token (.number n) => some (.length n.value "px")
  | .token (.dimension value unit) =>
    let unit := Text.lowerAscii unit
    if lengthUnits.contains unit then some (.length value unit) else none
  | .token (.percentage n) => some (.percentage n.value)
  | _ => none

/-- The written form of a length; a length of zero has no unit. -/
def write : Length → String
  | length value unit => if value.isZero then "0" else value.write ++ unit
  | percentage value => value.write ++ "%"

end Length

/-! ## Grammars -/

/-- The kinds of values that properties have. -/
inductive Grammar where
  /-- One of some words. -/
  | keyword (words : List String)
  /-- A length, or one of some words. -/
  | length (words : List String)
  /-- A number, or one of some words. -/
  | number (words : List String)
  /-- A whole number, or one of some words. -/
  | integer (words : List String)
  /-- A number or a percentage, as a number. -/
  | fraction
  | color
  /-- A length or the word `auto` for each of four sides. -/
  | sides
  /-- How a box is laid out, outside and inside. -/
  | display

/-- The word that a component is, in small letters. -/
def word? : Component → Option String
  | .token (.ident name) => some (Text.lowerAscii name)
  | _ => none

/-- The word that a component is, if it is one of these. -/
def oneOf? (words : List String) (c : Component) : Option String :=
  (word? c).filter words.contains

/-- A length, or one of some words. -/
inductive Side where
  | word (word : String)
  | length (length : Length)
deriving DecidableEq, Repr

/-- The length or the word that a component is. -/
def Side.ofComponent? (words : List String) (c : Component) : Option Side :=
  match oneOf? words c with
  | some w => some (.word w)
  | none => (Length.ofComponent? c).map .length

/-- The written form of a length or a word. -/
def Side.write : Side → String
  | .word w => w
  | .length l => l.write

/-- The values for top, right, bottom and left that one to four values mean. -/
def fourSides? : List Side → Option (Side × Side × Side × Side)
  | [a] => some (a, a, a, a)
  | [a, b] => some (a, b, a, b)
  | [a, b, c] => some (a, b, c, b)
  | [a, b, c, d] => some (a, b, c, d)
  | _ => none

/-- The fewest values that mean these four. -/
def fewestSides : Side × Side × Side × Side → List Side
  | (a, b, c, d) =>
    if b = d then
      if a = c then (if a = b then [a] else [a, b]) else [a, b, c]
    else [a, b, c, d]

/-- The nearest integer with at most 31 bits besides its sign. -/
def clamp (n : Int) : Int :=
  if n < -0x80000000 then -0x80000000 else if 0x7FFFFFFF < n then 0x7FFFFFFF else n

/-- The numbers that a component may be, as a number. -/
def fraction? : Component → Option Decimal
  | .token (.number n) => some n.value
  | .token (.percentage n) => some n.value.percent
  | _ => none

/-- The colour that a component spells. -/
def color? : Component → Option Color
  | .token (.ident name) => Color.ofName? name
  | .token (.hash digits) => Color.ofHex? digits.toList
  | _ => none

/-- The layouts that are one word and nothing else. -/
def boxes : List String :=
  ["none", "contents", "table-row-group", "table-header-group", "table-footer-group", "table-row",
    "table-cell", "table-column-group", "table-column", "table-caption", "ruby-base", "ruby-text",
    "ruby-base-container", "ruby-text-container"]

/-- The layouts inside that have one word for an inline box around them. -/
def inlineLayouts : List (String × String) :=
  [("inline-block", "flow-root"), ("inline-table", "table"), ("inline-flex", "flex"),
    ("inline-grid", "grid")]

/-- The layout that words mean: how the box stands outside, how it is laid out inside, and whether
it is an item of a list. -/
def layout? (words : List String) : Option (String × String × Bool) :=
  let outer := words.filter ["block", "inline", "run-in"].contains
  let inner := words.filter ["flow", "flow-root", "table", "flex", "grid", "ruby"].contains
  let items := words.filter (· == "list-item")
  if outer.length + inner.length + items.length ≠ words.length then
    match words with
    | [word] => (inlineLayouts.lookup word).map fun inner => ("inline", inner, false)
    | _ => none
  else
    match outer, inner, items with
    | [], [], [] => none
    | [outer], [], [] => some (outer, "flow", false)
    | [], [inner], [] => some (if inner = "ruby" then "inline" else "block", inner, false)
    | [outer], [inner], [] => some (outer, inner, false)
    | [], [], [_] => some ("block", "flow", true)
    | [outer], [], [_] => some (outer, "flow", true)
    | [], [inner], [_] =>
      if inner = "flow" || inner = "flow-root" then some ("block", inner, true) else none
    | [outer], [inner], [_] =>
      if inner = "flow" || inner = "flow-root" then some (outer, inner, true) else none
    | _, _, _ => none

/-- The shortest words for a layout. -/
def writeLayout : String × String × Bool → String
  | (outer, inner, item) =>
    if item then
      " ".intercalate ((if outer = "block" then [] else [outer]) ++
        (if inner = "flow" then [] else [inner]) ++ ["list-item"])
    else
      match inlineLayouts.find? fun entry => outer == "inline" && entry.2 == inner with
      | some (word, _) => word
      | none =>
        if inner = "flow" then outer
        else if outer = (if inner = "ruby" then "inline" else "block") then inner
        else outer ++ " " ++ inner

/-- The written form of a layout. -/
def display? (cs : List Component) : Option String := do
  let words ← cs.mapM word?
  match words with
  | [word] => if boxes.contains word then some word else (layout? words).map writeLayout
  | _ => (layout? words).map writeLayout

/-- The written form of a value in a grammar, and nothing if it is not in it. -/
def Grammar.write? (g : Grammar) (value : List Component) : Option String :=
  let cs := value.filter fun c => !c.isBlank
  match g, cs with
  | .keyword words, [c] => oneOf? words c
  | .length words, [c] => (Side.ofComponent? words c).map Side.write
  | .number words, [c] =>
    match c with
    | .token (.number n) => some n.value.write
    | _ => oneOf? words c
  | .integer words, [c] =>
    match c with
    | .token (.number n) => if n.whole then some (toString (clamp n.value.toInt)) else none
    | _ => oneOf? words c
  | .fraction, [c] => (fraction? c).map Decimal.write
  | .color, [c] => (color? c).map Color.write
  | .sides, cs => do
    let sides ← cs.mapM (Side.ofComponent? ["auto"])
    let four ← fourSides? sides
    some (" ".intercalate ((fewestSides four).map Side.write))
  | .display, cs => display? cs
  | _, _ => none

/-! ## Properties -/

/-- The words for sizes that depend on the contents of a box or on the box around. -/
def sizeWords : List String :=
  ["min-content", "max-content", "fit-content", "stretch", "contain", "-webkit-min-content",
    "-webkit-max-content", "-webkit-fit-content", "-webkit-fill-available", "-moz-min-content",
    "-moz-max-content", "-moz-fit-content", "-moz-available"]

/-- The words for shapes of the pointer. -/
def cursorWords : List String :=
  ["auto", "default", "none", "context-menu", "help", "pointer", "progress", "wait", "cell",
    "crosshair", "text", "vertical-text", "alias", "copy", "move", "no-drop", "not-allowed", "grab",
    "grabbing", "e-resize", "n-resize", "ne-resize", "nw-resize", "s-resize", "se-resize",
    "sw-resize", "w-resize", "ew-resize", "ns-resize", "nesw-resize", "nwse-resize", "col-resize",
    "row-resize", "all-scroll", "zoom-in", "zoom-out"]

/-- The grammar of a property, by its name in small letters. -/
def grammar? : String → Option Grammar
  | "display" => some .display
  | "color" | "background-color" => some .color
  | "width" | "height" | "min-width" | "min-height" => some (.length ("auto" :: sizeWords))
  | "max-width" | "max-height" => some (.length ("none" :: sizeWords))
  | "top" | "right" | "bottom" | "left" | "margin-top" | "margin-right" | "margin-bottom"
  | "margin-left" | "padding-top" | "padding-right" | "padding-bottom" | "padding-left" =>
    some (.length ["auto"])
  | "margin" | "padding" => some .sides
  | "opacity" => some .fraction
  | "z-index" => some (.integer ["auto"])
  | "font-size" =>
    some (.length ["xx-small", "x-small", "small", "medium", "large", "x-large", "xx-large",
      "xxx-large", "smaller", "larger"])
  | "font-weight" => some (.number ["normal", "bold", "bolder", "lighter"])
  | "text-align" =>
    some (.keyword ["start", "end", "left", "right", "center", "justify", "match-parent",
      "justify-all"])
  | "visibility" => some (.keyword ["visible", "hidden", "collapse"])
  | "position" =>
    some (.keyword ["static", "relative", "absolute", "sticky", "-webkit-sticky", "fixed"])
  | "cursor" => some (.keyword cursorWords)
  | _ => none

/-! ## Values without grammar -/

mutual

/-- The written form of a component of a value without grammar. -/
def writeComponent : Component → String
  | .token (.hash digits) =>
    match Color.ofHex? digits.toList with
    | some color => color.write
    | none => (Token.hash digits).write
  | .token (.dimension value unit) =>
    let small := Text.lowerAscii unit
    value.write ++ (if lengthUnits.contains small then small else writeIdentifier unit)
  | .token t => t.write
  | .function name arguments =>
    writeIdentifier name ++ "(" ++ Text.trim (writeTokens arguments) ++ ")"
  | .bracket b contents =>
    b.opening.toString ++ writeTokens contents ++ b.closing.toString

/-- The written form of a value without grammar: its tokens with their blanks. -/
def writeTokens : List Component → String
  | [] => ""
  | c :: cs => writeComponent c ++ writeTokens cs

end

/-- The written form of a value of a property: by its grammar if it has one that the value is in,
else token by token. A value with a spoiled component has none. -/
def writeValue? (property : String) (value : List Component) : Option String :=
  match (grammar? (Text.lowerAscii property)).bind fun g => g.write? value with
  | some text => some text
  | none => if Component.areProper value then some (writeTokens value) else none

end WebPage.Style
