import WebPage.Style.Attribute
import WebPage.Style.PropertyName
import WebPage.Tree.Elements

/-!
# Inline styles of elements

The inline style of an element is its attribute `style`. It is read from the attribute for every
operation and written back after a change. How declarations are read is up to a reader; the pages
here use the reader of style sheets.

## Main definitions

* `Tree.styleWith`, `Tree.stylePropertyWith`: reading
* `Tree.setStylePropertyWith`, `Tree.removeStylePropertyWith`: writing
* `Tree.style`, `Tree.styleProperty`, `Tree.setStyleProperty`, `Tree.removeStyleProperty`: the same
  with the reader of style sheets
-/

namespace WebPage.Tree

open Style (Declarations Reader cssReader)

/-- The inline style of an element. -/
def styleWith (t : Tree) (reader : Reader) (r : NodeRef) : Except DomError Declarations := do
  match (← t.element r).attributes.get? "style" with
  | some css => pure (.parseWith reader css)
  | none => pure {}

/-- Writes an inline style. An element without the attribute does not get one for an empty style. -/
def writeStyle (t : Tree) (r : NodeRef) (style : Declarations) : Except DomError Tree :=
  t.modifyElement r fun e =>
    if e.attributes.contains "style" || !style.isEmpty then e.setAttribute "style" style.cssText
    else e

/-- The value of a property, whatever the spelling of its name; empty if it has none. -/
def stylePropertyWith (t : Tree) (reader : Reader) (r : NodeRef) (name : String) :
    Except DomError String := do
  let name ← Style.normalizeProperty name
  return (← t.styleWith reader r).get name

/-- Declares a property, and gives whether that was done: a value that is no value of the property
changes nothing. A value of blanks takes the property out. -/
def setStylePropertyWith (t : Tree) (reader : Reader) (r : NodeRef) (name value : String)
    (important : Bool) : Except DomError (Bool × Tree) := do
  let name ← Style.normalizeProperty name
  let style ← t.styleWith reader r
  if (Text.trim value).isEmpty then
    return (true, ← t.writeStyle r (style.erase name))
  match Style.parseDeclarationWith reader name value important with
  | none => return (false, t)
  | some d => return (true, ← t.writeStyle r (style.set d.name d.value d.important))

/-- Takes a property out, and gives its value if it had one. -/
def removeStylePropertyWith (t : Tree) (reader : Reader) (r : NodeRef) (name : String) :
    Except DomError (Option String × Tree) := do
  let name ← Style.normalizeProperty name
  let style ← t.styleWith reader r
  let (old, style) := style.remove name
  if old.isSome then return (old, ← t.writeStyle r style)
  return (none, t)

/-! ## With the reader of style sheets -/

def style (t : Tree) (r : NodeRef) : Except DomError Declarations :=
  t.styleWith cssReader r

def styleProperty (t : Tree) (r : NodeRef) (name : String) : Except DomError String :=
  t.stylePropertyWith cssReader r name

def setStyleProperty (t : Tree) (r : NodeRef) (name value : String) (important : Bool) :
    Except DomError (Bool × Tree) :=
  t.setStylePropertyWith cssReader r name value important

def removeStyleProperty (t : Tree) (r : NodeRef) (name : String) :
    Except DomError (Option String × Tree) :=
  t.removeStylePropertyWith cssReader r name

end WebPage.Tree
