import WebPage.Form.Value
import WebPage.Style.Inline
import WebPage.Verb

/-!
# Verbs on attributes, classes, styles and values

What reads an inline style takes a reader. The verbs of a page take the reader of style sheets.

## Main definitions

* `Page.getAttribute`, `Page.setAttribute`, …: attributes
* `Page.addClass`, `Page.toggleClass`, …: classes
* `Page.getStyleWith`, `Page.setStyleWith`, …: inline styles, with any reader
* `Page.getStyle`, `Page.setStyle`, …: inline styles
* `Page.getValue`, `Page.setChecked`, …: form controls
* `Page.show`, `Page.hide`, `Page.showIf`, …: visibility
-/

namespace WebPage.Page

open Style (Reader cssReader)

/-! ## Attributes -/

/-- The value of an attribute of the first node. -/
def getAttribute (p : Page) (target : Target) (name : String) : Except VerbError (Option String) :=
  p.readFirst target fun t r => t.attribute? r name

/-- Writes an attribute of every node; without a value it is empty. -/
def setAttribute (target : Target) (name : String) (value : Option String) : Verb Unit :=
  editTreeAll target fun t r => t.setAttribute r name (value.getD "")

/-- Whether the first node has an attribute. -/
def hasAttribute (p : Page) (target : Target) (name : String) : Except VerbError Bool :=
  p.readFirst target fun t r => t.hasAttribute r name

/-- Takes an attribute out of every node. -/
def removeAttribute (target : Target) (name : String) : Verb Unit :=
  editTreeAll target fun t r => t.removeAttribute r name

/-- Flips or forces the presence of an attribute of every node. -/
def toggleAttribute (target : Target) (name : String) (force : Option Bool) : Verb Unit :=
  editTreeAll target fun t r => return (← t.toggleAttribute r name force).2

/-! ## Classes -/

/-- Adds the words of a text to the classes of every node. -/
def addClass (target : Target) (names : String) : Verb Unit :=
  editTreeAll target fun t r => t.addClasses r (Text.words names)

/-- Removes the words of a text from the classes of every node. -/
def removeClass (target : Target) (names : String) : Verb Unit :=
  editTreeAll target fun t r => t.removeClasses r (Text.words names)

/-- Flips or forces each word of a text in the classes of every node. -/
def toggleClass (target : Target) (names : String) (force : Option Bool) : Verb Unit :=
  forAll target fun id => (Text.words names).forM fun name =>
    Verb.editTree fun t => return (← t.toggleClass (some id) name force).2

/-- Whether the first node has a class. -/
def hasClass (p : Page) (target : Target) (name : String) : Except VerbError Bool :=
  p.readFirst target fun t r => t.hasClass r name

/-- The class attribute of the first node, empty if it has none. -/
def getClassName (p : Page) (target : Target) : Except VerbError String :=
  p.readFirst target fun t r => return (← t.attribute? r "class").getD ""

/-- Writes the class attribute of every node. -/
def setClassName (target : Target) (value : String) : Verb Unit :=
  editTreeAll target fun t r => t.setAttribute r "class" value

/-! ## Styles -/

/-- The value of a style property of the first node. -/
def getStyleWith (reader : Reader) (p : Page) (target : Target) (name : String) :
    Except VerbError String :=
  p.readFirst target fun t r => t.stylePropertyWith reader r name

/-- Declares a style property of every node. -/
def setStylePropertyWith (reader : Reader) (target : Target) (name value : String)
    (important : Bool) : Verb Unit :=
  editTreeAll target fun t r =>
    return (← t.setStylePropertyWith reader r name value important).2

/-- Declares a style property of every node, without priority. -/
def setStyleWith (reader : Reader) (target : Target) (name value : String) : Verb Unit :=
  setStylePropertyWith reader target name value false

/-- Takes a style property out of every node. -/
def removeStylePropertyWith (reader : Reader) (target : Target) (name : String) : Verb Unit :=
  editTreeAll target fun t r => return (← t.removeStylePropertyWith reader r name).2

/-! ## Styles, with the reader of style sheets -/

def getStyle (p : Page) (target : Target) (name : String) : Except VerbError String :=
  getStyleWith cssReader p target name

def setStyleProperty (target : Target) (name value : String) (important : Bool) : Verb Unit :=
  setStylePropertyWith cssReader target name value important

def setStyle (target : Target) (name value : String) : Verb Unit :=
  setStyleWith cssReader target name value

def removeStyleProperty (target : Target) (name : String) : Verb Unit :=
  removeStylePropertyWith cssReader target name

/-! ## Form controls -/

/-- The value of the first node. -/
def getValue (p : Page) (target : Target) : Except VerbError String :=
  p.readFirst target Tree.value

/-- Writes the value of every node. -/
def setValue (target : Target) (value : String) : Verb Unit :=
  editTreeAll target fun t r => t.setValue r value

/-- Whether the first node is checked or selected. -/
def getChecked (p : Page) (target : Target) : Except VerbError Bool :=
  p.readFirst target Tree.checked

/-- Checks or unchecks every node. -/
def setChecked (target : Target) (checked : Bool) : Verb Unit :=
  editTreeAll target fun t r => t.setChecked r checked

/-- Checks every node that is not checked, and unchecks the others, one after the other. -/
def toggleChecked (target : Target) : Verb Unit :=
  editTreeAll target fun t r => do t.setChecked r (!(← t.checked r))

/-! ## Visibility -/

/-- Marks every node as hidden, or takes the mark away, or flips it. -/
def setHidden (target : Target) (hidden : Option Bool) : Verb Unit := do
  let name := (← get).config.hiddenAttribute
  toggleAttribute target name hidden

/-- Takes the hidden mark from every node. -/
def «show» (target : Target) : Verb Unit :=
  setHidden target (some false)

/-- Marks every node as hidden. -/
def hide (target : Target) : Verb Unit :=
  setHidden target (some true)

/-- Flips the hidden mark of every node. -/
def toggle (target : Target) : Verb Unit :=
  setHidden target none

/-- Whether the first node is not marked as hidden. -/
def isVisible (p : Page) (target : Target) : Except VerbError Bool :=
  p.readFirst target fun t r => return !(← t.hasAttribute r p.config.hiddenAttribute)

/-- Shows the target if a condition holds and hides it if not; a placeholder does the opposite. -/
def showIf (target : Target) (condition : Bool) (placeholder : Option Target) : Verb Unit := do
  setHidden target (some !condition)
  match placeholder with
  | some other => setHidden other (some condition)
  | none => pure ()

/-- Hides the target if a condition holds and shows it if not; a placeholder does the opposite. -/
def hideIf (target : Target) (condition : Bool) (placeholder : Option Target) : Verb Unit :=
  showIf target (!condition) placeholder

end WebPage.Page
