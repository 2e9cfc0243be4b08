import WebPage.Attributes
import WebPage.ClassTokens
import WebPage.Event.Listeners
import WebPage.Form.InputType

/-!
# Elements

What an element holds besides its place in the tree.

## Main definitions

* `FormState`: what was written to a form control
* `Element`: tag, attributes, form state and listeners
* `Element.hasClass`, `Element.inputType?`, `Element.isFormControl`, `Element.isDisabled`: readings
-/

namespace WebPage

/-- What was written to a form control; a control that nobody wrote to shows its attributes. -/
structure FormState where
  value : Option String := none
  /-- For an option, whether it is selected. -/
  checked : Option Bool := none
deriving DecidableEq, Repr, Inhabited

/-- What an element holds besides its place in the tree. -/
structure Element where
  tag : String
  attributes : Attributes := {}
  form : FormState := {}
  listeners : Listeners := .empty
  handlers : Handlers := {}
deriving DecidableEq, Repr

namespace Element

/-- A fresh element; its tag is kept in small letters. -/
def ofTag (tag : String) : Element :=
  { tag := Text.lowerAscii tag }

/-- Writes an attribute, whatever its name. -/
def setAttribute (e : Element) (name value : String) : Element :=
  { e with attributes := e.attributes.insert name value }

/-- The value of the attribute `id`. -/
def id? (e : Element) : Option String :=
  e.attributes.get? "id"

/-- The tokens of the attribute `class`. -/
def classes (e : Element) : ClassTokens :=
  .ofAttribute (e.attributes.get? "class")

/-- Whether a text is one of the words of the attribute `class`. -/
def hasClass (e : Element) (token : String) : Bool :=
  match e.attributes.get? "class" with
  | some value => (Text.words value).contains token
  | none => false

/-- The type of an input control; no other element has one. -/
def inputType? (e : Element) : Option InputType :=
  if e.tag = "input" then some (.ofAttribute ((e.attributes.get? "type").getD "")) else none

/-- Whether the attribute `disabled` means anything on this element. -/
def isFormControl (e : Element) : Bool :=
  ["button", "input", "select", "textarea", "option", "fieldset"].contains e.tag

/-- Whether the element is a disabled form control. -/
def isDisabled (e : Element) : Bool :=
  e.isFormControl && e.attributes.contains "disabled"

/-- Whether the element is a checkbox or a radio button. -/
def isCheckable (e : Element) : Bool :=
  e.inputType?.any InputType.isCheckable

/-- Whether the element is a radio button. -/
def isRadio (e : Element) : Bool :=
  e.inputType? == some .radio

end Element

end WebPage
