import WebPage.Text.Blank

/-!
# Types of input controls

Only the types that differ in how they keep a value are told apart.

## Main definitions

* `InputType`: the types
* `InputType.ofAttribute`: the type that an attribute value spells
* `InputType.isCheckable`, `InputType.valueIsAttribute`, `InputType.isButton`: its traits
-/

namespace WebPage

/-- The type of an input control. -/
inductive InputType where
  | text
  | password
  | email
  | number
  | search
  | tel
  | url
  | hidden
  | checkbox
  | radio
  | submit
  | reset
  | button
  /-- Dates, times, colours, ranges, files and images. -/
  | other
deriving DecidableEq, Repr, Inhabited

namespace InputType

/-- The type that an attribute value spells; an unknown spelling means text. -/
def ofAttribute (value : String) : InputType :=
  match Text.lowerAscii (Text.trim value) with
  | "password" => .password
  | "email" => .email
  | "number" => .number
  | "search" => .search
  | "tel" => .tel
  | "url" => .url
  | "hidden" => .hidden
  | "checkbox" => .checkbox
  | "radio" => .radio
  | "submit" => .submit
  | "reset" => .reset
  | "button" => .button
  | "date" | "time" | "datetime-local" | "month" | "week" | "color" | "range" | "file"
  | "image" => .other
  | _ => .text

/-- Whether the control is checked or not, rather than filled in. -/
def isCheckable : InputType → Bool
  | checkbox | radio => true
  | _ => false

/-- Whether the value of the control is its `value` attribute, and nothing else. -/
def valueIsAttribute : InputType → Bool
  | hidden | submit | reset | button | checkbox | radio => true
  | _ => false

/-- Whether the control is a button. -/
def isButton : InputType → Bool
  | submit | reset | button => true
  | _ => false

end InputType

end WebPage
