import WebPage.Json

/-!
# Settings of a page

## Main definitions

* `MarkupOptions`: how markup is read
* `Config`: the settings of a page
* `Config.parse?`: reads them from a JSON text
* `Config.write`: writes them as JSON
-/

namespace WebPage

/-- How markup is read. -/
structure MarkupOptions where
  /-- What `noscript` holds is not read as elements, as if scripts could run. -/
  scripting : Bool := true
  /-- Texts of blanks only are kept. -/
  keepBlankText : Bool := true
deriving DecidableEq, Repr, Inhabited

/-- The settings of a page. -/
structure Config where
  /-- The attribute that hides an element. -/
  hiddenAttribute : String := "hidden"
  markup : MarkupOptions := {}
deriving DecidableEq, Repr, Inhabited

/-- A truth value. -/
def Json.bool? : Json → Option Bool
  | .bool value => some value
  | _ => none

/-- A text. -/
def Json.text? : Json → Option String
  | .string text => text
  | _ => none

/-- The fields of a record in a JSON value: by name in an object, where unknown names are skipped
and a known name must not repeat, or in this order in an array, which may be short. A missing field
is `none`. -/
def Json.fields? (names : List String) : Json → Option (List (Option Json))
  | .object members =>
    names.mapM fun name =>
      match members.filter fun member => member.1 == name with
      | [] => some none
      | [member] => some (some member.2)
      | _ => none
  | .array items =>
    if items.length ≤ names.length then
      some (items.map some ++ List.replicate (names.length - items.length) none)
    else none
  | _ => none

/-- Reads a field if it is there, and takes the default if it is missing. -/
def readField {α : Type} (read : Json → Option α) (default : α) : Option Json → Option α
  | some value => read value
  | none => some default

namespace MarkupOptions

/-- The options that a JSON value spells. -/
def ofJson? (json : Json) : Option MarkupOptions := do
  match ← json.fields? ["scripting_enabled", "keep_whitespace"] with
  | [scripting, keep] => do
    let scripting ← readField Json.bool? true scripting
    let keepBlankText ← readField Json.bool? true keep
    some { scripting, keepBlankText }
  | _ => none

/-- The options as JSON. -/
def write (o : MarkupOptions) : String :=
  "\x7b\"scripting_enabled\":" ++ toString o.scripting ++
    ",\"keep_whitespace\":" ++ toString o.keepBlankText ++ "\x7d"

end MarkupOptions

namespace Config

/-- The settings that a JSON value spells. -/
def ofJson? (json : Json) : Option Config := do
  match ← json.fields? ["hidden_attribute", "markup"] with
  | [hidden, markup] => do
    let hiddenAttribute ← readField Json.text? "hidden" hidden
    let markup ← readField MarkupOptions.ofJson? {} markup
    some { hiddenAttribute, markup }
  | _ => none

/-- The settings that a JSON text spells. -/
def parse? (text : String) : Option Config :=
  (Json.parse? text).bind ofJson?

/-- The settings as JSON. -/
def write (c : Config) : String :=
  "\x7b\"hidden_attribute\":" ++ Json.writeString c.hiddenAttribute ++
    ",\"markup\":" ++ c.markup.write ++ "\x7d"

end Config

end WebPage
