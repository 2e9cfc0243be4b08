import WebPage.Text.Blank

/-!
# Style declarations

The declarations of a `style` attribute, in order and with one per property.

## Main definitions

* `Declaration`, `Declarations`: the data
* `Declarations.get`, `Declarations.isImportant`: reading
* `Declarations.set`, `Declarations.remove`: writing
* `Declarations.cssText`: the attribute value that spells them
-/

namespace WebPage.Style

/-- One property with its value and priority. -/
structure Declaration where
  name : String
  value : String
  important : Bool
deriving DecidableEq, Repr

/-- Declarations in order. -/
structure Declarations where
  toList : List Declaration := []
deriving DecidableEq, Repr, Inhabited

namespace Declarations

/-- The number of declarations. -/
def size (s : Declarations) : Nat :=
  s.toList.length

/-- Whether there is no declaration. -/
def isEmpty (s : Declarations) : Bool :=
  s.toList.isEmpty

/-- The declaration of a property. -/
def find? (s : Declarations) (name : String) : Option Declaration :=
  s.toList.find? fun d => d.name == name

/-- The value of a property, empty if it has none. -/
def get (s : Declarations) (name : String) : String :=
  ((s.find? name).map Declaration.value).getD ""

/-- Whether a property is declared important. -/
def isImportant (s : Declarations) (name : String) : Bool :=
  s.toList.any fun d => d.name == name && d.important

/-- Takes a property out. -/
def erase (s : Declarations) (name : String) : Declarations :=
  ⟨s.toList.eraseP fun d => d.name == name⟩

/-- Takes a property out; also gives its value. -/
def remove (s : Declarations) (name : String) : Option String × Declarations :=
  ((s.find? name).map Declaration.value, s.erase name)

/-- Writes a declaration in the place of the one of its property, or else at the end. -/
def put (d : Declaration) : List Declaration → List Declaration
  | [] => [d]
  | e :: rest => if e.name == d.name then d :: rest else e :: put d rest

/-- Declares a property, with the blanks around the value cut off. An empty value takes the
property out. -/
def set (s : Declarations) (name value : String) (important : Bool) : Declarations :=
  let value := Text.trim value
  if value.isEmpty then s.erase name else ⟨put ⟨name, value, important⟩ s.toList⟩

/-- Declares properties one after the other. -/
def setAll (s : Declarations) (ds : List Declaration) : Declarations :=
  ds.foldl (fun s d => s.set d.name d.value d.important) s

end Declarations

/-- A declaration as it stands in an attribute. -/
def Declaration.cssText (d : Declaration) : String :=
  d.name ++ ": " ++ d.value ++ (if d.important then " !important;" else ";")

/-- The attribute value that spells the declarations. -/
def Declarations.cssText (s : Declarations) : String :=
  " ".intercalate (s.toList.map Declaration.cssText)

end WebPage.Style
