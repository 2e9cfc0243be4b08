import WebPage.Error
import WebPage.Text.Blank

/-!
# Names of elements and attributes

A name is accepted if it can stand in markup: it is not empty and holds no character that would end
it there.

## Main definitions

* `Name.isForbidden`: the characters that no name holds
* `Name.validate`: accepts a name or says which text is none
-/

namespace WebPage.Name

/-- Blanks, controls, quotes, angle brackets, the slash and the equals sign end a name in markup. -/
def isForbidden (c : Char) : Bool :=
  Text.isBlank c || Text.isControl c ||
    c = '"' || c = '\'' || c = '>' || c = '<' || c = '/' || c = '='

/-- Whether a text can stand as a name in markup. -/
def isValid (name : String) : Bool :=
  !name.isEmpty && !name.toList.any isForbidden

/-- Accepts a valid name. -/
def validate (name : String) : Except DomError Unit :=
  if isValid name then .ok () else .error (.invalidName name)

end WebPage.Name
