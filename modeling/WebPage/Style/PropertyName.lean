import WebPage.Error
import WebPage.Text.Blank

/-!
# Names of style properties

A property can be named as in a style sheet, with hyphens, or in camel case, where each capital
stands for a hyphen and its small letter. Custom properties start with two hyphens and are kept as
they are spelled.

## Main definitions

* `Style.normalizeProperty`: the one form of a name with hyphens
-/

namespace WebPage.Style

/-- Whether a character ends the name of a custom property. -/
def endsCustomName (c : Char) : Bool :=
  Text.isBlank c || c = ';' || c = ':' || c = '\x7b' || c = '\x7d' || c = '!'

/-- A name with its capitals spelled out; `first` tells that nothing stands before. -/
def spellOut (first : Bool) : List Char → Option (List Char)
  | [] => some []
  | c :: cs =>
    if c.isUpper then
      (spellOut false cs).map ((if first then [] else ['-']) ++ c.toLower :: ·)
    else if c.isLower || c = '-' || (c.isDigit && !first) then (spellOut false cs).map (c :: ·)
    else none

/-- Whether two hyphens stand side by side. -/
def hasDoubleHyphen : List Char → Bool
  | '-' :: '-' :: _ => true
  | _ :: cs => hasDoubleHyphen cs
  | [] => false

/-- Whether a name, hyphens at its start apart, starts with a small letter, does not end in a
hyphen, and has no two hyphens side by side. -/
def isHyphenated (name : List Char) : Bool :=
  (name.dropWhile (· = '-')).head?.any Char.isLower && name.getLast? != some '-' &&
    !hasDoubleHyphen name

/-- Whether a text is the name of a custom property. -/
def isCustomName : List Char → Bool
  | '-' :: '-' :: rest => !rest.isEmpty && !rest.any endsCustomName
  | _ => false

/-- The form of a property name with hyphens. The camel-case name of the property `float` is
`cssFloat`. -/
def normalizeProperty (name : String) : Except DomError String :=
  match name.toList with
  | '-' :: '-' :: _ =>
    if isCustomName name.toList then .ok name else .error (.invalidProperty name)
  | cs =>
    if name = "cssFloat" then .ok "float"
    else
      match spellOut true cs with
      | some out =>
        if isHyphenated out then .ok (String.ofList out) else .error (.invalidProperty name)
      | none => .error (.invalidProperty name)

end WebPage.Style
