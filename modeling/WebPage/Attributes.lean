import WebPage.Text.Blank

/-!
# Attributes of an element

The attributes of an element form a map that remembers the order in which names came in. Names are
looked up without regard to ASCII case and kept in small letters.

## Main definitions

* `Attributes`: the map
* `Attributes.get?`, `Attributes.contains`, `Attributes.names`: reading
* `Attributes.insert`, `Attributes.erase`: the map after a write, after a removal
* `Attributes.set`, `Attributes.remove`: the same together with the value before
* `Attributes.toggle`: presence flipped or forced
-/

namespace WebPage

/-- Names and values in the order in which the names came in. -/
structure Attributes where
  entries : List (String × String) := []
deriving DecidableEq, Repr, Inhabited

namespace Attributes

/-- Whether an entry is the one that `name` means, in whatever case it is spelled. -/
def named (name : String) (entry : String × String) : Bool :=
  Text.equalsIgnoringCase entry.1 name

/-- The value of a name. -/
def get? (a : Attributes) (name : String) : Option String :=
  (a.entries.find? (named name)).map Prod.snd

/-- Whether a name is present. -/
def contains (a : Attributes) (name : String) : Bool :=
  a.entries.any (named name)

/-- The names in order. -/
def names (a : Attributes) : List String :=
  a.entries.map Prod.fst

/-- The number of names. -/
def size (a : Attributes) : Nat :=
  a.entries.length

/-- Whether there is no name. -/
def isEmpty (a : Attributes) : Bool :=
  a.entries.isEmpty

/-- The first entry that satisfies `p`, with `value` as its value; the others stay. -/
def replaceFirst (p : String × String → Bool) (value : String) :
    List (String × String) → List (String × String)
  | [] => []
  | entry :: rest =>
    if p entry then (entry.1, value) :: rest else entry :: replaceFirst p value rest

/-- Writes a value: in its place if the name is present, else at the end, in small letters. -/
def insert (a : Attributes) (name value : String) : Attributes :=
  if a.contains name then ⟨replaceFirst (named name) value a.entries⟩
  else ⟨a.entries ++ [(Text.lowerAscii name, value)]⟩

/-- Takes a name out. -/
def erase (a : Attributes) (name : String) : Attributes :=
  ⟨a.entries.eraseP (named name)⟩

/-- Writes a value; also gives the value before. -/
def set (a : Attributes) (name value : String) : Option String × Attributes :=
  (a.get? name, a.insert name value)

/-- Takes a name out; also gives the value before. -/
def remove (a : Attributes) (name : String) : Option String × Attributes :=
  (a.get? name, a.erase name)

/-- Makes a name present or absent, as `force` says or else the opposite of now, and gives which.
A name that is present keeps its value; one that comes in is empty. -/
def toggle (a : Attributes) (name : String) (force : Option Bool) : Bool × Attributes :=
  let present := a.contains name
  let wanted := force.getD (!present)
  (wanted, if wanted && !present then a.insert name ""
    else if !wanted && present then a.erase name
    else a)

end Attributes

end WebPage
