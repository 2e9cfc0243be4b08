import WebPage.Text.Blank

/-!
# Class tokens

The value of a `class` attribute, read as an ordered set of tokens.

## Main definitions

* `ClassTokens`: the set
* `ClassTokens.ofAttribute`: the set that an attribute value spells
* `ClassTokens.add`, `ClassTokens.remove`, `ClassTokens.toggle`: changes
* `ClassTokens.value`: the attribute value that spells the set
-/

namespace WebPage

/-- Tokens in the order in which they came in. -/
structure ClassTokens where
  toList : List String := []
deriving DecidableEq, Repr, Inhabited

namespace ClassTokens

/-- Whether a token is in the set. -/
def contains (t : ClassTokens) (token : String) : Bool :=
  t.toList.contains token

/-- The number of tokens. -/
def size (t : ClassTokens) : Nat :=
  t.toList.length

/-- Whether the set has no token. -/
def isEmpty (t : ClassTokens) : Bool :=
  t.toList.isEmpty

/-- Puts a token at the end, unless it is empty or present. -/
def insert (t : ClassTokens) (token : String) : ClassTokens :=
  if token.isEmpty || t.contains token then t else ⟨t.toList ++ [token]⟩

/-- Takes a token out. -/
def erase (t : ClassTokens) (token : String) : ClassTokens :=
  ⟨t.toList.filter (· != token)⟩

/-- Adds tokens one after the other. -/
def add (t : ClassTokens) (tokens : List String) : ClassTokens :=
  tokens.foldl insert t

/-- Removes tokens one after the other. -/
def remove (t : ClassTokens) (tokens : List String) : ClassTokens :=
  tokens.foldl erase t

/-- The set that an attribute value spells; no attribute spells the empty set. -/
def ofAttribute (value : Option String) : ClassTokens :=
  add {} (Text.words (value.getD ""))

/-- Puts a token in or takes it out, as `force` says or else the opposite of now, and gives
which. -/
def toggle (t : ClassTokens) (token : String) (force : Option Bool) : Bool × ClassTokens :=
  let wanted := force.getD (!t.contains token)
  (wanted, if wanted then t.insert token else t.erase token)

/-- The attribute value that spells the set: the tokens with one space between. -/
def value (t : ClassTokens) : String :=
  " ".intercalate t.toList

end ClassTokens

end WebPage
