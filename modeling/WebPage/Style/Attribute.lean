import WebPage.Style.Declarations
import WebPage.Style.Value

/-!
# Reading style attributes

A `style` attribute is read as declarations with semicolons between. A declaration that cannot be
read is skipped up to the next semicolon. A closing brace that closes nothing ends the list, and
takes the declaration that it stands in with it.

What reads a text and writes its declarations again is kept apart from what is made of them, so that
the styles of elements can be thought of with any reader.

## Main definitions

* `Reader`: reads a text as written declarations
* `Declaration.ofWritten?`: a declaration from its written form
* `readItems`, `cssReader`: the reader of style sheets
* `Reader.spelled`, `Declarations.parseWith`: reading an attribute
* `Reader.single?`, `parseDeclarationWith`: reading one declaration and nothing else
* `Declarations.parse`, `parseDeclaration`: the same with the reader of style sheets
-/

namespace WebPage.Style

/-! ## Readers -/

/-- A reader gives the written forms of the normal and of the important declarations of a text, each
in their order, with `none` for one that cannot be written. It skips what it cannot read if it is to
recover, and gives up otherwise. -/
structure Reader where
  read (recover : Bool) (css : String) : Option (List (Option String) × List (Option String))

/-- A declaration from its written form: the name stands before the first colon. -/
def Declaration.ofWritten? (written : String) (important : Bool) : Option Declaration :=
  let cs := written.toList
  match cs.dropWhile (· ≠ ':') with
  | [] => none
  | _ :: value =>
    some ⟨Text.trim (String.ofList (cs.takeWhile (· ≠ ':'))), Text.trim (String.ofList value),
      important⟩

/-! ## One declaration -/

/-- A declaration as it is written, and whether it is important. -/
structure Item where
  written : String
  important : Bool

/-- Whether a property is a custom one. -/
def isCustom (property : String) : Bool :=
  property.startsWith "--"

/-- Whether a component ends the value of a property: an exclamation mark does, and a brace does
unless the property is a custom one. -/
def endsValue (property : String) : Component → Bool
  | .token (.delim '!') => true
  | .bracket .curly _ => !isCustom property
  | _ => false

/-- The priority at the end of a declaration. -/
def priority? (cs : List Component) : Option Bool :=
  match cs.filter fun c => !c.isBlank with
  | [] => some false
  | [.token (.delim '!'), .token (.ident word)] =>
    if Text.lowerAscii word = "important" then some true else none
  | _ => none

/-- The name under which a property is written: known ones in small letters. -/
def writeProperty (property : String) : String :=
  if (grammar? (Text.lowerAscii property)).isSome then Text.lowerAscii property
  else writeIdentifier property

/-- The declaration of a property, from what follows its name. -/
def item? (property : String) (cs : List Component) : Option Item :=
  match cs.dropWhile Component.isBlank with
  | .token (.delim ':') :: rest => do
    let value := rest.takeWhile fun c => !endsValue property c
    let important ← priority? (rest.drop value.length)
    let text ← writeValue? property (Component.trim value)
    some ⟨writeProperty property ++ ": " ++ text, important⟩
  | _ => none

/-! ## Lists of declarations -/

/-- What follows an at-rule, which ends with a semicolon or with a brace and its contents. -/
def afterAtRule : List Component → List Component
  | [] => []
  | .bracket .curly _ :: rest => rest
  | c :: rest => if c.isDelim ';' then rest else afterAtRule rest

theorem length_afterAtRule_le (cs : List Component) : (afterAtRule cs).length ≤ cs.length := by
  fun_induction afterAtRule cs with
  | case1 => exact Nat.le_refl _
  | case2 _ rest => exact Nat.le_succ _
  | case3 c rest _ h => exact Nat.le_succ _
  | case4 c rest _ h ih => exact Nat.le_succ_of_le ih

/-- What follows a declaration, from the semicolon that ends it. -/
def afterItem (cs : List Component) : List Component :=
  cs.dropWhile fun c => !c.isDelim ';'

theorem length_afterItem_le (cs : List Component) : (afterItem cs).length ≤ cs.length :=
  (List.dropWhile_sublist _).length_le

/-- The declarations in a list of components, with `none` for each that cannot be read. -/
def readItems (cs : List Component) : List (Option Item) :=
  match cs with
  | [] => []
  | c :: rest =>
    if c.isBlank || c.isDelim ';' then readItems rest
    else
      match c with
      | .token (.ident property) =>
        item? property (rest.takeWhile fun c => !c.isDelim ';') :: readItems (afterItem rest)
      | .token (.atKeyword _) => none :: readItems (afterAtRule rest)
      | _ => none :: readItems (afterItem rest)
termination_by cs.length
decreasing_by
  · exact Nat.lt_succ_self _
  · exact Nat.lt_succ_of_le (length_afterItem_le rest)
  · exact Nat.lt_succ_of_le (length_afterAtRule_le rest)
  · exact Nat.lt_succ_of_le (length_afterItem_le rest)

/-- The components up to a brace that closes nothing. Where there is one, the declaration that it
stands in is left out. -/
def upToStrayBrace (cs : List Component) : List Component :=
  let isStray : Component → Bool
    | .token (.closing .curly) => true
    | _ => false
  let before := cs.takeWhile fun c => !isStray c
  if before.length = cs.length then cs
  else (before.reverse.dropWhile fun c => !c.isDelim ';').reverse

/-- The reader of style sheets. A brace that closes nothing is something that it cannot read. -/
def cssReader : Reader where
  read recover css :=
    let cs := Component.readAll css
    let items := readItems (if recover then upToStrayBrace cs else cs)
    if !recover && items.any Option.isNone then none
    else
      let items := items.filterMap id
      some ((items.filter fun i => !i.important).map fun i => some i.written,
        (items.filter fun i => i.important).map fun i => some i.written)

/-! ## Attributes and single declarations -/

/-- The normal and the important declarations of a text. -/
def Reader.spelled (reader : Reader) (css : String) : List Declaration × List Declaration :=
  match reader.read true css with
  | none => ([], [])
  | some (normal, important) =>
    (normal.filterMap fun w => w.bind (Declaration.ofWritten? · false),
      important.filterMap fun w => w.bind (Declaration.ofWritten? · true))

/-- The declarations that a `style` attribute spells. The important ones come last, and of two
declarations of a property with the same priority the later one counts. -/
def Declarations.parseWith (reader : Reader) (css : String) : Declarations :=
  let (normal, important) := reader.spelled css
  setAll {} (normal ++ important)

/-- The declaration of a text, if it spells one declaration and nothing that cannot be read. -/
def Reader.single? (reader : Reader) (css : String) : Option Declaration :=
  match reader.read false css with
  | some ([w], []) => w.bind (Declaration.ofWritten? · false)
  | some ([], [w]) => w.bind (Declaration.ofWritten? · true)
  | _ => none

/-- The declaration of a property with a value and a priority, if they spell one and nothing else.
The property keeps its spelling. -/
def parseDeclarationWith (reader : Reader) (name value : String) (important : Bool) :
    Option Declaration :=
  let css := name ++ ": " ++ value ++ (if important then " !important" else "")
  (reader.single? css).map fun d => { d with name }

/-! ## With the reader of style sheets -/

def Declarations.parse (css : String) : Declarations :=
  parseWith cssReader css

def parseDeclaration (name value : String) (important : Bool) : Option Declaration :=
  parseDeclarationWith cssReader name value important

end WebPage.Style
