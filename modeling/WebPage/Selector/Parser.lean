import WebPage.Error
import WebPage.Selector.Basic
import WebPage.Text.Blank
import WebPage.Text.Reading

/-!
# Reading a selector list

A selector list is read from left to right. Each reader takes characters from the front of a text
and gives what it read together with the rest. The rest carries the proof that it is short enough
for the readers that go on from there, which is why reading ends on every text.

## Main definitions

* `name?`, `quoted?`: names and quoted values with their escapes
* `list?`: a list of alternatives, down to lists inside `:not( )`
* `SelectorList.parse`: a whole text
-/

namespace WebPage.Selector

open Text (Reading)

/-! ## Characters -/

/-- The characters that a name may start with, the backslash of an escape included. -/
def isNameStart (c : Char) : Bool :=
  c.isAlpha || c = '_' || c = '-' || c = '\\' || 0x80 ≤ c.toNat

/-- The characters of a name that need no escape. All characters outside ASCII are among them. -/
def isNameChar (c : Char) : Bool :=
  c.isAlphanum || c = '_' || c = '-' || 0x80 ≤ c.toNat

/-- A text without the blanks at its start. -/
def skipBlanks (s : List Char) : List Char :=
  s.dropWhile Text.isBlank

theorem length_skipBlanks_le (s : List Char) : (skipBlanks s).length ≤ s.length :=
  (List.dropWhile_sublist _).length_le

/-- A reading that started after the blanks at the start of a text. -/
def afterBlanks {α : Type} {s : List Char} (r : Reading α (skipBlanks s).length) :
    Reading α s.length :=
  r.weaken (length_skipBlanks_le s)

/-- The same reading, which takes the blanks that follow too. -/
def takingBlanks {α : Type} {n : Nat} (r : Reading α n) : Reading α n :=
  ⟨r.value, skipBlanks r.rest, Nat.lt_of_le_of_lt (length_skipBlanks_le r.rest) r.short⟩

/-- This character at the front of a text. -/
def char? (c : Char) : (s : List Char) → Option (Reading Unit s.length)
  | [] => none
  | d :: s => if d = c then some (.single () d s) else none

/-! ## Names and quoted values -/

/-- The name characters at the front of a text; a backslash takes the next character as it is, and
fails at the end of the text. -/
def nameChars? : (s : List Char) → Option (Reading (List Char) (s.length + 1))
  | [] => some (.nothing [] [])
  | '\\' :: s =>
    match s with
    | [] => none
    | c :: s => (nameChars? s).map fun r => (r.map (c :: ·)).longer.longer
  | c :: s =>
    if isNameChar c then (nameChars? s).map fun r => (r.map (c :: ·)).longer
    else some (.nothing [] (c :: s))

/-- A name: it is not empty and does not start with a digit. -/
def name? (s : List Char) : Option (Reading String s.length) :=
  match nameChars? s with
  | none => none
  | some r =>
    if h : r.rest.length < s.length then
      match r.value with
      | [] => none
      | c :: _ => if c.isDigit then none else some ⟨String.ofList r.value, r.rest, h⟩
    else none

/-- The text up to a closing quote; a backslash takes the next character as it is. -/
def quoted? (quote : Char) : (s : List Char) → Option (Reading (List Char) s.length)
  | [] => none
  | c :: s =>
    if c = quote then some (.single [] c s)
    else if c = '\\' then
      match s with
      | [] => none
      | d :: s => (quoted? quote s).map fun r => (r.map (d :: ·)).longer.longer
    else (quoted? quote s).map fun r => (r.map (c :: ·)).longer

/-! ## Attribute selectors -/

/-- The comparison at the front of a text. -/
def test? : (s : List Char) → Option (Reading AttributeTest s.length)
  | '=' :: s => some (.single .equals '=' s)
  | '~' :: '=' :: s => some (Reading.single .hasWord '=' s).longer
  | '|' :: '=' :: s => some (Reading.single .dashMatch '=' s).longer
  | '^' :: '=' :: s => some (Reading.single .startsWith '=' s).longer
  | '$' :: '=' :: s => some (Reading.single .endsWith '=' s).longer
  | '*' :: '=' :: s => some (Reading.single .contains '=' s).longer
  | _ => none

/-- A value to compare with: in either kind of quotes, or a name. -/
def value? : (s : List Char) → Option (Reading String s.length)
  | [] => none
  | c :: s =>
    if c = '"' || c = '\'' then (quoted? c s).map fun r => (r.map String.ofList).longer
    else name? (c :: s)

/-- The case flag at the front of a text: `i` ignores case, and `s` does not. -/
def caseFlag? : (s : List Char) → Option (Reading Bool s.length)
  | [] => none
  | c :: s =>
    if c = 'i' || c = 'I' then some (.single true c s)
    else if c = 's' || c = 'S' then some (.single false c s)
    else none

/-- What was read, with the case flag after it in place of its value; without a flag case counts. -/
def withCaseFlag {α : Type} {n : Nat} (r : Reading α n) : Reading Bool n :=
  match caseFlag? r.rest with
  | some flag => takingBlanks (r.andThen flag)
  | none => r.map fun _ => false

/-- What follows the opening bracket of an attribute selector. -/
def attribute? (s : List Char) : Option (Reading Simple s.length) := do
  let name ← name? (skipBlanks s)
  let name := takingBlanks (afterBlanks name)
  let attr := Text.lowerAscii name.value
  match char? ']' name.rest with
  | some bracket => some ((name.andThen bracket).map fun _ => .attribute attr none false)
  | none => do
    let test ← test? name.rest
    let test := takingBlanks (name.andThen test)
    let value ← value? test.rest
    let value := takingBlanks (test.andThen value)
    let flag := withCaseFlag value
    let bracket ← char? ']' flag.rest
    some ((flag.andThen bracket).map fun _ =>
      .attribute attr (some (test.value, value.value)) flag.value)

/-! ## Lists, chains and compounds -/

/-- The states of an element by name. -/
def PseudoClass.ofName? : String → Option PseudoClass
  | "first-child" => some .firstChild
  | "last-child" => some .lastChild
  | "only-child" => some .onlyChild
  | "empty" => some .empty
  | "root" => some .root
  | "checked" => some .checked
  | "disabled" => some .disabled
  | "enabled" => some .enabled
  | _ => none

/-- The tag at the front of a text, if there is one: the star, or a name in small letters. -/
def tag? : (s : List Char) → Option (Reading (Option String) (s.length + 1))
  | [] => some (.nothing none [])
  | '*' :: s => some (Reading.single (some "*") '*' s).longer
  | c :: s =>
    if isNameStart c then
      (name? (c :: s)).map fun r => (r.map fun name => some (Text.lowerAscii name)).longer
    else some (.nothing none (c :: s))

/-- A combinator that is written as one character. -/
def sign? : (s : List Char) → Option (Reading Combinator s.length)
  | '>' :: s => some (.single .child '>' s)
  | '+' :: s => some (.single .nextSibling '+' s)
  | '~' :: s => some (.single .subsequentSibling '~' s)
  | _ => none

/-- A combinator with the blanks around it. Blanks with no other combinator between are the
descendant combinator. -/
def combinator? (s : List Char) : Option (Reading Combinator s.length) :=
  match sign? (skipBlanks s) with
  | some sign => some (takingBlanks (afterBlanks sign))
  | none =>
    if h : (skipBlanks s).length < s.length then some ⟨.descendant, skipBlanks s, h⟩ else none

/-- Whether a chain ends in front of a text. -/
def endsChain : List Char → Bool
  | [] => true
  | c :: _ => c = ',' || c = ')'

/-- A character that opens a test. -/
def opening? : (s : List Char) → Option (Reading Char s.length)
  | [] => none
  | c :: s => if c = '#' || c = '.' || c = '[' || c = ':' then some (.single c c s) else none

mutual

/-- Alternatives with commas between. -/
def list? (s : List Char) : Option (Reading (List Complex) s.length) := do
  have := length_skipBlanks_le s
  let first ← complex? (skipBlanks s)
  let first := takingBlanks (afterBlanks first)
  match char? ',' first.rest with
  | none => some (first.map fun chain => [chain])
  | some comma => do
    have : comma.rest.length < s.length := (first.andThen comma).short
    let others ← list? comma.rest
    some (((first.andThen comma).andThen others).map fun chains => first.value :: chains)
termination_by s.length * 8 + 4

/-- A chain: compounds with combinators between. -/
def complex? (s : List Char) : Option (Reading Complex s.length) := do
  let first ← compound? s
  have := first.short
  let whole ← chain? (.single first.value) first.rest
  some (first.goOn whole)
termination_by s.length * 8 + 3

/-- A chain goes on after `left` with a combinator and a compound, or ends. -/
def chain? (left : Complex) (s : List Char) : Option (Reading Complex (s.length + 1)) :=
  if endsChain (skipBlanks s) then some (takingBlanks (.nothing left s))
  else do
    let link ← combinator? s
    have := link.short
    let right ← compound? link.rest
    have := right.short
    let whole ← chain? (.join left link.value right.value) right.rest
    some ((link.andThen right).goOn whole).longer
termination_by s.length * 8 + 3

/-- A compound: a tag, tests, or both. -/
def compound? (s : List Char) : Option (Reading Compound s.length) := do
  let tag ← tag? s
  have := tag.short
  let parts ← parts? tag.rest
  if h : parts.rest.length < s.length then
    some ⟨.mk tag.value parts.value, parts.rest, h⟩
  else none
termination_by s.length * 8 + 2

/-- The tests at the front of a text. -/
def parts? (s : List Char) : Option (Reading (List Simple) (s.length + 1)) :=
  match opening? s with
  | none => some (.nothing [] s)
  | some opening => do
    have := opening.short
    let part ← part? opening.value opening.rest
    have : part.rest.length < s.length := (opening.andThen part).short
    let others ← parts? part.rest
    some (((opening.andThen part).goOn others).map fun parts => part.value :: parts).longer
termination_by s.length * 8 + 1

/-- One test, after the character that opens it. -/
def part? (opening : Char) (s : List Char) : Option (Reading Simple s.length) :=
  match opening with
  | '#' => (name? s).map fun name => name.map .id
  | '.' => (name? s).map fun name => name.map .className
  | '[' => attribute? s
  | _ => do
    let name ← name? s
    let state := Text.lowerAscii name.value
    if state = "not" then
      let paren ← char? '(' name.rest
      have : paren.rest.length < s.length := (name.andThen paren).short
      let inner ← list? paren.rest
      let inner := takingBlanks ((name.andThen paren).andThen inner)
      let closing ← char? ')' inner.rest
      some ((inner.andThen closing).map fun _ => .not inner.value)
    else
      let state ← PseudoClass.ofName? state
      some (name.map fun _ => .pseudo state)
termination_by s.length * 8 + 0

end

/-- Reads a whole text as a selector list. -/
def SelectorList.parse (text : String) : Except DomError SelectorList :=
  match list? text.toList with
  | some r => if (skipBlanks r.rest).isEmpty then .ok ⟨r.value⟩ else .error (.invalidSelector text)
  | none => .error (.invalidSelector text)

end WebPage.Selector
