import WebPage.Selector.Parser

/-!
# Reading selectors by byte positions

The readers of selectors take a text apart into characters. A scanner keeps the whole text and a
position in its UTF-8 encoding instead: it looks at the text from the position on, moves the
position by the length of a character, and goes round in loops until something else follows. Nothing
in that makes it safe. A position in the middle of a character has no text behind it, and a loop
that does not move the position goes round for ever.

The scanner here is written so that both can go wrong. Looking at a position with no text behind it
leaves it stuck, and so does a turn of a loop, or a list inside a list, that has not moved on. What
happens on the way is recorded, whether or not the text turns out to be a selector list.

## Main definitions

* `Scanner`: a scanner, with the record of its `Event`s and its `Outcome`
* `Scanner.peek`, `Scanner.bump`, `Scanner.eat`: looking at a character, and passing one
* `Scanner.turns`: a loop
* `Scanner.blanks`, `Scanner.name`, `Scanner.quoted`, `Scanner.bracketed`, `Scanner.pseudo`,
  `Scanner.compound`, `Scanner.complex`, `Scanner.list`: the parts of a selector list
* `SelectorList.scan`: a whole text
-/

namespace WebPage.Selector

namespace Scanner

/-- The loops of a scanner. -/
inductive Loop where
  | blanks
  | list
  | complex
  | compound
  | name
  | quoted
deriving DecidableEq, Repr

/-- What a scanner does on its way. -/
inductive Event where
  /-- It looks at the text from a position on. -/
  | peek (pos : Nat)
  /-- A turn of a loop ends, and there will be another one. -/
  | turn (loop : Loop) (start stop : Nat)
  /-- In the list that began at `outer`, a list in parentheses begins at `inner`. -/
  | nested (outer inner : Nat)
deriving DecidableEq, Repr

/-- How a scan ends. -/
inductive Outcome (α : Type) where
  /-- It has read a value, and goes on at a position. -/
  | read (value : α) (pos : Nat)
  /-- The text is not what the scanner reads. -/
  | refused
  /-- There is no text at the position, or the scanner would go on without an end. -/
  | stuck

/-- How a scan ends, and what happened before. -/
structure Run (α : Type) where
  events : List Event
  outcome : Outcome α

/-- The same run with other events before. -/
def Run.after {α : Type} (events : List Event) (x : Run α) : Run α :=
  ⟨events ++ x.events, x.outcome⟩

/-- A run with another one after it, if it has read something. -/
def Run.andThen {α β : Type} (x : Run α) (next : α → Nat → Run β) : Run β :=
  match x.outcome with
  | .read value pos => (next value pos).after x.events
  | .refused => ⟨x.events, .refused⟩
  | .stuck => ⟨x.events, .stuck⟩

end Scanner

/-- A scanner of a text, which can be run at each position. -/
structure Scanner (src : String) (α : Type) where
  run : Nat → Scanner.Run α

namespace Scanner

variable {src : String} {α σ : Type}

instance : Monad (Scanner src) where
  pure value := ⟨fun pos => ⟨[], .read value pos⟩⟩
  bind x next := ⟨fun pos => (x.run pos).andThen fun value => (next value).run⟩

/-! ## Characters -/

/-- The position. -/
def position : Scanner src Nat :=
  ⟨fun pos => ⟨[], .read pos pos⟩⟩

/-- The text is not what the scanner reads. -/
def refuse : Scanner src α :=
  ⟨fun _ => ⟨[], .refused⟩⟩

/-- Moves the position on by a number of bytes. -/
def forward (bytes : Nat) : Scanner src Unit :=
  ⟨fun pos => ⟨[], .read () (pos + bytes)⟩⟩

/-- The character at the position, unless the text is at its end. -/
def peek : Scanner src (Option Char) :=
  ⟨fun pos =>
    if h : String.Pos.Raw.IsValid src ⟨pos⟩ then
      ⟨[.peek pos], .read (String.Pos.get? ⟨⟨pos⟩, h⟩) pos⟩
    else ⟨[.peek pos], .stuck⟩⟩

/-- Passes the character at the position. -/
def bump : Scanner src (Option Char) := do
  match ← peek with
  | none => return none
  | some c => do
    forward c.utf8Size
    return some c

/-- Passes this character, if it is the one at the position. -/
def eat (expected : Char) : Scanner src Bool := do
  if (← peek) = some expected then
    forward expected.utf8Size
    return true
  else return false

/-! ## Loops -/

/-- What follows a turn of a loop. -/
inductive Turn (σ α : Type) where
  | again (state : σ)
  | done (value : α)

/-- Turns of a loop until one is the last. Another turn has to begin at a larger position, which the
text still has. -/
def turnsFrom (loop : Loop) (turn : σ → Scanner src (Turn σ α)) (state : σ) (pos : Nat) : Run α :=
  ((turn state).run pos).andThen fun next stop =>
    match next with
    | .done value => ⟨[], .read value stop⟩
    | .again state =>
      if _h : pos < stop ∧ stop ≤ src.utf8ByteSize then
        (turnsFrom loop turn state stop).after [.turn loop pos stop]
      else ⟨[.turn loop pos stop], .stuck⟩
termination_by src.utf8ByteSize - pos

/-- A loop. -/
def turns (loop : Loop) (turn : σ → Scanner src (Turn σ α)) (state : σ) : Scanner src α :=
  ⟨turnsFrom loop turn state⟩

/-- A turn of `blanks`: one blank. -/
def blanksTurn (_ : Unit) : Scanner src (Turn Unit Unit) := do
  if (← peek).any Text.isBlank then
    let _ ← bump
    return .again ()
  else return .done ()

/-- Passes blanks, and tells whether there were any. -/
def blanks : Scanner src Bool := do
  let start ← position
  turns .blanks blanksTurn ()
  return decide ((← position) ≠ start)

/-! ## Names and quoted values -/

/-- A turn of `name`: one character, with a backslash before it or without. -/
def nameTurn (out : List Char) : Scanner src (Turn (List Char) (List Char)) := do
  match ← peek with
  | none => return .done out
  | some c =>
    if c = '\\' then do
      let _ ← bump
      match ← bump with
      | none => refuse
      | some d => return .again (out ++ [d])
    else if isNameChar c then do
      let _ ← bump
      return .again (out ++ [c])
    else return .done out

/-- A name: it is not empty and does not start with a digit. -/
def name : Scanner src String := do
  match ← turns .name nameTurn [] with
  | [] => refuse
  | c :: cs => if c.isDigit then refuse else return String.ofList (c :: cs)

/-- A turn of `quoted`: the closing quote, or one character with a backslash before it or
without. -/
def quotedTurn (quote : Char) (out : List Char) : Scanner src (Turn (List Char) (List Char)) := do
  match ← bump with
  | none => refuse
  | some c =>
    if c = quote then return .done out
    else if c = '\\' then do
      match ← bump with
      | none => refuse
      | some d => return .again (out ++ [d])
    else return .again (out ++ [c])

/-- What follows an opening quote. -/
def quoted (quote : Char) : Scanner src String := do
  return String.ofList (← turns .quoted (quotedTurn quote) [])

/-! ## Attribute selectors -/

/-- The value of a comparison. -/
def value : Scanner src String := do
  match ← peek with
  | none => refuse
  | some c =>
    if c = '"' ∨ c = '\'' then do
      let _ ← bump
      quoted c
    else name

/-- The case flag, with the blanks behind it; without a flag case counts. -/
def caseFlag : Scanner src Bool := do
  match ← peek with
  | none => return false
  | some c =>
    if c = 'i' ∨ c = 'I' ∨ c = 's' ∨ c = 'S' then do
      let _ ← bump
      let _ ← blanks
      return decide (c = 'i' ∨ c = 'I')
    else return false

/-- What follows the sign of a comparison. -/
def comparison (attr : String) (test : AttributeTest) : Scanner src Simple := do
  let _ ← blanks
  let value ← value
  let _ ← blanks
  let ignoreCase ← caseFlag
  if ← eat ']' then return .attribute attr (some (test, value)) ignoreCase else refuse

/-- The comparison whose sign is a character with an equals sign behind. -/
def signed? : Char → Option AttributeTest
  | '~' => some .hasWord
  | '|' => some .dashMatch
  | '^' => some .startsWith
  | '$' => some .endsWith
  | '*' => some .contains
  | _ => none

/-- What follows an opening bracket. -/
def bracketed : Scanner src Simple := do
  let _ ← blanks
  let attr := Text.lowerAscii (← name)
  let _ ← blanks
  match ← bump with
  | none => refuse
  | some c =>
    if c = ']' then return .attribute attr none false
    else if c = '=' then comparison attr .equals
    else
      match signed? c with
      | none => refuse
      | some test => do
        if ← eat '=' then comparison attr test else refuse

/-! ## Lists, chains and compounds

`inner` reads the list that `:not( )` holds. -/

section Layers

variable (inner : Scanner src (List Complex))

/-- What follows a colon. -/
def pseudo : Scanner src Simple := do
  let state := Text.lowerAscii (← name)
  if state = "not" then do
    if ← eat '(' then do
      let alternatives ← inner
      let _ ← blanks
      if ← eat ')' then return .not alternatives else refuse
    else refuse
  else
    match PseudoClass.ofName? state with
    | none => refuse
    | some state => return .pseudo state

/-- The tag of a compound, if there is one. -/
def tag : Scanner src (Option String) := do
  if ← eat '*' then return some "*"
  else if (← peek).any isNameStart then do
    let name ← name
    return some (Text.lowerAscii name)
  else return none

/-- One test, after the character that opens it. -/
def part (opening : Char) : Scanner src Simple :=
  match opening with
  | '#' => do
    let name ← name
    return .id name
  | '.' => do
    let name ← name
    return .className name
  | '[' => bracketed
  | _ => pseudo inner

/-- A turn of `compound`: one test. -/
def compoundTurn (parts : List Simple) : Scanner src (Turn (List Simple) (List Simple)) := do
  match ← peek with
  | none => return .done parts
  | some c =>
    if c = '#' ∨ c = '.' ∨ c = '[' ∨ c = ':' then do
      let _ ← bump
      let part ← part inner c
      return .again (parts ++ [part])
    else return .done parts

/-- A compound: a tag, tests, or both. -/
def compound : Scanner src Compound := do
  let tag ← tag
  let parts ← turns .compound (compoundTurn inner) []
  if tag.isNone && parts.isEmpty then refuse else return .mk tag parts

/-- What follows a compound, by the character behind the blanks: a combinator, the end of the
chain, or neither. -/
def link? (blanksBefore : Bool) : Option Char → Option (Option Combinator)
  | some '>' => some (some .child)
  | some '+' => some (some .nextSibling)
  | some '~' => some (some .subsequentSibling)
  | some ',' => some none
  | some ')' => some none
  | none => some none
  | some _ => if blanksBefore then some (some .descendant) else none

/-- Passes the sign of a combinator, which the descendant combinator does not have. -/
def passSign (k : Combinator) : Scanner src Unit :=
  if k = .descendant then pure ()
  else do
    let _ ← bump
    let _ ← blanks

/-- A turn of `complex`: a combinator with a compound. -/
def complexTurn (left : Complex) : Scanner src (Turn Complex Complex) := do
  let blanksBefore ← blanks
  match link? blanksBefore (← peek) with
  | none => refuse
  | some none => return .done left
  | some (some k) => do
    passSign k
    let right ← compound inner
    return .again (.join left k right)

/-- A chain: compounds with combinators between. -/
def complex : Scanner src Complex := do
  let first ← compound inner
  turns .complex (complexTurn inner) (.single first)

/-- A turn of `list`: an alternative, with a comma behind it unless it is the last. -/
def listTurn (before : List Complex) : Scanner src (Turn (List Complex) (List Complex)) := do
  let _ ← blanks
  let chain ← complex inner
  let _ ← blanks
  if ← eat ',' then return .again (before ++ [chain]) else return .done (before ++ [chain])

end Layers

/-- Alternatives with commas between, from a position on. A list in parentheses has to begin at a
larger position, which the text still has. -/
def listFrom (src : String) (pos : Nat) : Run (List Complex) :=
  let inner : Scanner src (List Complex) := ⟨fun start =>
    if _h : pos < start ∧ start ≤ src.utf8ByteSize then
      (listFrom src start).after [.nested pos start]
    else ⟨[.nested pos start], .stuck⟩⟩
  (turns .list (listTurn inner) []).run pos
termination_by src.utf8ByteSize - pos

/-- Alternatives with commas between. -/
def list : Scanner src (List Complex) :=
  ⟨listFrom src⟩

/-- A list and nothing behind it. -/
def whole : Scanner src SelectorList := do
  let alternatives ← list
  let _ ← blanks
  if src.utf8ByteSize ≤ (← position) then return ⟨alternatives⟩ else refuse

end Scanner

/-- Scans a whole text as a selector list. -/
def SelectorList.scan (text : String) : Scanner.Run SelectorList :=
  (Scanner.whole : Scanner text SelectorList).run 0

end WebPage.Selector
