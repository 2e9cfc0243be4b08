import WebPage.Markup.ReferenceNames

/-!
# Character references

An ampersand in markup may start a reference to a character, by its code or by a name. If it does
not, it stands for itself.

## Main definitions

* `charOfCode`: the character that a code refers to
* `namedReference?`: the longest name at the front of a text
* `reference`: what follows an ampersand
-/

namespace WebPage.Markup

/-- The character that stands for what is no character. -/
def replacementChar : Char := Char.ofNat 0xFFFD

/-- The characters that the codes from 0x80 to 0x9F refer to; zero where it is the control
itself. -/
def controlReferences : List Nat :=
  [0x20AC, 0, 0x201A, 0x192, 0x201E, 0x2026, 0x2020, 0x2021, 0x2C6, 0x2030, 0x160, 0x2039, 0x152, 0,
    0x17D, 0, 0, 0x2018, 0x2019, 0x201C, 0x201D, 0x2022, 0x2013, 0x2014, 0x2DC, 0x2122, 0x161,
    0x203A, 0x153, 0, 0x17E, 0x178]

/-- The character that a code refers to. What is no character refers to the replacement. -/
def charOfCode (n : Nat) : Char :=
  if n = 0 || !n.isValidChar then replacementChar
  else if 0x80 ≤ n && n ≤ 0x9F then
    match controlReferences[n - 0x80]? with
    | some (m + 1) => Char.ofNat (m + 1)
    | _ => Char.ofNat n
  else Char.ofNat n

/-- The value of a hexadecimal digit. -/
def hexValue? (c : Char) : Option Nat :=
  if c.isDigit then some (c.toNat - '0'.toNat)
  else if 'a' ≤ c.toLower && c.toLower ≤ 'f' then some (c.toLower.toNat - 'a'.toNat + 10)
  else none

/-- The code that digits spell. Above the last code of a character nothing is told apart. -/
def codeOfDigits (base : Nat) (ds : List Char) : Nat :=
  ds.foldl (fun n c => min 0x110000 (n * base + (hexValue? c).getD 0)) 0

/-- A text without the semicolon at its front, if there is one. -/
def skipSemicolon : List Char → List Char
  | ';' :: s => s
  | s => s

/-- A reference by code, after the number sign. -/
def numericReference? (s : List Char) : Option (Char × List Char) :=
  let (base, isDigit, s) := match s with
    | 'x' :: s | 'X' :: s => (16, (fun c => (hexValue? c).isSome), s)
    | s => (10, Char.isDigit, s)
  let digits := s.takeWhile isDigit
  if digits.isEmpty then none
  else some (charOfCode (codeOfDigits base digits), skipSemicolon (s.drop digits.length))

/-- The longest name at the front of a text, with its semicolon if there is one, and the characters
that it refers to. -/
def namedReference? (s : List Char) : Option (String × List Char) :=
  let names := (referenceNames (s.headD ';')).flatMap fun (name, codes) =>
    let chars := codes.map Char.ofNat
    if openReferenceNames.contains name then [(name ++ ";", chars), (name, chars)]
    else [(name ++ ";", chars)]
  (names.filter fun entry => entry.1.toList.isPrefixOf s).foldl (fun best entry =>
    match best with
    | some found => if found.1.length < entry.1.length then some entry else best
    | none => some entry) none

/-- Whether a name without semicolon is left as it is, because of what follows it in an attribute
value. -/
def isGuarded (rest : List Char) : Bool :=
  rest.head?.any fun c => c = '=' || c.isAlphanum

/-- What an ampersand in front of a text stands for, and the rest of the text. -/
def reference (inAttribute : Bool) (s : List Char) : List Char × List Char :=
  match s with
  | '#' :: rest =>
    match numericReference? rest with
    | some (c, rest) => ([c], rest)
    | none => (['&'], s)
  | _ =>
    match namedReference? s with
    | none => (['&'], s)
    | some (name, chars) =>
      let rest := s.drop name.length
      if inAttribute && !name.endsWith ";" && isGuarded rest then (['&'], s) else (chars, rest)

end WebPage.Markup
