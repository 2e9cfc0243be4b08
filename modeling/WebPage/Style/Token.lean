import WebPage.Style.Decimal

/-!
# Tokens of styles

A style is read as tokens: names, numbers with and without a unit, strings, addresses, brackets and
single characters. Comments leave no token. A string or an address that is still open at the end
ends there.

## Main definitions

* `Bracket`, `Token`: the tokens
* `Token.readAll`: the tokens of a text
* `writeName`, `writeIdentifier`, `writeString`: names and strings with their escapes
* `Token.write`: the written form of a token
-/

namespace WebPage.Style

/-- The kinds of brackets. -/
inductive Bracket where
  | round
  | square
  | curly
deriving DecidableEq, Repr

/-- The character that opens a bracket. -/
def Bracket.opening : Bracket → Char
  | round => '('
  | square => '['
  | curly => '\x7b'

/-- The character that closes a bracket. -/
def Bracket.closing : Bracket → Char
  | round => ')'
  | square => ']'
  | curly => '\x7d'

/-- A number with what its spelling tells besides. -/
structure Numeral where
  value : Decimal
  /-- It has a plus sign. -/
  plus : Bool
  /-- It has neither a point nor an exponent. -/
  whole : Bool
deriving DecidableEq, Repr

/-- A token of a style. -/
inductive Token where
  | ident (name : String)
  /-- A name with an opening bracket right after it. -/
  | function (name : String)
  | atKeyword (name : String)
  | hash (name : String)
  | string (text : String)
  | badString
  | url (address : String)
  | badUrl
  | number (value : Numeral)
  | percentage (value : Numeral)
  | dimension (value : Decimal) (unit : String)
  | blank (text : String)
  | opening (bracket : Bracket)
  | closing (bracket : Bracket)
  | delim (c : Char)
  /-- Characters that only mean something together. -/
  | sign (text : String)
deriving DecidableEq, Repr

/-! ## Characters -/

/-- The blanks of a style. -/
def isStyleBlank (c : Char) : Bool :=
  c = ' ' || c = '\t' || c = '\n' || c = '\r' || c = '\x0c'

/-- The characters that end a line. -/
def isNewline (c : Char) : Bool :=
  c = '\n' || c = '\r' || c = '\x0c'

/-- Whether a character is a hexadecimal digit. -/
def isHexDigit (c : Char) : Bool :=
  c.isDigit || ('a' ≤ c && c ≤ 'f') || ('A' ≤ c && c ≤ 'F')

/-- The number that hexadecimal digits spell. -/
def natOfHex (ds : List Char) : Nat :=
  ds.foldl (fun n c =>
    n * 16 + (if c.isDigit then c.toNat - '0'.toNat else c.toLower.toNat - 'a'.toNat + 10)) 0

/-- The character that stands for what is no character. -/
def replacement : Char := Char.ofNat 0xFFFD

/-- The character with a code, or the replacement if there is none or it is zero. -/
def charOfCode (n : Nat) : Char :=
  if n.isValidChar && n ≠ 0 then Char.ofNat n else replacement

/-- The characters that a name may start with. -/
def startsName (c : Char) : Bool :=
  c.isAlpha || c = '_' || c.toNat = 0 || 0x80 ≤ c.toNat

/-- The characters of a name. -/
def isNamePart (c : Char) : Bool :=
  startsName c || c.isDigit || c = '-'

/-! ## Names -/

/-- What follows a line end: a carriage return and a line feed end one line. -/
def skipNewline : List Char → List Char
  | '\r' :: '\n' :: s => s
  | _ :: s => s
  | [] => []

/-- The character that an escape stands for, after its backslash: up to six hexadecimal digits and a
blank, or any other character. -/
def escaped (s : List Char) : Char × List Char :=
  let digits := (s.take 6).takeWhile isHexDigit
  if digits.isEmpty then
    match s with
    | [] => (replacement, [])
    | c :: s => (if c.toNat = 0 then replacement else c, s)
  else
    let s := s.drop digits.length
    (charOfCode (natOfHex digits),
      match s with
      | c :: _ => if isStyleBlank c then skipNewline s else s
      | [] => [])

theorem length_skipNewline_le (s : List Char) : (skipNewline s).length ≤ s.length := by
  unfold skipNewline
  split <;> simp only [List.length_cons, List.length_nil] <;> omega

theorem length_escaped_le (s : List Char) : (escaped s).2.length ≤ s.length := by
  unfold escaped
  simp only
  split
  · split <;> simp
  · have h := List.length_drop (i := ((s.take 6).takeWhile isHexDigit).length) (l := s)
    split
    · rename_i c t ht
      split
      · have := length_skipNewline_le (s.drop ((s.take 6).takeWhile isHexDigit).length)
        simp only; omega
      · simp only; omega
    · simp

/-- Whether a backslash in front of a text starts an escape. -/
def startsEscape : List Char → Bool
  | c :: _ => !isNewline c
  | [] => true

/-- The longest name at the front of a text, and the rest. -/
def readName (s : List Char) : List Char × List Char :=
  match s with
  | [] => ([], [])
  | c :: rest =>
    if c = '\\' then
      if startsEscape rest then
        have := length_escaped_le rest
        let (more, after) := readName (escaped rest).2
        ((escaped rest).1 :: more, after)
      else ([], c :: rest)
    else if isNamePart c then
      let (more, after) := readName rest
      ((if c.toNat = 0 then replacement else c) :: more, after)
    else ([], c :: rest)
termination_by s.length

/-- Whether a name starts at the front of a text. -/
def startsIdentifier : List Char → Bool
  | '-' :: c :: rest =>
    startsName c || c = '-' || (c = '\\' && startsEscape rest)
  | '\\' :: rest => startsEscape rest
  | c :: _ => startsName c
  | [] => false

/-! ## Numbers -/

/-- Whether a number starts at the front of a text. -/
def startsNumber : List Char → Bool
  | '.' :: c :: _ => c.isDigit
  | s :: '.' :: c :: _ => if s = '+' || s = '-' then c.isDigit else s.isDigit
  | s :: c :: _ => s.isDigit || ((s = '+' || s = '-') && c.isDigit)
  | [c] => c.isDigit
  | [] => false

/-- The exponent at the front of a text, if there is one. -/
def readExponent (s : List Char) : Int × List Char :=
  match s with
  | e :: rest =>
    if e = 'e' || e = 'E' then
      match rest with
      | c :: more =>
        if c.isDigit then
          (Decimal.natOfDigits (rest.takeWhile Char.isDigit), rest.dropWhile Char.isDigit)
        else if (c = '+' || c = '-') && more.head?.any Char.isDigit then
          let n : Int := Decimal.natOfDigits (more.takeWhile Char.isDigit)
          (if c = '-' then -n else n, more.dropWhile Char.isDigit)
        else (0, s)
      | [] => (0, s)
    else (0, s)
  | [] => (0, s)

/-- The number at the front of a text. -/
def readNumber (s : List Char) : Numeral × List Char :=
  let plus := s.head? == some '+'
  let (negative, s) := match s with
    | '-' :: s => (true, s)
    | '+' :: s => (false, s)
    | s => (false, s)
  let whole := s.takeWhile Char.isDigit
  let s := s.dropWhile Char.isDigit
  let (fraction, s) := match s with
    | '.' :: c :: rest =>
      if c.isDigit then ((c :: rest).takeWhile Char.isDigit, (c :: rest).dropWhile Char.isDigit)
      else ([], s)
    | s => ([], s)
  let (power, after) := readExponent s
  (⟨.ofDigits negative whole fraction power, plus, fraction.isEmpty && after.length == s.length⟩,
    after)

/-- A number with what is attached to it: a percent sign, a unit, or nothing. -/
def readNumeric (s : List Char) : Token × List Char :=
  let (value, rest) := readNumber s
  match rest with
  | '%' :: rest => (.percentage value, rest)
  | _ =>
    if startsIdentifier rest then
      let (unit, rest) := readName rest
      (.dimension value.value (String.ofList unit), rest)
    else (.number value, rest)

/-! ## Strings and addresses -/

/-- A string after its opening quote; a line end that is not escaped spoils it. -/
def readString (quote : Char) (s : List Char) (text : List Char) : Token × List Char :=
  match s with
  | [] => (.string (String.ofList text.reverse), [])
  | c :: rest =>
    if c = quote then (.string (String.ofList text.reverse), rest)
    else if isNewline c then (.badString, c :: rest)
    else if c = '\\' then
      match rest.head? with
      | none => (.string (String.ofList text.reverse), [])
      | some d =>
        if isNewline d then
          have := length_skipNewline_le rest
          readString quote (skipNewline rest) text
        else
          have := length_escaped_le rest
          readString quote (escaped rest).2 ((escaped rest).1 :: text)
    else readString quote rest ((if c.toNat = 0 then replacement else c) :: text)
termination_by s.length

/-- What is left of a spoiled address: all up to its closing bracket. -/
def afterBadUrl : List Char → List Char
  | [] => []
  | ')' :: s => s
  | '\\' :: _ :: s => afterBadUrl s
  | _ :: s => afterBadUrl s

/-- An address without quotes, after its opening bracket and blanks. -/
def readAddress (s : List Char) (text : List Char) : Token × List Char :=
  match s with
  | [] => (.url (String.ofList text.reverse), [])
  | c :: rest =>
    if c = ')' then (.url (String.ofList text.reverse), rest)
    else if isStyleBlank c then
      match rest.dropWhile isStyleBlank with
      | [] => (.url (String.ofList text.reverse), [])
      | ')' :: rest => (.url (String.ofList text.reverse), rest)
      | rest => (.badUrl, afterBadUrl rest)
    else if c = '"' || c = '\'' || c = '(' || (0 < c.toNat && c.toNat < 0x20) || c.toNat = 0x7F then
      (.badUrl, afterBadUrl rest)
    else if c = '\\' then
      if startsEscape rest then
        have := length_escaped_le rest
        readAddress (escaped rest).2 ((escaped rest).1 :: text)
      else (.badUrl, afterBadUrl rest)
    else readAddress rest ((if c.toNat = 0 then replacement else c) :: text)
termination_by s.length

/-- A name with what is attached to it: a bracket makes it a function, and the name `url` with
something other than a quote in the bracket makes it an address. -/
def readIdentLike (s : List Char) : Token × List Char :=
  let (chars, rest) := readName s
  let ident := String.ofList chars
  match rest with
  | '(' :: inner =>
    if chars.map Char.toLower = "url".toList then
      match inner.dropWhile isStyleBlank with
      | c :: more =>
        if c = '"' || c = '\'' then (.function ident, inner) else readAddress (c :: more) []
      | [] => readAddress [] []
    else (.function ident, inner)
  | _ => (.ident ident, rest)

/-! ## Reading -/

/-- What follows a comment, after its opening. -/
def afterComment : List Char → List Char
  | [] => []
  | '*' :: '/' :: s => s
  | _ :: s => afterComment s

/-- The token at the front of a text, where a comment is none, and the rest. -/
def readToken (c : Char) (s : List Char) : Option Token × List Char :=
  if isStyleBlank c then
    (some (.blank (String.ofList (c :: s.takeWhile isStyleBlank))), s.dropWhile isStyleBlank)
  else if startsNumber (c :: s) then (readNumeric (c :: s)).map some id
  else if startsIdentifier (c :: s) && !(c = '-' && s.take 2 = ['-', '>']) then
    (readIdentLike (c :: s)).map some id
  else
    match c, s with
    | '/', '*' :: s => (none, afterComment s)
    | '"', s => (readString '"' s []).map some id
    | '\'', s => (readString '\'' s []).map some id
    | '(', s => (some (.opening .round), s)
    | '[', s => (some (.opening .square), s)
    | '\x7b', s => (some (.opening .curly), s)
    | ')', s => (some (.closing .round), s)
    | ']', s => (some (.closing .square), s)
    | '\x7d', s => (some (.closing .curly), s)
    | '<', '!' :: '-' :: '-' :: s => (some (.sign "<!--"), s)
    | '-', '-' :: '>' :: s => (some (.sign "-->"), s)
    | '#', s =>
      if s.head?.any isNamePart || (s.head? = some '\\' && startsEscape s.tail) then
        let (chars, rest) := readName s
        (some (.hash (String.ofList chars)), rest)
      else (some (.delim '#'), s)
    | '@', s =>
      if startsIdentifier s then
        let (chars, rest) := readName s
        (some (.atKeyword (String.ofList chars)), rest)
      else (some (.delim '@'), s)
    | c, '=' :: s =>
      if ['~', '|', '^', '$', '*'].contains c then (some (.sign (String.ofList [c, '='])), s)
      else (some (.delim c), '=' :: s)
    | c, s => (some (.delim c), s)

/-- The tokens of a text. Each token takes something from the text, so reading ends. -/
def Token.readAll (s : List Char) : List Token :=
  match s with
  | [] => []
  | c :: s =>
    let (token, rest) := readToken c s
    if rest.length ≤ s.length then token.toList ++ Token.readAll rest else token.toList
termination_by s.length

/-! ## Writing -/

/-- A character by its code, with a blank to end it. -/
def writeCode (c : Char) : String :=
  "\\" ++ String.ofList (Nat.toDigits 16 c.toNat) ++ " "

/-- A character of a name. -/
def writeNameChar (c : Char) : String :=
  if c.toNat = 0 then replacement.toString
  else if c.toNat < 0x20 || c.toNat = 0x7F then writeCode c
  else if isNamePart c then c.toString
  else "\\" ++ c.toString

/-- The characters of a name after its start. -/
def writeName (s : List Char) : String :=
  String.join (s.map writeNameChar)

/-- A name with escapes where it could not be read back as a name. -/
def writeIdentifier (s : String) : String :=
  match s.toList with
  | ['-'] => "\\-"
  | '-' :: '-' :: rest => "--" ++ writeName rest
  | '-' :: c :: rest =>
    if c.isDigit then "-" ++ writeCode c ++ writeName rest else "-" ++ writeName (c :: rest)
  | c :: rest => if c.isDigit then writeCode c ++ writeName rest else writeName (c :: rest)
  | [] => ""

/-- A character of a string. -/
def writeStringChar (c : Char) : String :=
  if c = '"' then "\\\""
  else if c = '\\' then "\\\\"
  else if c.toNat = 0 then replacement.toString
  else if c.toNat < 0x20 || c.toNat = 0x7F then writeCode c
  else c.toString

/-- A text in double quotes. -/
def writeString (s : String) : String :=
  "\"" ++ String.join (s.toList.map writeStringChar) ++ "\""

/-- A number close to its spelling: a plus sign stays, and so does a point with nothing after it. -/
def Numeral.write (n : Numeral) : String :=
  let digits := n.value.writeFull
  (if n.plus then "+" else "") ++ digits ++
    (if !n.whole && digits.toList.all (fun c => c.isDigit || c = '-') then ".0" else "")

/-- The written form of a token. -/
def Token.write : Token → String
  | ident name => writeIdentifier name
  | function name => writeIdentifier name ++ "("
  | atKeyword name => "@" ++ writeIdentifier name
  | hash name => "#" ++ writeName name.toList
  | string text => writeString text
  | badString => ""
  | url address => "url(" ++ writeString address ++ ")"
  | badUrl => ""
  | number n => n.value.write
  | percentage n => n.write ++ "%"
  | dimension value unit => value.write ++ writeIdentifier unit
  | blank text => text
  | opening bracket => bracket.opening.toString
  | closing bracket => bracket.closing.toString
  | delim c => c.toString
  | sign text => text

end WebPage.Style
