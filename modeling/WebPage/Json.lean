import WebPage.Text.Quoted
import WebPage.Text.Reading

/-!
# JSON texts

The values of JSON as far as settings need them: the members of an object keep their order and may
repeat a key, and of a number nothing is kept but that it is well formed.

## Main definitions

* `Json`: the values
* `Json.parse?`: reads a whole text
* `Json.writeString`: a text as a JSON string
-/

namespace WebPage

open Text (Reading)

/-- A JSON value. A string is kept as `none` if an escape in it names half of a character. -/
inductive Json where
  | null
  | bool (value : Bool)
  | number
  | string (text : Option String)
  | array (items : List Json)
  | object (members : List (String × Json))
deriving Repr

namespace Json

/-- A text without the JSON blanks at its start. -/
def skipBlanks (s : List Char) : List Char :=
  s.dropWhile fun c => c = ' ' || c = '\n' || c = '\r' || c = '\t'

theorem length_skipBlanks_le (s : List Char) : (skipBlanks s).length ≤ s.length :=
  (List.dropWhile_sublist _).length_le

/-! ## Strings -/

/-- The value of a hexadecimal digit. -/
def hexDigit? (c : Char) : Option Nat :=
  if c.isDigit then some (c.toNat - '0'.toNat)
  else if 'a' ≤ c && c ≤ 'f' then some (c.toNat - 'a'.toNat + 10)
  else if 'A' ≤ c && c ≤ 'F' then some (c.toNat - 'A'.toNat + 10)
  else none

/-- The number that four hexadecimal digits spell. -/
def hexFour? (a b c d : Char) : Option Nat := do
  return (((← hexDigit? a) * 16 + (← hexDigit? b)) * 16 + (← hexDigit? c)) * 16 + (← hexDigit? d)

/-- The character that a one-letter escape stands for. -/
def letterEscape? : Char → Option Char
  | '"' => some '"'
  | '\\' => some '\\'
  | '/' => some '/'
  | 'b' => some '\x08'
  | 'f' => some '\x0c'
  | 'n' => some '\n'
  | 'r' => some '\r'
  | 't' => some '\t'
  | _ => none

/-- The sixteen-bit units of a string up to its closing quote; a character that is written as
itself is one unit here, whatever its size. -/
def units? : (s : List Char) → Option (Reading (List Nat) s.length)
  | [] => none
  | '"' :: s => some ⟨[], s, by simp⟩
  | '\\' :: 'u' :: a :: b :: c :: d :: s => do
    let unit ← hexFour? a b c d
    let others ← units? s
    some ⟨unit :: others.value, others.rest, by
      have := others.short; simp only [List.length_cons]; omega⟩
  | '\\' :: e :: s => do
    let c ← letterEscape? e
    let others ← units? s
    some ⟨c.toNat :: others.value, others.rest, by
      have := others.short; simp only [List.length_cons]; omega⟩
  | c :: s =>
    if c.toNat < 0x20 || c = '\\' then none
    else (units? s).map fun others => ⟨c.toNat :: others.value, others.rest, by
      have := others.short; simp only [List.length_cons]; omega⟩

/-- The characters that units spell; fails on half of a pair. -/
def ofUnits? : List Nat → Option (List Char)
  | [] => some []
  | [u] => if 0xD800 ≤ u && u ≤ 0xDFFF then none else some [Char.ofNat u]
  | u :: v :: rest =>
    if 0xD800 ≤ u && u ≤ 0xDBFF then
      if 0xDC00 ≤ v && v ≤ 0xDFFF then
        (ofUnits? rest).map (Char.ofNat (0x10000 + (u - 0xD800) * 0x400 + (v - 0xDC00)) :: ·)
      else none
    else if 0xDC00 ≤ u && u ≤ 0xDFFF then none
    else (ofUnits? (v :: rest)).map (Char.ofNat u :: ·)

/-- A string, after its opening quote. -/
def string? (s : List Char) : Option (Reading (Option String) s.length) :=
  (units? s).map (Reading.map fun units => (ofUnits? units).map String.ofList)

/-! ## Numbers -/

/-- Digits, one at least. -/
def digits? (s : List Char) : Option (List Char) :=
  if (s.takeWhile Char.isDigit).isEmpty then none else some (s.dropWhile Char.isDigit)

/-- What follows a number, after its sign: an integer part without leading zeros, and perhaps a
fraction and an exponent. -/
def afterNumber? (s : List Char) : Option (List Char) := do
  let s ← match s with
    | '0' :: c :: rest => if c.isDigit then none else some (c :: rest)
    | s => digits? s
  let s ← match s with
    | '.' :: rest => digits? rest
    | s => some s
  match s with
  | e :: rest =>
    if e = 'e' || e = 'E' then
      match rest with
      | sign :: rest' => if sign = '+' || sign = '-' then digits? rest' else digits? rest
      | [] => none
    else some s
  | [] => some []

/-- A number at the front of a text. -/
def number? (s : List Char) : Option (Reading Json s.length) := do
  let rest ← match s with
    | '-' :: rest => afterNumber? rest
    | _ => afterNumber? s
  if h : rest.length < s.length then some ⟨.number, rest, h⟩ else none

/-! ## Values -/

/-- A value that is written as a word. -/
def word? (s : List Char) : Option (Reading Json s.length) :=
  match s with
  | 'n' :: 'u' :: 'l' :: 'l' :: s => some ⟨.null, s, by simp only [List.length_cons]; omega⟩
  | 't' :: 'r' :: 'u' :: 'e' :: s => some ⟨.bool true, s, by simp only [List.length_cons]; omega⟩
  | 'f' :: 'a' :: 'l' :: 's' :: 'e' :: s =>
    some ⟨.bool false, s, by simp only [List.length_cons]; omega⟩
  | _ => none

mutual

/-- A value at the front of a text, after blanks. -/
def value? (s : List Char) : Option (Reading Json s.length) :=
  have h₀ := length_skipBlanks_le s
  match h : skipBlanks s with
  | '"' :: rest => (string? rest).map fun r =>
    ⟨.string r.value, r.rest, by have := r.short; simp only [h, List.length_cons] at h₀; omega⟩
  | '[' :: rest =>
    have h₁ : rest.length < s.length := by simp only [h, List.length_cons] at h₀; omega
    (items? rest).map fun r => ⟨.array r.value, r.rest, by have := r.short; omega⟩
  | '\x7b' :: rest =>
    have h₁ : rest.length < s.length := by simp only [h, List.length_cons] at h₀; omega
    (members? rest).map fun r => ⟨.object r.value, r.rest, by have := r.short; omega⟩
  | rest =>
    (word? rest <|> number? rest).map fun r => r.weaken (by simpa only [h] using h₀)
termination_by s.length * 4 + 1

/-- The items of an array, after its opening bracket. -/
def items? (s : List Char) : Option (Reading (List Json) s.length) :=
  have h₀ := length_skipBlanks_le s
  match h : skipBlanks s with
  | ']' :: rest => some ⟨[], rest, by simp only [h, List.length_cons] at h₀; omega⟩
  | _ => moreItems? s
termination_by s.length * 4 + 3

/-- The items of an array from an item on. -/
def moreItems? (s : List Char) : Option (Reading (List Json) s.length) := do
  let item ← value? s
  have h₀ := item.short
  have h₁ := length_skipBlanks_le item.rest
  match h : skipBlanks item.rest with
  | ']' :: rest => some ⟨[item.value], rest, by simp only [h, List.length_cons] at h₁; omega⟩
  | ',' :: rest =>
    have h₂ : rest.length < s.length := by simp only [h, List.length_cons] at h₁; omega
    let others ← moreItems? rest
    some ⟨item.value :: others.value, others.rest, by have := others.short; omega⟩
  | _ => none
termination_by s.length * 4 + 2

/-- The members of an object, after its opening brace. -/
def members? (s : List Char) : Option (Reading (List (String × Json)) s.length) :=
  have h₀ := length_skipBlanks_le s
  match h : skipBlanks s with
  | '\x7d' :: rest => some ⟨[], rest, by simp only [h, List.length_cons] at h₀; omega⟩
  | _ => moreMembers? s
termination_by s.length * 4 + 3

/-- The members of an object from a member on. -/
def moreMembers? (s : List Char) : Option (Reading (List (String × Json)) s.length) :=
  have h₀ := length_skipBlanks_le s
  match h : skipBlanks s with
  | '"' :: rest => do
    let key ← string? rest
    have h₁ := key.short
    have h₂ := length_skipBlanks_le key.rest
    let name ← key.value
    match h' : skipBlanks key.rest with
    | ':' :: rest' =>
      have h₃ : rest'.length < s.length := by
        simp only [h, List.length_cons] at h₀; simp only [h', List.length_cons] at h₂; omega
      let item ← value? rest'
      have h₄ := item.short
      have h₅ := length_skipBlanks_le item.rest
      match h'' : skipBlanks item.rest with
      | '\x7d' :: rest'' =>
        some ⟨[(name, item.value)], rest'', by simp only [h'', List.length_cons] at h₅; omega⟩
      | ',' :: rest'' =>
        have h₆ : rest''.length < s.length := by simp only [h'', List.length_cons] at h₅; omega
        let others ← moreMembers? rest''
        some ⟨(name, item.value) :: others.value, others.rest, by have := others.short; omega⟩
      | _ => none
    | _ => none
  | _ => none
termination_by s.length * 4 + 2

end

/-- Reads a whole text as one value. -/
def parse? (text : String) : Option Json := do
  let r ← value? text.toList
  if (skipBlanks r.rest).isEmpty then some r.value else none

/-! ## Writing -/

/-- The written form of a character in a string. -/
def writeChar (c : Char) : String :=
  if c = '"' then "\\\""
  else if c = '\\' then "\\\\"
  else if c = '\x08' then "\\b"
  else if c = '\x0c' then "\\f"
  else if c = '\n' then "\\n"
  else if c = '\r' then "\\r"
  else if c = '\t' then "\\t"
  else if c.toNat < 0x10 then "\\u000" ++ Text.hex c.toNat
  else if c.toNat < 0x20 then "\\u00" ++ Text.hex c.toNat
  else c.toString

/-- A text as a JSON string. -/
def writeString (s : String) : String :=
  "\"" ++ String.join (s.toList.map writeChar) ++ "\""

end Json

end WebPage
