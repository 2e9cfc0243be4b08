/-!
# Blank characters, trimming and words

A page distinguishes two kinds of blank. Token attributes such as `class`, titles and option
labels are cut at the five ASCII blanks. Everything that asks for white space in general (gaps in a
selector, the edges of a style value, names) uses the Unicode property `White_Space`.

## Main definitions

* `Char.isAsciiBlank`, `Char.isBlank`: the two classes
* `words`: the runs between ASCII blanks
* `trim`: a text without the blanks at its two ends
* `lowerAscii`, `equalsIgnoringCase`: the case folding of names
-/

namespace WebPage.Text

/-- Space, tab, line feed, form feed and carriage return. -/
def isAsciiBlank (c : Char) : Bool :=
  c = ' ' || c = '\t' || c = '\n' || c = '\x0c' || c = '\r'

/-- The characters with the Unicode property `White_Space`. -/
def isBlank (c : Char) : Bool :=
  let n := c.toNat
  (0x09 ≤ n && n ≤ 0x0D) || n = 0x20 || n = 0x85 || n = 0xA0 || n = 0x1680 ||
    (0x2000 ≤ n && n ≤ 0x200A) || n = 0x2028 || n = 0x2029 || n = 0x202F || n = 0x205F ||
    n = 0x3000

/-- The control characters: the C0 block, delete, and the C1 block. -/
def isControl (c : Char) : Bool :=
  c.toNat < 0x20 || (0x7F ≤ c.toNat && c.toNat ≤ 0x9F)

theorem isBlank_of_isAsciiBlank {c : Char} (h : isAsciiBlank c = true) : isBlank c = true := by
  simp only [isAsciiBlank, Bool.or_eq_true, decide_eq_true_eq] at h
  rcases h with (((rfl | rfl) | rfl) | rfl) | rfl <;> decide

/-! ## Words -/

/-- The word that is open at the start of a text, and the words after it. -/
def openWord (sep : Char → Bool) : List Char → List Char × List (List Char)
  | [] => ([], [])
  | c :: cs =>
    let (word, rest) := openWord sep cs
    if sep c then ([], if word.isEmpty then rest else word :: rest) else (c :: word, rest)

/-- The maximal runs of characters outside `sep`, in order. -/
def runs (sep : Char → Bool) (cs : List Char) : List (List Char) :=
  let (word, rest) := openWord sep cs
  if word.isEmpty then rest else word :: rest

/-- The words of a text, cut at ASCII blanks; no word is empty. -/
def words (s : String) : List String :=
  (runs isAsciiBlank s.toList).map String.ofList

/-- The words of a text with one space between neighbours. -/
def collapse (s : String) : String :=
  " ".intercalate (words s)

/-! ## Trimming -/

/-- A text without the blanks at its start and at its end. -/
def trim (s : String) : String :=
  String.ofList ((s.toList.dropWhile isBlank).reverse.dropWhile isBlank).reverse

/-- Whether a text holds blanks only. -/
def isBlankText (s : String) : Bool :=
  s.toList.all isBlank

/-! ## ASCII case -/

/-- A text with its ASCII capitals made small; all other characters stay. -/
def lowerAscii (s : String) : String :=
  String.ofList (s.toList.map Char.toLower)

/-- Whether two texts differ in the case of ASCII letters at most. -/
def equalsIgnoringCase (s t : String) : Bool :=
  lowerAscii s == lowerAscii t

end WebPage.Text
