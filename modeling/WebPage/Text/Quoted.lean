import WebPage.Text.PrintTable
import WebPage.Text.Ranges

/-!
# Quoted text

A text between double quotes, as messages show it: the quote and the backslash are escaped, the
common controls have letters, and a character that would not show, or would join its neighbour, is
written by its code point in hexadecimal.

## Main definitions

* `escapeChar`: the written form of one character
* `quote`: a text in quotes
-/

namespace WebPage.Text

/-- A number in small hexadecimal digits, without leading zeros. -/
def hex (n : Nat) : String :=
  String.ofList (Nat.toDigits 16 n)

/-- Whether a character is written as itself inside quotes. -/
def showsAsItself (c : Char) : Bool :=
  if c.toNat < 0x7F then 0x20 ≤ c.toNat
  else !inRanges unprintableRanges c.toNat && !inRanges graphemeExtendRanges c.toNat

/-- The written form of one character inside quotes. -/
def escapeChar (c : Char) : String :=
  if c = '"' then "\\\""
  else if c = '\\' then "\\\\"
  else if c = '\n' then "\\n"
  else if c = '\r' then "\\r"
  else if c = '\t' then "\\t"
  else if c.toNat = 0 then "\\0"
  else if showsAsItself c then c.toString
  else "\\u\x7b" ++ hex c.toNat ++ "\x7d"

/-- A text between double quotes, with escapes where a character would not show as itself. -/
def quote (s : String) : String :=
  "\"" ++ String.join (s.toList.map escapeChar) ++ "\""

end WebPage.Text
