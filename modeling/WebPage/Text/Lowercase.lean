import WebPage.Text.CaseTable
import WebPage.Text.Ranges

/-!
# Lower-casing a text

The full lower case of a text, for comparisons that ignore case. It maps character by character,
with two exceptions: the dotted capital I becomes two characters, and a capital sigma at the end of
a word becomes the final sigma.

## Main definitions

* `lowerChar`: the lower case of one character
* `lowercase`: the lower case of a text
-/

namespace WebPage.Text

/-- The lower case of one character, where its neighbours do not matter. -/
def lowerChar (c : Char) : List Char :=
  if c.toNat < 0x80 then [c.toLower]
  else if c.toNat = 0x130 then ['i', Char.ofNat 0x307]
  else
    match lowerRuns.find? fun (first, last, step, _) =>
        first ≤ c.toNat && c.toNat ≤ last && (c.toNat - first) % step = 0 with
    | some (first, _, _, lower) => [Char.ofNat (lower + (c.toNat - first))]
    | none => [c]

/-- Whether a cased character is the first one that is not ignored by casing. -/
def startsCased (cs : List Char) : Bool :=
  match cs.dropWhile fun c => inRanges caseIgnorableRanges c.toNat with
  | [] => false
  | c :: _ => inRanges casedRanges c.toNat

/-- The lower case of `cs`, where `before` holds the characters in front of it, last one first. A
capital sigma that ends a word, so after a cased character and not before one, is final. -/
def lowercaseAfter (before : List Char) : List Char → List Char
  | [] => []
  | c :: cs =>
    let small :=
      if c.toNat = 0x3A3 then
        if startsCased before && !startsCased cs then [Char.ofNat 0x3C2] else [Char.ofNat 0x3C3]
      else lowerChar c
    small ++ lowercaseAfter (c :: before) cs

/-- The lower case of a text. -/
def lowercase (s : String) : String :=
  String.ofList (lowercaseAfter [] s.toList)

end WebPage.Text
