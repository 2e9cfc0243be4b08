import WebPage.Style.ColorNames
import WebPage.Style.Token
import WebPage.Text.Blank

/-!
# Colours

A colour is read from its name or from hexadecimal digits. It is written in the shortest of its
forms: hexadecimal digits, one or two for each part, or a name if that is shorter.

## Main definitions

* `Color`: the colours
* `Color.ofHex?`, `Color.ofName?`: reading
* `Color.write`: the shortest form
-/

namespace WebPage.Style

/-- A colour by its parts, or the colour of the text around. -/
inductive Color where
  /-- Red, green and blue with two hexadecimal digits each in one number, and the opacity, which is
  255 at most. -/
  | rgba (rgb : Nat) (alpha : Nat)
  | current
deriving DecidableEq, Repr

namespace Color

/-- The colour that hexadecimal digits spell: one or two digits for each of red, green and blue, and
perhaps as many for the opacity. -/
def ofHex? (digits : List Char) : Option Color :=
  if digits.all isHexDigit then
    let double (ds : List Char) := natOfHex (ds.flatMap fun c => [c, c])
    match digits.length with
    | 3 => some (.rgba (double digits) 255)
    | 4 => some (.rgba (double (digits.take 3)) (double (digits.drop 3)))
    | 6 => some (.rgba (natOfHex digits) 255)
    | 8 => some (.rgba (natOfHex (digits.take 6)) (natOfHex (digits.drop 6)))
    | _ => none
  else none

/-- The colour that a name means, in whatever case. -/
def ofName? (name : String) : Option Color :=
  match Text.lowerAscii name with
  | "transparent" => some (.rgba 0 0)
  | "currentcolor" => some .current
  | name => (colorNames.lookup name).map fun rgb => .rgba rgb 255

/-- A number in hexadecimal digits, filled up with zeros to a width. -/
def hexPadded (width n : Nat) : List Char :=
  let ds := Nat.toDigits 16 n
  List.replicate (width - ds.length) '0' ++ ds

/-- Every second of some digits, if each digit stands twice. -/
def halve? : List Char → Option (List Char)
  | a :: b :: rest => if a = b then (halve? rest).map (a :: ·) else none
  | [] => some []
  | [_] => none

/-- The shortest hexadecimal form of digits. -/
def writeHex (digits : List Char) : String :=
  String.ofList ('#' :: (halve? digits).getD digits)

/-- The shortest name of an opaque colour; of two that are as short, the first. -/
def shortestName? (rgb : Nat) : Option String :=
  (colorNames.filter fun entry => entry.2 == rgb).foldl (fun best entry =>
    match best with
    | some name => if entry.1.length < name.length then some entry.1 else best
    | none => some entry.1) none

/-- The shortest form of a colour. -/
def write : Color → String
  | current => "currentColor"
  | rgba rgb alpha =>
    if alpha = 255 then
      let digits := writeHex (hexPadded 6 rgb)
      match shortestName? rgb with
      | some name => if name.length < digits.length then name else digits
      | none => digits
    else writeHex (hexPadded 6 rgb ++ hexPadded 2 alpha)

end Color

end WebPage.Style
