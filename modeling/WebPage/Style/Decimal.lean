/-!
# Decimal numbers in styles

The numbers of a style keep their decimal digits. They are written with six significant digits at
most, without a plus sign, without zeros that say nothing, and without the zero in front of the
point.

## Main definitions

* `Decimal`: a sign, digits and a power of ten
* `Decimal.ofDigits`: the number that digits spell
* `Decimal.round`: the nearest number with a given count of digits
* `Decimal.write`: the written form
-/

namespace WebPage.Style

/-- The number `± digits * 10 ^ exponent`. -/
structure Decimal where
  negative : Bool
  digits : Nat
  exponent : Int
deriving DecidableEq, Repr

namespace Decimal

/-- The number of times that ten divides `n`, counted up to `bound`, and the quotient. -/
def dropZeros : Nat → Nat → Nat × Nat
  | 0, n => (0, n)
  | bound + 1, n =>
    if n % 10 = 0 then
      let (count, rest) := dropZeros bound (n / 10)
      (count + 1, rest)
    else (0, n)

/-- The same number with no zero at the end of its digits. -/
def normalize (d : Decimal) : Decimal :=
  if d.digits = 0 then { d with exponent := 0 }
  else
    let (count, digits) := dropZeros (Nat.toDigits 10 d.digits).length d.digits
    { d with digits, exponent := d.exponent + count }

/-- The number that decimal digits spell. -/
def natOfDigits (ds : List Char) : Nat :=
  ds.foldl (fun n c => n * 10 + (c.toNat - '0'.toNat)) 0

/-- The number that a sign, the digits before and after the point, and an exponent spell. -/
def ofDigits (negative : Bool) (whole fraction : List Char) (exponent : Int) : Decimal :=
  normalize ⟨negative, natOfDigits (whole ++ fraction), exponent - fraction.length⟩

/-- Whether the number is zero, of whatever sign. -/
def isZero (d : Decimal) : Bool :=
  d.digits = 0

/-- A hundredth of the number. -/
def percent (d : Decimal) : Decimal :=
  if d.isZero then d else { d with exponent := d.exponent - 2 }

/-- The integer part of the number. -/
def toInt (d : Decimal) : Int :=
  let size : Nat :=
    if 0 ≤ d.exponent then d.digits * Nat.pow 10 d.exponent.toNat
    else d.digits / Nat.pow 10 (-d.exponent).toNat
  if d.negative then -size else size

/-- The nearest number with at most `count` digits; a half is rounded away from zero. -/
def round (count : Nat) (d : Decimal) : Decimal :=
  let excess := (Nat.toDigits 10 d.digits).length - count
  if excess = 0 then d
  else
    let unit := Nat.pow 10 excess
    normalize ⟨d.negative, (d.digits + unit / 2) / unit, d.exponent + excess⟩

/-- The digits of a positive number with a point after the first `point` of them; very large and
very small numbers have the point after the first digit and an exponent. -/
def place (digits : List Char) (point : Int) : List Char :=
  let count : Int := digits.length
  if 0 < point && point ≤ 21 then
    if count ≤ point then digits ++ List.replicate (point - count).toNat '0'
    else digits.take point.toNat ++ '.' :: digits.drop point.toNat
  else if -5 < point && point ≤ 0 then '0' :: '.' :: (List.replicate (-point).toNat '0' ++ digits)
  else
    let mantissa := match digits with
      | [d] => [d]
      | d :: ds => d :: '.' :: ds
      | [] => []
    mantissa ++ 'e' :: (toString (point - 1)).toList

/-- The written form of a number with its zero in front of the point. -/
def writeFull (d : Decimal) : String :=
  let sign := if d.negative then "-" else ""
  let d := d.round 6
  let digits := Nat.toDigits 10 d.digits
  if d.isZero then sign ++ "0"
  else sign ++ String.ofList (place digits (digits.length + d.exponent))

/-- The written form of a number; a fraction starts with its point. -/
def write (d : Decimal) : String :=
  match d.writeFull.toList with
  | '0' :: '.' :: rest => String.ofList ('.' :: rest)
  | '-' :: '0' :: '.' :: rest => String.ofList ('-' :: '.' :: rest)
  | _ => d.writeFull

end Decimal

end WebPage.Style
