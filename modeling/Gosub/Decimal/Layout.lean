import Gosub.Decimal.Shortest

/-!
Layouts of number text. The digits are always the shortest ones that read back; a layout decides
when they are written with an exponent and whether a whole number shows a point.
-/

namespace Gosub

namespace Decimal

/-- The decimal digits of a natural number. -/
def digitChars (n : Nat) : List Char :=
  Nat.toDigits 10 n

/-- The exponent of the power of ten that the leading digit counts. -/
def leadingExponent (d : Decimal) : Int :=
  d.exponent + (digitChars d.digits).length - 1

/-- Digits, point and zeros without an exponent; `wholeTail` follows the digits of a whole number.
-/
def positional (wholeTail : List Char) (d : Decimal) : List Char :=
  let digits := digitChars d.digits
  if 0 ≤ d.exponent then digits ++ List.replicate d.exponent.toNat '0' ++ wholeTail
  else
    let places := (-d.exponent).toNat
    let padded := List.replicate (places + 1 - digits.length) '0' ++ digits
    padded.take (padded.length - places) ++ '.' :: padded.drop (padded.length - places)

/-- One digit, the others after a point, and the exponent after `e`. -/
def scientific (d : Decimal) : List Char :=
  let mantissa :=
    match digitChars d.digits with
    | first :: second :: rest => first :: '.' :: second :: rest
    | digits => digits
  mantissa ++ 'e' :: (toString d.leadingExponent).toList

end Decimal

/-- How the text of a number is laid out. -/
structure Layout where
  /-- The leading exponents of the numbers written without an exponent. -/
  positional : Int → Bool
  /-- What follows the digits of a whole number written without an exponent. -/
  wholeTail : List Char

namespace Layout

/-- Program output never shows an exponent, and a whole number has no point. -/
def plain : Layout where
  positional := fun _ => true
  wholeTail := []

/-- Reports always show a point or an exponent; the exponent is written below `10 ^ -4` and from
`10 ^ 16` on. -/
def report : Layout where
  positional := fun k => -4 ≤ k && k < 16
  wholeTail := ['.', '0']

/-- The text of a non-negative decimal. -/
def writeDecimal (layout : Layout) (d : Decimal) : List Char :=
  if layout.positional d.leadingExponent then d.positional layout.wholeTail else d.scientific

/-- The text of a double. -/
def write (layout : Layout) (x : Float) : String :=
  match Binary64.view x with
  | .notANumber => "NaN"
  | .infinite negative => if negative then "-inf" else "inf"
  | .finite negative m q =>
    let decimal := if m = 0 then { digits := 0, exponent := 0 } else Decimal.shortest m q
    let digits := layout.writeDecimal decimal
    String.ofList (if negative then '-' :: digits else digits)

end Layout

end Gosub
