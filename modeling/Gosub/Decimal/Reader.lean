import Gosub.Binary64

/-!
Reading number text. A number is an optional sign followed by `inf`, `infinity` or `nan` in any
case, or by digits with an optional point among them and an optional exponent; it denotes the
nearest double.
-/

namespace Gosub.Decimal

/-- The natural number that a run of decimal digits denotes. -/
def natOfDigits (digits : List Char) : Nat :=
  digits.foldl (fun n c => 10 * n + (c.toNat - '0'.toNat)) 0

/-- A non-empty run of ASCII digits. -/
def isDigits (cs : List Char) : Bool :=
  !cs.isEmpty && cs.all Char.isDigit

/-- The double nearest to `± m · 10 ^ e`. An exponent so large or so small that the result is
infinite or zero anyway is first brought nearer, so that no huge power is computed. -/
def toFloat (negative : Bool) (m : Nat) (e : Int) : Float :=
  let e := max (min e 1100) (-1100 - (m.log2 : Int))
  if 0 ≤ e then Binary64.ofRatio negative (m * Nat.pow 10 e.toNat) 1
  else Binary64.ofRatio negative m (Nat.pow 10 (-e).toNat)

/-- The exponent after the digits: nothing, or `e` with an optional sign and at least one digit.
-/
def readExponent? : List Char → Option Int
  | [] => some 0
  | mark :: cs =>
    if mark = 'e' ∨ mark = 'E' then
      match cs with
      | '-' :: digits => if isDigits digits then some (-(natOfDigits digits : Int)) else none
      | '+' :: digits => if isDigits digits then some (natOfDigits digits) else none
      | digits => if isDigits digits then some (natOfDigits digits) else none
    else none

/-- Digits, an optional point and more digits, and an optional exponent, with at least one digit
before the exponent. -/
def readDigits? (negative : Bool) (cs : List Char) : Option Float :=
  let whole := cs.takeWhile Char.isDigit
  let afterWhole := cs.dropWhile Char.isDigit
  let (fraction, rest) :=
    match afterWhole with
    | '.' :: cs => (cs.takeWhile Char.isDigit, cs.dropWhile Char.isDigit)
    | _ => ([], afterWhole)
  let digits := whole ++ fraction
  if digits.isEmpty then none
  else (readExponent? rest).map fun e =>
    toFloat negative (natOfDigits digits) (e - fraction.length)

/-- A magnitude after the sign. -/
def readMagnitude? (negative : Bool) (cs : List Char) : Option Float :=
  let lower := cs.map Char.toLower
  if lower = ['i', 'n', 'f'] ∨ lower = ['i', 'n', 'f', 'i', 'n', 'i', 't', 'y'] then
    some (Binary64.infinity negative)
  else if lower = ['n', 'a', 'n'] then some Binary64.nan
  else readDigits? negative cs

/-- The double that a number text denotes, where the text is one. -/
def read? (text : String) : Option Float :=
  match text.toList with
  | '-' :: cs => readMagnitude? true cs
  | '+' :: cs => readMagnitude? false cs
  | cs => readMagnitude? false cs

end Gosub.Decimal
