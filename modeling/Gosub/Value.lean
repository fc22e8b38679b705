import Gosub.Decimal.Layout
import Gosub.Decimal.Reader

/-!
Values of running programs. A value is a number or a text; text that looks like a natural number
becomes one wherever it is stored or compared.
-/

namespace Gosub

/-- What variables and array cells hold and expressions evaluate to. -/
inductive Value where
  | number (x : Float)
  | text (s : String)
deriving DecidableEq, Repr, Inhabited

namespace Value

/-- The double that a run of digits denotes. -/
def digitsValue (digits : List Char) : Float :=
  Decimal.toFloat false (Decimal.natOfDigits digits) 0

/-- Types a text by its shape: a non-empty run of ASCII digits is a number. -/
def ofShape (s : String) : Value :=
  if Decimal.isDigits s.toList then .number (digitsValue s.toList) else .text s

/-- Types a value by its shape; a number stays what it is. -/
def typed : Value → Value
  | .number x => .number x
  | .text s => ofShape s

/-- Ten to the power of 15, below which whole numbers are printed digit by digit. -/
def wholeLimit : Nat := 1000000000000000

/-- The text of a number. A whole number below the limit is printed as an integer, so that a
negative zero prints as `0`. -/
def printNumber (x : Float) : String :=
  match Binary64.whole? x with
  | some n => if n.natAbs < wholeLimit then toString n else Layout.plain.write x
  | none => Layout.plain.write x

/-- The text that `PRINT` writes for a value. -/
def printed : Value → String
  | .number x => printNumber x
  | .text s => s

/-- Whether a condition that evaluates to this value holds. -/
def isTrue : Value → Bool
  | .number x => !(x == 0.0)
  | .text s => !s.isEmpty && s != "FALSE"

end Value

end Gosub
