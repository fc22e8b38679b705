import Gosub.Token.Basic

/-!
Comparison of values. Both sides are typed by their shape first; two numbers compare as numbers,
anything else by printed form, code point by code point.
-/

namespace Gosub

/-- The order of two numbers; none where one of them is not a number. -/
def compareNumbers? (x y : Float) : Option Ordering :=
  if x < y then some .lt
  else if x == y then some .eq
  else if y < x then some .gt
  else none

/-- The order of two values. -/
def Value.compare? (a b : Value) : Option Ordering :=
  match a.typed, b.typed with
  | .number x, .number y => compareNumbers? x y
  | a, b => some (compare a.printed b.printed)

namespace Relation

/-- Whether a relation holds of two values in the given order. -/
def accepts : Relation → Ordering → Bool
  | .equal, order => order == .eq
  | .notEqual, order => order != .eq
  | .less, order => order == .lt
  | .lessEqual, order => order != .gt
  | .greater, order => order == .gt
  | .greaterEqual, order => order != .lt

/-- Whether a relation holds of two values. Values without an order are only unequal. -/
def holds (relation : Relation) (a b : Value) : Bool :=
  match a.compare? b with
  | some order => relation.accepts order
  | none => relation == .notEqual

end Relation

end Gosub
