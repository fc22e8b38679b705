import Gosub.Fault

/-!
Arithmetic. Expressions over `+ - * / ( )` are evaluated while they are read, from left to right:
products before sums, signs before products, and each operation as soon as its right operand is
known. So the first error met in reading order is the one reported.
-/

namespace Gosub.Arithmetic

/-- A binary operation on numbers. -/
abbrev Operation := Float → Float → Except Fault Float

/-- A result is a number only if it is finite. -/
def finite (x : Float) : Except Fault Float :=
  if x.isFinite then .ok x else .error .overflow

/-- The sum of two numbers. -/
def add : Operation := fun x y => finite (x + y)

/-- The difference of two numbers. -/
def subtract : Operation := fun x y => finite (x - y)

/-- The product of two numbers. -/
def multiply : Operation := fun x y => finite (x * y)

/-- The quotient of two numbers. -/
def divide : Operation := fun x y =>
  if y == 0.0 then .error .divisionByZero else finite (x / y)

/-- The operation of a sum sign. -/
def sumOperation? : Token → Option Operation
  | .operator .plus => some add
  | .operator .minus => some subtract
  | _ => none

/-- The operation of a product sign. -/
def productOperation? : Token → Option Operation
  | .operator .times => some multiply
  | .operator .slash => some divide
  | _ => none

/-- Reads a number off the front of a token list and returns the tokens after it. -/
abbrev Reader := List Token → Except Fault (Float × List Token)

/-- Goes on from the left operand `x` for as long as a sign of the rank follows. -/
def chainFrom (operand : Reader) (operation? : Token → Option Operation) : Nat → Float → Reader
  | 0, x, tokens => .ok (x, tokens)
  | _ + 1, x, [] => .ok (x, [])
  | fuel + 1, x, token :: tokens =>
    match operation? token with
    | none => .ok (x, token :: tokens)
    | some apply => do
      let (y, rest) ← operand tokens
      let z ← apply x y
      chainFrom operand operation? fuel z rest

/-- Operands with signs of one rank between them, applied from left to right. -/
def chain (operand : Reader) (operation? : Token → Option Operation) (fuel : Nat) : Reader :=
  fun tokens => do
    let (x, rest) ← operand tokens
    chainFrom operand operation? fuel x rest

/-- A sum of products of factors. -/
def sum (factor : Reader) (fuel : Nat) : Reader :=
  chain (chain factor productOperation? fuel) sumOperation? fuel

/-- A number, a signed factor, or a sum in parentheses. The expression read as a whole is named in
the error. -/
def factor (expression : List Token) : Nat → Reader
  | 0, _ => .error (.malformedExpression expression)
  | fuel + 1, tokens =>
    match tokens with
    | .operator .plus :: rest => factor expression fuel rest
    | .operator .minus :: rest => do
      let (x, rest) ← factor expression fuel rest
      .ok (-x, rest)
    | .number digits :: rest =>
      match Decimal.read? digits with
      | some x => .ok (x, rest)
      | none => .error (.unreadableNumber expression)
    | .operator .leftParen :: rest => do
      let (x, rest) ← sum (factor expression fuel) fuel rest
      match rest with
      | .operator .rightParen :: rest => .ok (x, rest)
      | _ => .error (.malformedExpression expression)
    | _ => .error (.malformedExpression expression)

/-- The value of an arithmetic expression. Every sign and every factor takes at least one token,
so the number of tokens bounds the depth of the reading. -/
def evaluate (tokens : List Token) : Except Fault Float := do
  let (x, rest) ← sum (factor tokens tokens.length) tokens.length tokens
  if rest.isEmpty then .ok x else .error (.malformedExpression tokens)

/-- Whether a token can stand in an arithmetic expression. -/
def admits : Token → Bool
  | .number _ => true
  | .operator op => op.isArithmetic
  | _ => false

/-- The value of a token list as arithmetic; nothing where the list is not made of numbers and
arithmetic signs alone. -/
def evaluate? (tokens : List Token) : Option (Except Fault Float) :=
  if !tokens.isEmpty && tokens.all admits then some (evaluate tokens) else none

end Gosub.Arithmetic

namespace Gosub.Value

/-- Applies an operation to two values, which must both be numbers. -/
def combine (operation : Arithmetic.Operation) : Value → Value → Except Fault Value
  | .number x, .number y => (operation x y).map .number
  | _, _ => .error .operandNotNumber

/-- The sum of two numbers. -/
def add : Value → Value → Except Fault Value := combine Arithmetic.add

/-- The difference of two numbers. -/
def subtract : Value → Value → Except Fault Value := combine Arithmetic.subtract

/-- The product of two numbers. -/
def multiply : Value → Value → Except Fault Value := combine Arithmetic.multiply

/-- The quotient of two numbers. -/
def divide : Value → Value → Except Fault Value := combine Arithmetic.divide

/-- A number with its sign changed. -/
def negate : Value → Except Fault Value
  | .number x => .ok (.number (-x))
  | .text _ => .error .operandNotNumber

end Gosub.Value
