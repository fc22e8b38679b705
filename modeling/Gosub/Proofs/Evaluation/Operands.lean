import Gosub.Evaluation.Arithmetic

/-! Operands are numbers. Evaluated on values, with operations that look at the kind of their
operands, an arithmetic expression has the outcome that it has on numbers: an operand is never a
text, and no operation refuses one.
-/

namespace Gosub.Arithmetic

/-- A binary operation on values. -/
abbrev ValueOperation := Value → Value → Except Fault Value

/-- Reads a value off the front of a token list and returns the tokens after it. -/
abbrev ValueReader := List Token → Except Fault (Value × List Token)

/-- The operation of a sum sign on values. -/
def valueSumOperation? : Token → Option ValueOperation
  | .operator .plus => some Value.add
  | .operator .minus => some Value.subtract
  | _ => none

/-- The operation of a product sign on values. -/
def valueProductOperation? : Token → Option ValueOperation
  | .operator .times => some Value.multiply
  | .operator .slash => some Value.divide
  | _ => none

/-- Goes on from the left operand `a` for as long as a sign of the rank follows. -/
def valueChainFrom (operand : ValueReader) (operation? : Token → Option ValueOperation)
    : Nat → Value → ValueReader
  | 0, a, tokens => .ok (a, tokens)
  | _ + 1, a, [] => .ok (a, [])
  | fuel + 1, a, token :: tokens =>
    match operation? token with
    | none => .ok (a, token :: tokens)
    | some apply => do
      let (b, rest) ← operand tokens
      let c ← apply a b
      valueChainFrom operand operation? fuel c rest

/-- Operands with signs of one rank between them, applied from left to right. -/
def valueChain (operand : ValueReader) (operation? : Token → Option ValueOperation) (fuel : Nat)
    : ValueReader :=
  fun tokens => do
    let (a, rest) ← operand tokens
    valueChainFrom operand operation? fuel a rest

/-- A sum of products of factors. -/
def valueSum (factor : ValueReader) (fuel : Nat) : ValueReader :=
  valueChain (valueChain factor valueProductOperation? fuel) valueSumOperation? fuel

/-- A number, a signed factor, or a sum in parentheses. -/
def valueFactor (expression : List Token) : Nat → ValueReader
  | 0, _ => .error (.malformedExpression expression)
  | fuel + 1, tokens =>
    match tokens with
    | .operator .plus :: rest => valueFactor expression fuel rest
    | .operator .minus :: rest => do
      let (a, rest) ← valueFactor expression fuel rest
      let b ← a.negate
      .ok (b, rest)
    | .number digits :: rest =>
      match Decimal.read? digits with
      | some x => .ok (.number x, rest)
      | none => .error (.unreadableNumber expression)
    | .operator .leftParen :: rest => do
      let (a, rest) ← valueSum (valueFactor expression fuel) fuel rest
      match rest with
      | .operator .rightParen :: rest => .ok (a, rest)
      | _ => .error (.malformedExpression expression)
    | _ => .error (.malformedExpression expression)

/-- The value of an arithmetic expression, by operations on values. -/
def evaluateOnValues (tokens : List Token) : Except Fault Value := do
  let (a, rest) ← valueSum (valueFactor tokens tokens.length) tokens.length tokens
  if rest.isEmpty then .ok a else .error (.malformedExpression tokens)

/-- The number that was read, as a value. -/
def boxed (result : Float × List Token) : Value × List Token :=
  (.number result.1, result.2)

/-- The two readers have the same outcome, up to the box around the number. -/
def Boxes (operand : Reader) (operand' : ValueReader) : Prop :=
  ∀ tokens, operand' tokens = (operand tokens).map boxed

/-- The operations on values are those on numbers, where the operands are numbers. -/
def Lifts (operation? : Token → Option Operation) (operation?' : Token → Option ValueOperation)
    : Prop :=
  ∀ token, operation?' token = (operation? token).map Value.combine

theorem sumOperation?_lifts : Lifts sumOperation? valueSumOperation? := by
  intro token
  cases token with
  | operator op => cases op <;> rfl
  | _ => rfl

theorem productOperation?_lifts : Lifts productOperation? valueProductOperation? := by
  intro token
  cases token with
  | operator op => cases op <;> rfl
  | _ => rfl

/-- Going on from a number stays with numbers, by induction on the fuel. -/
theorem chainFrom_boxes {operand : Reader} {operand' : ValueReader}
    {operation? : Token → Option Operation} {operation?' : Token → Option ValueOperation}
    (boxes : Boxes operand operand') (lifts : Lifts operation? operation?') (fuel : Nat) (x : Float)
    : Boxes (chainFrom operand operation? fuel x)
        (valueChainFrom operand' operation?' fuel (.number x)) := by
  induction fuel generalizing x with
  | zero => exact fun tokens => rfl
  | succ fuel ih =>
      intro tokens
      cases tokens with
      | nil => rfl
      | cons token tokens =>
          rw [chainFrom, valueChainFrom, lifts token]
          cases operation? token with
          | none => rfl
          | some apply =>
              simp only [Option.map_some, boxes tokens]
              cases operand tokens with
              | error fault => rfl
              | ok result =>
                  obtain ⟨y, rest⟩ := result
                  simp only [Except.map, boxed, bind, Except.bind, Value.combine]
                  cases apply x y with
                  | error fault => rfl
                  | ok z => exact ih z rest

theorem chain_boxes {operand : Reader} {operand' : ValueReader}
    {operation? : Token → Option Operation} {operation?' : Token → Option ValueOperation}
    (boxes : Boxes operand operand') (lifts : Lifts operation? operation?') (fuel : Nat)
    : Boxes (chain operand operation? fuel) (valueChain operand' operation?' fuel) := by
  intro tokens
  simp only [chain, valueChain, boxes tokens]
  cases operand tokens with
  | error fault => rfl
  | ok result => exact chainFrom_boxes boxes lifts fuel result.1 result.2

theorem sum_boxes {factor : Reader} {factor' : ValueReader} (boxes : Boxes factor factor')
    (fuel : Nat)
    : Boxes (sum factor fuel) (valueSum factor' fuel) :=
  chain_boxes (chain_boxes boxes productOperation?_lifts fuel) sumOperation?_lifts fuel

/-- Factors are numbers, by induction on the fuel. -/
theorem factor_boxes (expression : List Token) (fuel : Nat)
    : Boxes (factor expression fuel) (valueFactor expression fuel) := by
  induction fuel with
  | zero => exact fun tokens => rfl
  | succ fuel ih =>
      intro tokens
      cases tokens with
      | nil => rfl
      | cons token rest =>
          cases token with
          | number digits =>
              simp only [factor, valueFactor]
              cases Decimal.read? digits <;> rfl
          | operator op =>
              cases op with
              | plus => exact ih rest
              | minus =>
                  simp only [factor, valueFactor, ih rest]
                  cases factor expression fuel rest <;> rfl
              | leftParen =>
                  simp only [factor, valueFactor, sum_boxes ih fuel rest]
                  cases sum (factor expression fuel) fuel rest with
                  | error fault => rfl
                  | ok result =>
                      obtain ⟨x, rest⟩ := result
                      cases rest with
                      | nil => rfl
                      | cons token rest =>
                          cases token with
                          | operator op => cases op <;> rfl
                          | _ => rfl
              | _ => rfl
          | _ => rfl

/-- An arithmetic expression has the same outcome on values as on numbers. -/
theorem evaluateOnValues_eq (tokens : List Token)
    : evaluateOnValues tokens = (evaluate tokens).map .number := by
  have boxes := sum_boxes (factor_boxes tokens tokens.length) tokens.length tokens
  simp only [evaluateOnValues, evaluate, boxes]
  cases sum (factor tokens tokens.length) tokens.length tokens with
  | error fault => rfl
  | ok result =>
      obtain ⟨x, rest⟩ := result
      simp only [Except.map, boxed, bind, Except.bind]
      split <;> rfl

end Gosub.Arithmetic
