import Gosub.Environment.Basic
import Gosub.Evaluation.Arithmetic
import Gosub.Evaluation.Comparison
import Gosub.Evaluation.Indices
import Gosub.Evaluation.Joining

/-!
Expressions. The value of every name is put in its place as a token; what results is evaluated as
arithmetic where it is that, and joined as text otherwise.
-/

namespace Gosub

/-- The value of an expression without names. -/
def calculate (tokens : List Token) : Except Fault Value :=
  match Arithmetic.evaluate? tokens with
  | some result => result.map .number
  | none => (Joining.evaluate tokens).map .text

namespace Environment

/-- Puts the value of every variable and every array cell in the place of its name. Index
expressions are evaluated the same way, each before the cell that it addresses. -/
def substitute (env : Environment) (tokens : List Token) : Except Fault (List Token) :=
  match tokens with
  | [] => .ok []
  | .name name :: rest => do
    let value ← env.read name
    let rest ← env.substitute rest
    .ok (Token.ofValue value :: rest)
  | .indexed name :: rest =>
    match divided : Indices.split rest with
    | .error fault => .error fault
    | .ok (groups, after) => do
      have shorter := Indices.length_lt_of_split divided
      let indices ← groups.attach.mapM fun ⟨group, member⟩ => do
        have := shorter.1 group member
        let tokens ← env.substitute group
        calculate tokens
      let value ← env.fetchCell name indices
      have := shorter.2
      let after ← env.substitute after
      .ok (Token.ofValue value :: after)
  | token :: rest => do
    let rest ← env.substitute rest
    .ok (token :: rest)
termination_by tokens.length

/-- The value of an expression. -/
def evaluate (env : Environment) (tokens : List Token) : Except Fault Value := do
  let tokens ← env.substitute tokens
  calculate tokens

/-- The values of several expressions, from left to right. -/
def evaluateAll (env : Environment) (groups : List (List Token)) : Except Fault (List Value) :=
  groups.mapM env.evaluate

/-- The truth of a condition: one relation between two expressions, or an expression alone. -/
def test (env : Environment) (tokens : List Token) : Except Fault Bool :=
  match tokens.dropWhile (!Token.isRelation ·) with
  | .relation relation :: right =>
    if right.any Token.isRelation then .error .severalRelations
    else do
      let a ← env.evaluate (tokens.takeWhile (!Token.isRelation ·))
      let b ← env.evaluate right
      .ok (relation.holds a b)
  | _ => (env.evaluate tokens).map Value.isTrue

/-- Whether a condition holds; one that cannot be evaluated does not. -/
def holds (env : Environment) (tokens : List Token) : Bool :=
  match env.test tokens with
  | .ok truth => truth
  | .error _ => false

end Environment

end Gosub
