import Gosub.Fault

/-!
Joining texts. Where an expression is not arithmetic, its operands are put one after another; `+`
and `-` both only stand between them.
-/

namespace Gosub.Joining

/-- The text of an operand. -/
def part? : Token → Option String
  | .quoted s => some s
  | .number digits => some digits
  | .truth b => some (Token.truthSpelling b)
  | _ => none

/-- Whether a token may stand between two operands. -/
def isJoint : Token → Bool
  | .operator .plus | .operator .minus => true
  | _ => false

/-- The operand `first` followed by joints and further operands, one of each in turn. -/
def join? : Token → List Token → Option String
  | first, [] => part? first
  | _, [_] => none
  | first, joint :: second :: rest =>
    if isJoint joint then do
      let s ← part? first
      let t ← join? second rest
      some (s ++ t)
    else none

/-- The joined text of an expression. An empty expression is the empty text. -/
def evaluate (tokens : List Token) : Except Fault String :=
  match tokens with
  | [] => .ok ""
  | first :: rest =>
    match join? first rest with
    | some s => .ok s
    | none => .error (.malformedJoin tokens)

end Gosub.Joining
