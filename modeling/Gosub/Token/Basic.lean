import Gosub.Token.Keyword
import Gosub.Value

/-! Tokens, the words of a program line, and their text in a listing. -/

namespace Gosub

/-- The marks of one character. -/
inductive Operator where
  | assign | plus | minus | times | slash | comma | semicolon
  | leftParen | rightParen | leftBracket | rightBracket
deriving DecidableEq, Repr

namespace Operator

/-- The character of an operator. -/
def char : Operator → Char
  | .assign => '='
  | .plus => '+'
  | .minus => '-'
  | .times => '*'
  | .slash => '/'
  | .comma => ','
  | .semicolon => ';'
  | .leftParen => '('
  | .rightParen => ')'
  | .leftBracket => '['
  | .rightBracket => ']'

/-- The operator that a character is by itself. The sign of assignment is missing here, because it
also begins the relation `==`. -/
def ofChar? : Char → Option Operator
  | '+' => some .plus
  | '-' => some .minus
  | '*' => some .times
  | '/' => some .slash
  | ',' => some .comma
  | ';' => some .semicolon
  | '(' => some .leftParen
  | ')' => some .rightParen
  | '[' => some .leftBracket
  | ']' => some .rightBracket
  | _ => none

/-- The operators that arithmetic is made of. -/
def isArithmetic : Operator → Bool
  | .plus | .minus | .times | .slash | .leftParen | .rightParen => true
  | _ => false

end Operator

/-- The relations that a condition may test. -/
inductive Relation where
  | equal | notEqual | less | lessEqual | greater | greaterEqual
deriving DecidableEq, Repr

/-- A relation as it stands in a listing. -/
def Relation.spelling : Relation → String
  | .equal => "=="
  | .notEqual => "<>"
  | .less => "<"
  | .lessEqual => "<="
  | .greater => ">"
  | .greaterEqual => ">="

/-- A word of a program line. -/
inductive Token where
  | keyword (k : Keyword)
  /-- The name of a variable. -/
  | name (s : String)
  /-- The name of an array, before its first index. -/
  | indexed (s : String)
  /-- The digits of a number, or the printed form of a number put in the place of a name. -/
  | number (digits : String)
  | quoted (s : String)
  | operator (op : Operator)
  | relation (r : Relation)
  | truth (b : Bool)
deriving DecidableEq, Repr

namespace Token

/-- The text of a truth value. -/
def truthSpelling (b : Bool) : String :=
  if b then "TRUE" else "FALSE"

/-- A token as it stands in a listing. -/
def printed : Token → String
  | .keyword k => k.spelling
  | .name s => s
  | .indexed s => s
  | .number digits => digits
  | .quoted s => "\"" ++ s ++ "\""
  | .operator op => String.singleton op.char
  | .relation r => r.spelling
  | .truth b => truthSpelling b

/-- The token that stands for a value in an expression. -/
def ofValue : Value → Token
  | .number x => .number (Value.printNumber x)
  | .text s => .quoted s

/-- Whether the token tests a relation. -/
def isRelation : Token → Bool
  | .relation _ => true
  | _ => false

/-- The tokens of a line, or of a part of it, with one space between neighbours. -/
def listing (tokens : List Token) : String :=
  " ".intercalate (tokens.map printed)

end Token

end Gosub
