import Gosub.Token.Basic

/-!
Everything that can go wrong, by cause. A cause has a kind, whose title opens the message, and a
detail that closes it; an error is a cause with the line it happened on.
-/

namespace Gosub

/-- The kinds of errors. -/
inductive Kind where
  | lexical | statement | undefinedToken | assignment | arrayArity | arrayForm | loopMismatch
  | runawayLoop | undeclaredVariable | undeclaredArray | arithmetic | joining | typing
  | undefinedLine | memory | internal
deriving DecidableEq, Repr

namespace Kind

/-- The words that open the message of an error. -/
def title : Kind → String
  | .lexical => "LEX ERROR"
  | .statement => "SYNTAX ERROR"
  | .undefinedToken => "UNDEFINED TOKEN"
  | .assignment => "LET ERROR"
  | .arrayArity => "ARRAY ARITY ERROR"
  | .arrayForm => "ARRAY SYNTAX ERROR"
  | .loopMismatch => "FOR LOOP MISMATCH"
  | .runawayLoop => "RUNAWAY LOOP"
  | .undeclaredVariable => "VARIABLE NOT DECLARED"
  | .undeclaredArray => "ARRAY NOT DECLARED"
  | .arithmetic => "ARITHMETIC ERROR"
  | .joining => "STRING EVAL ERROR"
  | .typing => "TYPE ERROR"
  | .undefinedLine => "UNDEFINED LINE"
  | .memory => "OUT OF MEMORY"
  | .internal => "INTERNAL ERROR"

/-- The number of an error kind. -/
def code : Kind → Nat
  | .lexical => 1
  | .statement => 2
  | .undefinedToken => 3
  | .assignment => 4
  | .arrayArity => 5
  | .arrayForm => 6
  | .loopMismatch => 7
  | .runawayLoop => 8
  | .undeclaredVariable => 9
  | .undeclaredArray => 10
  | .arithmetic => 11
  | .joining => 12
  | .typing => 13
  | .undefinedLine => 14
  | .memory => 15
  | .internal => 51

/-- The message of an error: the title, the line after `IN`, and the detail after a semicolon. -/
def message (kind : Kind) (line : Option Nat) (detail : String) : String :=
  let place :=
    match line with
    | some number => " IN " ++ toString number
    | none => ""
  let reason := if detail.isEmpty then "" else "; " ++ detail
  kind.title ++ place ++ reason

end Kind

/-- The most iterations that one loop may run. -/
def maxIterations : Nat := 100000

/-- The cause of an error. -/
inductive Fault where
  | malformedNumber
  | unterminatedText
  | emptyLine
  | unexpectedToken (token : Token)
  | ifWithoutThen
  | forWithoutTo
  | stepBeforeTo
  | nextForm (arguments : List Token)
  | inputForm
  | loadForm
  | importWithoutAs
  | importForm
  | exportForm
  | severalRelations
  | undefinedKeyword (keyword : Keyword)
  | letForm (arguments : List Token)
  | forForm (arguments : List Token)
  | cellWithoutAssign (name : String)
  | tooManyIndices
  | tooFewIndices
  | missingBracket
  | emptyIndex
  | expectedBracket
  | zeroDimension
  | invalidDimension (value : Value)
  | unnamedArray
  | arrayForm (arguments : List Token)
  | nextWithoutFor
  | nextInsideFor (named innermost : String)
  | runawayLoop (name : String)
  | undeclaredVariable (name : String)
  | undeclaredCell (name key : String)
  | undeclaredArray (name : String)
  | divisionByZero
  | overflow
  | malformedExpression (tokens : List Token)
  | unreadableNumber (tokens : List Token)
  | malformedJoin (tokens : List Token)
  | operandNotNumber
  | nameWithoutAssign (name : String)
  | notANumber (subject text : String)
  | undefinedLine (target : String)
  | tooManyVariables
  | stackOverflow (title : String)
  | unknownEnvironment (name : String)
  | missingEnvironment (id : Nat)
deriving DecidableEq, Repr

namespace Fault

/-- The kind of error that a cause makes. -/
def kind : Fault → Kind
  | .malformedNumber | .unterminatedText => .lexical
  | .emptyLine | .unexpectedToken _ | .ifWithoutThen | .forWithoutTo | .stepBeforeTo | .nextForm _
  | .inputForm | .loadForm | .importWithoutAs | .importForm | .exportForm | .severalRelations =>
    .statement
  | .undefinedKeyword _ => .undefinedToken
  | .letForm _ | .forForm _ | .cellWithoutAssign _ => .assignment
  | .tooManyIndices | .tooFewIndices => .arrayArity
  | .missingBracket | .emptyIndex | .expectedBracket | .zeroDimension | .invalidDimension _
  | .unnamedArray | .arrayForm _ => .arrayForm
  | .nextWithoutFor | .nextInsideFor _ _ => .loopMismatch
  | .runawayLoop _ => .runawayLoop
  | .undeclaredVariable _ | .undeclaredCell _ _ => .undeclaredVariable
  | .undeclaredArray _ => .undeclaredArray
  | .divisionByZero | .overflow | .malformedExpression _ | .unreadableNumber _ => .arithmetic
  | .malformedJoin _ => .joining
  | .operandNotNumber | .nameWithoutAssign _ | .notANumber _ _ => .typing
  | .undefinedLine _ => .undefinedLine
  | .tooManyVariables | .stackOverflow _ => .memory
  | .unknownEnvironment _ | .missingEnvironment _ => .internal

/-- The part of the message that tells this cause from others of its kind. -/
def detail : Fault → String
  | .malformedNumber => "COULD NOT PARSE NUMBER"
  | .unterminatedText => "UNTERMINATED STRING"
  | .emptyLine => "EMPTY LINE"
  | .unexpectedToken token => "UNEXPECTED " ++ token.printed
  | .ifWithoutThen => "IF WITHOUT THEN"
  | .forWithoutTo => "FOR WITHOUT TO"
  | .stepBeforeTo => "STEP BEFORE TO"
  | .nextForm arguments => "NEXT " ++ Token.listing arguments
  | .inputForm => "INPUT NEEDS ; VARIABLE"
  | .loadForm => "LOAD NEEDS NOW, MS OR SEC"
  | .importWithoutAs => "IMPORT WITHOUT AS"
  | .importForm => "IMPORT NEEDS AS VARIABLE"
  | .exportForm => "EXPORT NEEDS A VARIABLE"
  | .severalRelations => "MORE THAN ONE RELATIONAL OPERATOR"
  | .undefinedKeyword keyword => keyword.spelling
  | .letForm arguments => Token.listing arguments
  | .forForm arguments => "FOR " ++ Token.listing arguments
  | .cellWithoutAssign name => name ++ "[] IS NOT FOLLOWED BY ="
  | .tooManyIndices => "TOO MANY INDICES"
  | .tooFewIndices => "TOO FEW INDICES"
  | .missingBracket => "MISSING ]"
  | .emptyIndex => "EMPTY INDEX"
  | .expectedBracket => "EXPECTED ["
  | .zeroDimension => "DIMENSION MUST BE AT LEAST 1"
  | .invalidDimension value => "INVALID DIMENSION " ++ value.printed
  | .unnamedArray => "ARRAY NEEDS A NAME"
  | .arrayForm arguments => Token.listing arguments
  | .nextWithoutFor => "NEXT WITHOUT FOR"
  | .nextInsideFor named innermost => "NEXT " ++ named ++ " INSIDE FOR " ++ innermost
  | .runawayLoop name => name ++ " PASSED " ++ toString maxIterations ++ " ITERATIONS"
  | .undeclaredVariable name => name
  | .undeclaredCell name key => name ++ "[" ++ key ++ "]"
  | .undeclaredArray name => name
  | .divisionByZero => "DIVISION BY ZERO"
  | .overflow => "OVERFLOW"
  | .malformedExpression tokens => "MALFORMED EXPRESSION " ++ Token.listing tokens
  | .unreadableNumber tokens => "MALFORMED EXPRESSION " ++ Token.listing tokens
  | .malformedJoin tokens => Token.listing tokens
  | .operandNotNumber => ""
  | .nameWithoutAssign name => name ++ " IS NOT FOLLOWED BY ="
  | .notANumber subject text => subject ++ " IS NOT A NUMBER: " ++ text
  | .undefinedLine target => target
  | .tooManyVariables => "TOO MANY VARIABLES"
  | .stackOverflow title => title
  | .unknownEnvironment name => "NO RUNTIME NAMED " ++ name
  | .missingEnvironment id => "RUNTIME " ++ toString id ++ " MISSING"

end Fault

/-- A fault and, once it is known, the number of the line that it happened on. -/
structure Error where
  fault : Fault
  line : Option Nat := none
deriving DecidableEq, Repr

namespace Error

/-- The line of an error that is met again on line `number`: the first line met stays. -/
def firstLine (line : Option Nat) (number : Nat) : Option Nat :=
  line.or (some number)

/-- Places an error on a line, unless it is already on one. -/
def atLine (error : Error) (number : Nat) : Error :=
  { error with line := firstLine error.line number }

/-- The error as it is shown to the user. -/
def message (error : Error) : String :=
  error.fault.kind.message error.line error.fault.detail

end Error

end Gosub
