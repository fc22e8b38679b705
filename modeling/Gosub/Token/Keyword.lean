/-! The reserved words of the language. -/

namespace Gosub

/-- A reserved word, named by its spelling. -/
inductive Keyword where
  | PRINT | LET | GOTO | ARRAY | INPUT | END | IF | THEN | ELSE | FOR | TO | STEP | NEXT | GOSUB
  | NAMESPACE | LOAD | IMPORT | AS | RETURN | PLOT | DISPLAY | DRAW | TEXT | PAUSE | EXPORT
  | CLS | CLT | CLC | REM
deriving DecidableEq, Repr

namespace Keyword

/-- Every reserved word once. -/
def all : List Keyword :=
  [.PRINT, .LET, .GOTO, .ARRAY, .INPUT, .END, .IF, .THEN, .ELSE, .FOR, .TO, .STEP, .NEXT, .GOSUB,
    .NAMESPACE, .LOAD, .IMPORT, .AS, .RETURN, .PLOT, .DISPLAY, .DRAW, .TEXT, .PAUSE, .EXPORT,
    .CLS, .CLT, .CLC, .REM]

/-- The word as it stands in a listing. -/
def spelling : Keyword → String
  | .PRINT => "PRINT"
  | .LET => "LET"
  | .GOTO => "GOTO"
  | .ARRAY => "ARRAY"
  | .INPUT => "INPUT"
  | .END => "END"
  | .IF => "IF"
  | .THEN => "THEN"
  | .ELSE => "ELSE"
  | .FOR => "FOR"
  | .TO => "TO"
  | .STEP => "STEP"
  | .NEXT => "NEXT"
  | .GOSUB => "GOSUB"
  | .NAMESPACE => "NAMESPACE"
  | .LOAD => "LOAD"
  | .IMPORT => "IMPORT"
  | .AS => "AS"
  | .RETURN => "RETURN"
  | .PLOT => "PLOT"
  | .DISPLAY => "DISPLAY"
  | .DRAW => "DRAW"
  | .TEXT => "TEXT"
  | .PAUSE => "PAUSE"
  | .EXPORT => "EXPORT"
  | .CLS => "CLS"
  | .CLT => "CLT"
  | .CLC => "CLC"
  | .REM => "REM"

/-- The reserved word with exactly this spelling. -/
def ofSpelling? (s : String) : Option Keyword :=
  all.find? fun keyword => keyword.spelling == s

end Keyword

end Gosub
