import Gosub.Program.Source
import Gosub.Token.Lexer
import Std.Data.TreeMap

/-!
Programs. A program is the table of its lines in ascending order of their numbers; a position
counts lines of the table. A later definition of a line replaces an earlier one, and what has no
line number is left out.
-/

namespace Gosub

/-- A numbered line of a program. -/
structure Line where
  number : Nat
  tokens : List Token
deriving DecidableEq, Repr

namespace Line

/-- Reads the command of a line; an error in it is placed on the line. -/
def read (number : Nat) (command : String) : Except Error Line :=
  match Lexer.tokens command.toList with
  | .ok tokens => .ok { number, tokens }
  | .error fault => .error { fault, line := some number }

/-- The line as it stands in a listing. -/
def printed (line : Line) : String :=
  toString line.number ++ " " ++ Token.listing line.tokens

end Line

/-- Line numbers are below this bound: they are held in 32 bits. -/
def lineNumberBound : Nat := 0x100000000

/-- The line number that a text denotes: ASCII digits only, and below the bound. -/
def lineNumber? (text : String) : Option Nat :=
  if Decimal.isDigits text.toList then
    let number := Decimal.natOfDigits text.toList
    if number < lineNumberBound then some number else none
  else none

/-- The lines of a program in the order of execution. -/
structure Program where
  lines : Array Line
deriving DecidableEq, Repr

namespace Program

/-- Enters a line of source into the table, in place of an earlier line with its number. A line
without a number is passed over, unread. -/
def enter (table : Std.TreeMap Nat Line) (raw : RawLine) : Except Error (Std.TreeMap Nat Line) :=
  match lineNumber? raw.number with
  | none => .ok table
  | some number => (Line.read number raw.command).map (table.insert number)

/-- Builds the program of a list of source lines; the first line that cannot be read decides the
error. -/
def build (raw : List RawLine) : Except Error Program :=
  (raw.foldlM enter ∅).map fun table => { lines := table.values.toArray }

/-- Reads the program of a source text. -/
def parse (source : String) : Except Error Program :=
  build (Source.rawLines source)

/-- The program of one line whose tokens are already read. -/
def single (number : Nat) (tokens : List Token) : Program where
  lines := #[{ number, tokens }]

/-- The number of lines. -/
def size (program : Program) : Nat :=
  program.lines.size

/-- The line at a position. -/
def line? (program : Program) (position : Nat) : Option Line :=
  program.lines[position]?

/-- Binary search for a line number between two positions. -/
def searchBetween (lines : Array Line) (number low high : Nat) : Option Nat :=
  if low < high then
    let middle := (low + high) / 2
    match lines[middle]? with
    | none => none
    | some line =>
      if line.number = number then some middle
      else if line.number < number then searchBetween lines number (middle + 1) high
      else searchBetween lines number low middle
  else none
termination_by high - low

/-- The position of the line with the given number. -/
def indexOf? (program : Program) (number : Nat) : Option Nat :=
  searchBetween program.lines number 0 program.lines.size

end Program

end Gosub
