import Gosub.Text.Blank

/-!
Source text. Each line of a source is a number and a command, divided by the first blank after the
number; whether the number is one is decided later.
-/

namespace Gosub

/-- A line of source: the text up to the first blank, and all that follows that blank. -/
structure RawLine where
  number : String
  command : String
deriving DecidableEq, Repr

namespace Source

/-- Removes the carriage return that belongs to a line break. -/
def chomp (line : List Char) : List Char :=
  if line.getLast? = some '\r' then line.dropLast else line

/-- What is left after the first line break is shorter than the text. -/
theorem length_after_break {cs : List Char} {c : Char} {rest : List Char}
    (dropped : cs.dropWhile (· != '\n') = c :: rest)
    : rest.length < cs.length := by
  have bound := (List.dropWhile_sublist (· != '\n') (l := cs)).length_le
  rw [dropped] at bound
  exact bound

/-- The lines of a text. A carriage return before a line break belongs to the break, and a break
at the end of the text opens no further line. -/
def textLines (cs : List Char) : List (List Char) :=
  match dropped : cs.dropWhile (· != '\n') with
  | [] => if cs.isEmpty then [] else [cs]
  | _ :: rest =>
    have := length_after_break dropped
    chomp (cs.takeWhile (· != '\n')) :: textLines rest
termination_by cs.length

/-- Divides a line at the first blank after its first word. -/
def divide (line : List Char) : RawLine :=
  let trimmed := line.dropWhile Text.isBlank
  { number := String.ofList (trimmed.takeWhile (!Text.isBlank ·))
    command := String.ofList (trimmed.dropWhile (!Text.isBlank ·)).tail }

/-- The numbered commands of a source text, in the order of the text. -/
def rawLines (source : String) : List RawLine :=
  (textLines source.toList).map divide

end Source

end Gosub
