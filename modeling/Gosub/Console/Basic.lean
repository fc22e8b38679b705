import Gosub.Machine.Request

/-!
The console: what appears on it for each request, and what a line typed on it replies. The console
in memory does the same to a given input.
-/

namespace Gosub

namespace Console

/-- Text in bold type. -/
def bold (text : String) : String :=
  "\x1b[1m" ++ text ++ "\x1b[0m"

/-- What appears on the console for a request. -/
def shown : Request → String
  | .input prompt => prompt
  | .diagnostic text => bold text
  | request => request.transcript

/-- Whether a character belongs to the end of a line. -/
def isLineEnd (c : Char) : Bool :=
  c == '\r' || c == '\n'

/-- The reply of a line, without the line ends after it. -/
def reply (line : List Char) : String :=
  String.ofList (line.reverse.dropWhile isLineEnd).reverse

end Console

/-- The state of a console in memory. -/
structure Console where
  /-- The input not yet read. -/
  input : List Char
  output : String := ""

namespace Console

/-- Divides the input after its first line break. -/
def splitLine (input : List Char) : List Char × List Char :=
  let line := input.takeWhile (· != '\n')
  match input.dropWhile (· != '\n') with
  | [] => (line, [])
  | mark :: rest => (line ++ [mark], rest)

/-- The console in memory, with the files that can be loaded. -/
def host (files : String → Option String) : Responder Console where
  answer request console :=
    let console := { console with output := console.output ++ shown request }
    match request with
    | .write _ => ((), console)
    | .input _ =>
      let (line, rest) := splitLine console.input
      (reply line, { console with input := rest })
    | .diagnostic _ => ((), console)
    | .clock => ((0 : Int), console)
    | .delay _ => ((), console)
    | .load path =>
      match files path with
      | some text => (.ok (.text text), console)
      | none => (.error path, console)
    | .publish _ _ => ((), console)

end Console

end Gosub
