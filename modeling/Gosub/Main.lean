import Gosub.Console.Basic
import Gosub.Console.CommandLine
import Std.Time

/-!
The command `basic`: performs the requests of a run on the terminal, the clock and the files.
-/

namespace Gosub.Main

/-- Writes text to the standard output at once. -/
def put (text : String) : IO Unit := do
  let out ← IO.getStdout
  out.putStr text
  out.flush

/-- The text of a file, or the reason why it cannot be read. -/
def readText (path : String) : IO (Except String String) := do
  try
    return .ok (← IO.FS.readFile path)
  catch error =>
    return .error (toString error)

/-- All that is left of the standard input. -/
partial def readInput (read : String) : IO String := do
  let line ← (← IO.getStdin).getLine
  if line.isEmpty then return read else readInput (read ++ line)

/-- Performs a request and returns its answer. -/
def perform : (request : Request) → IO request.Answer
  | .write text => put (Console.shown (.write text))
  | .input prompt => do
    put (Console.shown (.input prompt))
    return Console.reply (← (← IO.getStdin).getLine).toList
  | .diagnostic text => put (Console.shown (.diagnostic text))
  | .clock => do
    let now ← Std.Time.Timestamp.now
    return now.toMillisecondsSinceUnixEpoch.val
  | .delay seconds => do
    if seconds.isFinite && 0.0 < seconds then IO.sleep (seconds * 1000.0).toUInt32
  | .load path => do
    match ← readText path with
    | .ok text => return .ok (.text text)
    | .error reason => return .error reason
  | .publish name value => put (Console.shown (.publish name value))

/-- Takes the turns of a task until it is finished. -/
partial def serve (task : Task) : IO Unit := do
  if task.isFinished then return
  match task.turn with
  | .done task => serve task
  | .ask request resume => serve (resume (← perform request))

/-- Runs the program of a file, or of the standard input. -/
def runProgram (file : Option String) (options : RunOptions) (initial : List (String × Value))
    : IO UInt32 := do
  let source ←
    match file with
    | some path => readText path
    | none => Except.ok <$> readInput ""
  match source with
  | .ok source =>
    serve (Task.start source options initial)
    return 0
  | .error reason =>
    IO.eprintln (Console.bold reason)
    return 1

end Gosub.Main

/-- Runs what the command line asks for. -/
def main (arguments : List String) : IO UInt32 := do
  match Gosub.CommandLine.parse arguments with
  | .refused =>
    IO.eprint Gosub.CommandLine.helpText
    return 2
  | .help =>
    Gosub.Main.put Gosub.CommandLine.helpText
    return 0
  | .version =>
    Gosub.Main.put Gosub.CommandLine.versionText
    return 0
  | .run file options initial => Gosub.Main.runProgram file options initial
