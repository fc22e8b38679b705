import Gosub.Machine.Roster
import Gosub.Statement.Execution

/-!
Interpreters. An interpreter walks through a program, one line a step, on an environment of a
roster. A top-level interpreter resolves jumps against its own program. An inner interpreter works
for a line of another program: it only walks forward, records the position of that line, and hands
every jump back.
-/

namespace Gosub

/-- How much an error report tells. -/
inductive ReportMode where
  /-- The error, the line and the stacks. -/
  | dev
  /-- The error alone. -/
  | pro
deriving DecidableEq, Repr

/-- The mode of a name, in any case. -/
def ReportMode.ofName? (name : String) : Option ReportMode :=
  let lower := name.toList.map Char.toLower
  if lower = ['d', 'e', 'v'] then some .dev
  else if lower = ['p', 'r', 'o'] then some .pro
  else none

/-- What is said of a name that is no mode. -/
def ReportMode.refusal (name : String) : String :=
  "unknown mode '" ++ name ++ "', expected dev or pro"

/-- The body that a condition chooses. Where it does not hold and there is no second body, there is
nothing to do. -/
def Environment.choose (env : Environment) (condition body : List Token)
    (otherwise : Option (List Token)) : Option (List Token) :=
  if env.holds condition then some body else otherwise

/-- The chosen body of a conditional statement is shorter than the statement. -/
theorem Environment.length_lt_of_choose {env : Environment}
    {tokens condition body chosen : List Token} {otherwise : Option (List Token)}
    (read : Statement.ofTokens tokens = .branch condition body otherwise)
    (choice : env.choose condition body otherwise = some chosen)
    : chosen.length < tokens.length := by
  have shorter := Statement.length_lt_of_ofTokens read
  unfold Environment.choose at choice
  split at choice
  · cases choice
    exact shorter.1
  · exact shorter.2 chosen choice

/-- A program in execution. -/
structure Interpreter where
  program : Program
  roster : Roster
  /-- The number of the environment that the program works on. -/
  id : Nat
  mode : ReportMode
  position : Nat := 0
  /-- For an inner interpreter, the top-level position that it works for. -/
  origin : Option Nat := none

/-- An interpreter after a step: still running, or at its end with what it hands back. -/
inductive Progress where
  | running (interpreter : Interpreter)
  | finished (interpreter : Interpreter) (result : Except Error Transfer)

namespace Interpreter

/-- A top-level interpreter with a fresh environment, entered under a name. -/
def start (program : Program) (roster : Roster) (name : String) (mode : ReportMode)
    : Interpreter where
  program := program
  roster := roster.enter { name }
  id := roster.size
  mode := mode

/-- An inner interpreter on the environment of a name, for the top-level line at `origin`. -/
def inner (program : Program) (roster : Roster) (name : String) (mode : ReportMode) (origin : Nat)
    : Except Fault Interpreter :=
  match roster.lookup? name with
  | none => .error (.unknownEnvironment name)
  | some id => .ok { program, roster, id, mode, origin := some origin }

/-- Whether the interpreter works for a line of another program. -/
def isInner (interpreter : Interpreter) : Bool :=
  interpreter.origin.isSome

/-- The environment that the program works on. -/
def env? (interpreter : Interpreter) : Option Environment :=
  interpreter.roster.get? interpreter.id

/-- The position that subroutines and loops record: that of the top-level line in execution. -/
def topPosition (interpreter : Interpreter) : Nat :=
  interpreter.origin.getD interpreter.position

/-- Ends an execution with a fault on a line. -/
def fail (interpreter : Interpreter) (line : Line) (fault : Fault) : Progress :=
  .finished interpreter (.error (Error.atLine { fault } line.number))

/-- Moves control as a transfer asks for. -/
def follow (interpreter : Interpreter) (line : Line) (transfer : Transfer) : Progress :=
  match transfer with
  | .next => .running { interpreter with position := interpreter.position + 1 }
  | .halt => .finished interpreter (.ok .halt)
  | .jump number =>
    if interpreter.isInner then .finished interpreter (.ok transfer)
    else
      match interpreter.program.indexOf? number with
      | some position => .running { interpreter with position }
      | none => interpreter.fail line (.undefinedLine (toString number))
  | .resume position =>
    if interpreter.isInner then .finished interpreter (.ok transfer)
    else .running { interpreter with position := position + 1 }

/-- Takes over what a command on the environment left behind. -/
def settle (interpreter : Interpreter) (line : Line) (outcome : Outcome) : Progress :=
  let interpreter :=
    { interpreter with roster := interpreter.roster.set interpreter.id outcome.env }
  match outcome.transfer with
  | .ok transfer => interpreter.follow line transfer
  | .error fault => interpreter.fail line fault

/-- Takes over what an inner interpreter for the body of a line left behind. One that is still
running has walked past its only line. -/
def adopt (interpreter : Interpreter) (line : Line) : Progress → Progress
  | .running inner => { interpreter with roster := inner.roster }.follow line .next
  | .finished inner result =>
    let interpreter := { interpreter with roster := inner.roster }
    match result with
    | .ok transfer => interpreter.follow line transfer
    | .error error => .finished interpreter (.error (error.atLine line.number))

/-- Executes a line. The chosen body of a conditional line is a program of one line for an inner
interpreter, on the first environment entered under the name of the one that the condition was
tested on. -/
def perform (interpreter : Interpreter) (line : Line) : Turn Progress :=
  match interpreter.env? with
  | none => .done (interpreter.fail line (.missingEnvironment interpreter.id))
  | some env =>
    match read : Statement.ofTokens line.tokens with
    | .command command => (command.run interpreter.topPosition env).map (interpreter.settle line)
    | .branch condition body otherwise =>
      match choice : env.choose condition body otherwise with
      | none => .done (interpreter.follow line .next)
      | some tokens =>
        have := Environment.length_lt_of_choose read choice
        match inner (.single line.number tokens) interpreter.roster env.name interpreter.mode
            interpreter.topPosition with
        | .error fault => .done (interpreter.fail line fault)
        | .ok child => (child.perform { line with tokens }).map (interpreter.adopt line)
termination_by line.tokens.length

/-- Executes the line at the current position; past the last line the execution is at its end. -/
def step (interpreter : Interpreter) : Turn Progress :=
  match interpreter.program.line? interpreter.position with
  | none => .done (.finished interpreter (.ok .next))
  | some line => interpreter.perform line

/-- The line, the environment and its stacks, for a report. -/
def particulars (interpreter : Interpreter) : String :=
  let place :=
    match interpreter.program.line? interpreter.position with
    | some line => "  AT " ++ line.printed ++ "\n"
    | none => ""
  let state :=
    match interpreter.env? with
    | some env =>
      "  RUNTIME " ++ env.name ++ " NAMESPACE " ++ Text.quoted env.scope ++ "\n"
        ++ "  LOOP STACK " ++ env.loops.printed Loop.printed ++ "\n"
        ++ "  CALL STACK " ++ env.calls.printed toString ++ "\n"
    | none => ""
  place ++ state

/-- The report of an error that ended the execution. -/
def report (interpreter : Interpreter) (error : Error) : String :=
  let headline := "?" ++ error.message ++ "\n"
  match interpreter.mode with
  | .pro => headline
  | .dev => headline ++ interpreter.particulars

end Interpreter

end Gosub
