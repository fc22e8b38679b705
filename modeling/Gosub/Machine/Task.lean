import Gosub.Machine.Interpreter

/-!
Tasks. A task is an execution from its start to its end, with the report of an error as its last
act. Each turn of a task makes at most one request.
-/

namespace Gosub

/-- What becomes of an error that ends an execution. -/
inductive ErrorPolicy where
  /-- It is reported, and the execution counts as halted. -/
  | absorb
  /-- It is reported and handed back. -/
  | reportBack
  /-- It is handed back. -/
  | handBack
deriving DecidableEq, Repr

namespace ErrorPolicy

/-- Whether an error is reported to the host. -/
def reports : ErrorPolicy → Bool
  | .absorb | .reportBack => true
  | .handBack => false

/-- What an execution that ended with an error results in. -/
def result (policy : ErrorPolicy) (error : Error) : Except Error Transfer :=
  match policy with
  | .absorb => .ok .halt
  | .reportBack | .handBack => .error error

end ErrorPolicy

/-- An execution under way. -/
inductive Task where
  /-- The program could not be read; that is still to be reported. -/
  | rejected (error : Error)
  | executing (interpreter : Interpreter) (policy : ErrorPolicy)
  /-- The execution ended with an error that is still to be reported. -/
  | reporting (interpreter : Interpreter) (policy : ErrorPolicy) (error : Error)
  | finished (interpreter : Option Interpreter) (result : Except Error Transfer)

/-- The settings of a run. -/
structure RunOptions where
  /-- The name of the environment. -/
  name : String := "main"
  mode : ReportMode := .pro

namespace Environment

/-- Assigns variables one after another, up to the first that fails. -/
def seed (env : Environment) : List (String × Value) → Environment × Except Fault Unit
  | [] => (env, .ok ())
  | (name, value) :: rest =>
    match env.assign name value with
    | .ok env => env.seed rest
    | .error fault => (env, .error fault)

end Environment

namespace Task

/-- An execution that has come to an end, up to its report. -/
def conclude (interpreter : Interpreter) (policy : ErrorPolicy) (result : Except Error Transfer)
    : Task :=
  match result with
  | .ok transfer => .finished (some interpreter) (.ok transfer)
  | .error error =>
    if policy.reports then .reporting interpreter policy error
    else .finished (some interpreter) (policy.result error)

/-- The task after a step of its interpreter. -/
def ofProgress (policy : ErrorPolicy) : Progress → Task
  | .running interpreter => .executing interpreter policy
  | .finished interpreter result => conclude interpreter policy result

/-- The run of a program on a fresh environment with initial variables. -/
def ofProgram (program : Program) (options : RunOptions) (initial : List (String × Value)) : Task :=
  let interpreter := Interpreter.start program {} options.name options.mode
  let seeded := Environment.seed { name := options.name } initial
  let interpreter := { interpreter with roster := interpreter.roster.set interpreter.id seeded.1 }
  match seeded.2 with
  | .ok _ => .executing interpreter .absorb
  | .error fault => .reporting interpreter .absorb { fault }

/-- The run of a source text. -/
def start (source : String) (options : RunOptions) (initial : List (String × Value)) : Task :=
  match Program.parse source with
  | .error error => .rejected error
  | .ok program => ofProgram program options initial

/-- Whether nothing is left to do. -/
def isFinished : Task → Bool
  | .finished _ _ => true
  | _ => false

/-- One turn of a task. -/
def turn : Task → Turn Task
  | .rejected error =>
    .ask (.diagnostic ("?" ++ error.message ++ "\n")) fun _ => .finished none (.error error)
  | .executing interpreter policy => interpreter.step.map (ofProgress policy)
  | .reporting interpreter policy error =>
    .ask (.diagnostic (interpreter.report error)) fun _ =>
      .finished (some interpreter) (policy.result error)
  | .finished interpreter result => .done (.finished interpreter result)

end Task

end Gosub
