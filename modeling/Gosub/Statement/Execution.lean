import Gosub.Evaluation.Expression
import Gosub.Machine.Request
import Gosub.Program.Basic
import Gosub.Statement.Basic

/-!
Execution of commands. A command works on one environment and makes at most one request. What it
tells the machine about control is a transfer; jumps and returns are only named here and resolved
by the machine.
-/

namespace Gosub

/-- Where control goes after a command. -/
inductive Transfer where
  /-- To the next line. -/
  | next
  /-- To the line with this number. -/
  | jump (number : Nat)
  /-- To the line after this position. -/
  | resume (position : Nat)
  /-- Nowhere: the program ends. -/
  | halt
deriving DecidableEq, Repr

/-- What a command leaves behind: the environment, even where it fails, and a transfer or a fault.
-/
structure Outcome where
  env : Environment
  transfer : Except Fault Transfer

namespace Outcome

/-- A command that failed. -/
def fail (env : Environment) (fault : Fault) : Outcome where
  env := env
  transfer := .error fault

/-- A command that is followed by the next line. -/
def next (env : Environment) : Outcome where
  env := env
  transfer := .ok .next

/-- The outcome of a change that leaves the environment as it was where it fails. -/
def ofChange (env : Environment) (change : Except Fault Environment) : Outcome :=
  match change with
  | .ok changed => next changed
  | .error fault => fail env fault

end Outcome

/-- The greatest dimension of an array, held in 64 bits; larger ones are taken for it. -/
def maxDimension : Nat := 0xffffffffffffffff

namespace Value

/-- The number that a command needs; the subject of the command is named in the error. -/
def expectNumber (value : Value) (subject : String) : Except Fault Float :=
  match value with
  | .number x => .ok x
  | .text s => .error (.notANumber subject s)

/-- The line number that a jump to a value goes to: that of a whole number in range, or of its
digits. -/
def lineTarget (value : Value) : Except Fault Nat :=
  let target? : Option Nat :=
    match value with
    | .number x =>
      (Binary64.whole? x).bind fun n =>
        if 0 ≤ n ∧ n < lineNumberBound then some n.toNat else none
    | .text s => lineNumber? s
  match target? with
  | some line => .ok line
  | none => .error (.undefinedLine value.printed)

/-- The dimension that a value denotes: a positive whole number. -/
def dimension (value : Value) : Except Fault Nat :=
  match value with
  | .number x =>
    match Binary64.whole? x with
    | some n => if 1 ≤ n then .ok (min n.toNat maxDimension) else .error (.invalidDimension value)
    | none => .error (.invalidDimension value)
  | .text _ => .error (.invalidDimension value)

end Value

namespace Environment

/-- The line number that an expression denotes. -/
def lineTarget (env : Environment) (expression : List Token) : Except Fault Nat := do
  let value ← env.evaluate expression
  value.lineTarget

/-- The number that an expression denotes. -/
def evaluateNumber (env : Environment) (expression : List Token) (subject : String)
    : Except Fault Float := do
  let value ← env.evaluate expression
  value.expectNumber subject

/-- Opens a subroutine that returns to the line after `position`. -/
def enterSubroutine (env : Environment) (position number : Nat) : Outcome :=
  let (env, pushed) := env.pushCall position
  { env, transfer := pushed.map fun _ => .jump number }

/-- Returns from the innermost subroutine; outside of any, goes on with the next line. -/
def leaveSubroutine (env : Environment) : Outcome :=
  match env.calls.top? with
  | some position =>
    { env := { env with calls := env.calls.pop }, transfer := .ok (.resume position) }
  | none => .next env

/-- Opens a loop on a variable that holds its start value. -/
def enterLoop (env : Environment) (loop : Loop) : Outcome :=
  let (env, pushed) := env.pushLoop loop
  { env, transfer := pushed.map fun _ => .next }

/-- The bounds of a loop, evaluated after the loop variable has its start value. The step is one
if none is given. -/
def loopBounds (env : Environment) (goal : List Token) (step : Option (List Token))
    : Except Fault (Float × Float) := do
  let goal ← env.evaluateNumber goal "FOR GOAL"
  match step with
  | none => .ok (goal, 1.0)
  | some step => do
    let step ← env.evaluateNumber step "FOR STEP"
    .ok (goal, step)

/-- Assigns the start value and opens the loop; the start value stays assigned where the bounds
fail. -/
def openLoop (env : Environment) (position : Nat) (name : String) (start goal : List Token)
    (step : Option (List Token)) : Outcome :=
  match (do env.assign name (← env.evaluate start) : Except Fault Environment) with
  | .error fault => .fail env fault
  | .ok env =>
    match env.loopBounds goal step with
    | .error fault => .fail env fault
    | .ok (goal, step) => env.enterLoop { name, goal, step, anchor := position, count := 0 }

/-- The number that the variable of a loop holds. -/
def loopValue (env : Environment) (loop : Loop) : Except Fault Float := do
  let value ← env.fetch loop.name
  value.expectNumber loop.name

/-- Goes through the innermost loop once more, or leaves it and forgets its variable. -/
def advanceLoop (env : Environment) (loop : Loop) : Outcome :=
  match env.loopValue loop with
  | .error fault => .fail env fault
  | .ok value =>
    if loop.overshoots value then .next ({ env with loops := env.loops.pop }.erase loop.name)
    else
      match env.assign loop.name (.number (value + loop.step)) with
      | .error fault => .fail env fault
      | .ok env => { env, transfer := .ok (.resume loop.anchor) }

/-- Ends an iteration of the innermost loop. It is counted before anything else is looked at. -/
def iterate (env : Environment) (loop : Loop) : Outcome :=
  let (env, counted) := env.countIteration loop
  match counted with
  | .error fault => .fail env fault
  | .ok () => env.advanceLoop loop

/-- Ends an iteration of the innermost loop, which must be that of the named variable. -/
def closeLoop (env : Environment) (name : Option String) : Outcome :=
  match env.loops.top? with
  | none => .fail env .nextWithoutFor
  | some loop =>
    match name with
    | none => env.iterate loop
    | some name =>
      if name = loop.name then env.iterate loop else .fail env (.nextInsideFor name loop.name)

end Environment

namespace Command

/-- Executes a command on behalf of the top-level line at `position`. -/
def run (command : Command) (position : Nat) (env : Environment) : Turn Outcome :=
  match command with
  | .skip => .done (.next env)
  | .refuse fault => .done (.fail env fault)
  | .print expression =>
    match env.evaluate expression with
    | .error fault => .done (.fail env fault)
    | .ok value => .ask (.write (value.printed ++ "\n")) fun _ => .next env
  | .assign name expression =>
    .done (.ofChange env do env.assign name (← env.evaluate expression))
  | .assignCell name indices expression =>
    .done (.ofChange env do
      let indices ← env.evaluateAll indices
      env.assignCell name indices (← env.evaluate expression))
  | .declare name dimension =>
    .done (.ofChange env do
      match dimension with
      | none => env.declare name 1
      | some expression => env.declare name (← (← env.evaluate expression).dimension))
  | .input prompt name =>
    match env.evaluate prompt with
    | .error fault => .done (.fail env fault)
    | .ok value =>
      .ask (.input value.printed) fun reply => .ofChange env (env.assign name (.text reply))
  | .halt => .done { env, transfer := .ok .halt }
  | .goto target => .done { env, transfer := (env.lineTarget target).map .jump }
  | .gosub target =>
    match env.lineTarget target with
    | .error fault => .done (.fail env fault)
    | .ok number => .done (env.enterSubroutine position number)
  | .goBack => .done env.leaveSubroutine
  | .setScope expression =>
    .done (.ofChange env do
      let value ← env.evaluate expression
      .ok { env with scope := value.printed })
  | .readClock reading =>
    .ask .clock fun millis =>
      .ofChange env (env.assign reading.name (.number (Binary64.ofInt (reading.ofMillis millis))))
  | .load path name =>
    match env.evaluate path with
    | .error fault => .done (.fail env fault)
    | .ok value => .ask (.load value.printed) fun
      | .ok loaded => .ofChange env (env.assign name loaded)
      | .error _ => .next env
  | .publish name =>
    match env.fetch name with
    | .error fault => .done (.fail env fault)
    | .ok value => .ask (.publish (env.qualify name) value) fun _ => .next env
  | .pause seconds =>
    match env.evaluateNumber seconds "PAUSE" with
    | .error fault => .done (.fail env fault)
    | .ok x => .ask (.delay (if 0.0 < x then x else 0.0)) fun _ => .next env
  | .openLoop name start goal step => .done (env.openLoop position name start goal step)
  | .closeLoop name => .done (env.closeLoop name)

end Command

end Gosub
