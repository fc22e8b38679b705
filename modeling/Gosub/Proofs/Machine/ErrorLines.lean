import Gosub.Proofs.Machine.Walks

/-! The lines of errors. An error that ends an execution is placed on the line that the interpreter
still stands on, whether the line failed by itself, inside conditionals, or by asking for a line
that does not exist. So the place in the first line of a report is the line that the report shows.
-/

namespace Gosub

/-- The interpreter of an execution that has ended with an error, and the error. -/
def Task.failure? : Task → Option (Interpreter × Error)
  | .reporting interpreter _ error | .finished (some interpreter) (.error error) =>
    some (interpreter, error)
  | _ => none

/-- An error is not lost when an execution ends, by cases on what becomes of it. -/
theorem Task.failure?_conclude (interpreter : Interpreter) (policy : ErrorPolicy) (error : Error)
    : (conclude interpreter policy (.error error)).failure? = some (interpreter, error) := by
  cases policy <;> rfl

-----------------------------------------------------------------------------------------
-- Lines that fail
-----------------------------------------------------------------------------------------

namespace Interpreter

variable {σ : Type} {host : Responder σ} {state : σ} {interpreter ended : Interpreter}
  {line : Line} {error : Error}

/-- The line fails for a cause, with the answer that the host gives in its state. There is no
environment to work on, the command that the line comes down to fails, or this command asks for a
line that the program does not have. The command stands on the line itself or in conditionals of any
depth.
-/
inductive Fails (host : Responder σ) (state : σ) (interpreter : Interpreter) (line : Line)
    : Fault → Prop
  | missing (lost : interpreter.env? = none)
    : Fails host state interpreter line (.missingEnvironment interpreter.id)
  | command {id : Nat} {env : Environment} {command : Command} {fault : Fault}
    (performs : interpreter.Performs line id env command)
    (fails
      : ((command.run interpreter.topPosition env).answered host state).transfer = .error fault)
    : Fails host state interpreter line fault
  | target {id : Nat} {env : Environment} {command : Command} {number : Nat}
    (performs : interpreter.Performs line id env command)
    (asks
      : ((command.run interpreter.topPosition env).answered host state).transfer
        = .ok (.jump number))
    (topLevel : interpreter.isInner = false)
    (undefined : interpreter.program.indexOf? number = none)
    : Fails host state interpreter line (.undefinedLine (toString number))

/-- A step that fails leaves the interpreter on the line that failed, and places the error there. By
cases on what the line comes down to.
-/
theorem fails_of_step
    (finished : interpreter.step.answered host state = .finished ended (.error error))
    : ∃ line roster,
        interpreter.program.line? interpreter.position = some line
        ∧ interpreter.Fails host state line error.fault
        ∧ error.line = some line.number
        ∧ ended = { interpreter with roster } := by
  cases found : interpreter.program.line? interpreter.position with
  | none =>
      rw [step, found] at finished
      cases finished
  | some line =>
      refine ⟨line, ended.roster, rfl, ?_⟩
      cases owns : interpreter.env? with
      | none =>
          rw [step_eq_perform found, perform_missing owns] at finished
          cases finished
          exact ⟨.missing owns, rfl, rfl⟩
      | some own =>
          rcases perform_cases owns line with ⟨_, _, _, read, choice⟩ | ⟨id, env, command, performs⟩
          · rw [step_eq_perform found, perform_unchosen owns read choice] at finished
            cases finished
          · -- Conditionals are already followed into: a body settles as if it were the line.
            rw [performs.step_eq found, Turn.answered_map, settleAt] at finished
            split at finished
            · next transfer asks =>
              rcases follow_cases _ line transfer with
                ⟨_, _, same⟩ | ⟨_, same⟩ | ⟨number, rfl, topLevel, undefined, same⟩
              · cases same.symm.trans finished
              · cases same.symm.trans finished
              · cases same.symm.trans finished
                exact ⟨.target performs asks topLevel undefined, rfl, rfl⟩
            · next fault fails =>
              cases finished
              exact ⟨.command performs fails, rfl, rfl⟩

/-- The report of an error on the line that the interpreter stands on names this line twice. -/
theorem report_of_line {fault : Fault} (dev : interpreter.mode = .dev)
    (found : interpreter.program.line? interpreter.position = some line)
    : ∃ details,
        interpreter.report ⟨fault, some line.number⟩
        = "?" ++ fault.kind.title ++ " IN " ++ toString line.number
            ++ (if fault.detail.isEmpty then "" else "; " ++ fault.detail) ++ "\n"
            ++ "  AT " ++ toString line.number ++ " " ++ Token.listing line.tokens ++ "\n"
            ++ details := by
  have shown
      : ∃ details, interpreter.particulars = "  AT " ++ line.printed ++ "\n" ++ details := by
    unfold particulars
    rw [found]
    exact ⟨_, rfl⟩
  obtain ⟨details, shown⟩ := shown
  refine ⟨details, ?_⟩
  simp only [report, dev, shown, Error.message, Kind.message, Line.printed, String.append_assoc]

end Interpreter

-----------------------------------------------------------------------------------------
-- Executions that fail
-----------------------------------------------------------------------------------------

namespace World

variable {σ : Type} {host : Responder σ} {world : World σ} {policy : ErrorPolicy}
  {ended : Interpreter} {error : Error}

/-- In one turn an execution ends with an error because its step fails with it. An error that was
there before is only reported. By cases on the task.
-/
theorem failure?_of_advance (failed : (world.advance host).task.failure? = some (ended, error))
    : world.task.failure? = some (ended, error)
      ∨ ∃ last policy,
          world.task = .executing last policy
          ∧ last.step.answered host world.host = .finished ended (.error error) := by
  rw [task_advance] at failed
  cases before : world.task with
  | rejected unread =>
      rw [before] at failed
      cases failed
  | finished last result =>
      rw [before] at failed
      exact .inl failed
  | reporting last policy reported =>
      rw [before] at failed
      cases policy with
      | absorb => cases failed
      | reportBack | handBack => exact .inl failed
  | executing last policy =>
      rw [before, Task.turn, Turn.answered_map] at failed
      refine .inr ⟨last, policy, rfl, ?_⟩
      cases stepped : last.step.answered host world.host with
      | running next =>
          rw [stepped] at failed
          cases failed
      | finished next result =>
          rw [stepped, Task.ofProgress] at failed
          cases result with
          | ok transfer => cases failed
          | error raised =>
              rw [Task.failure?_conclude] at failed
              cases failed
              rfl

/-- An execution that has ended with an error has taken a step that failed with it, by induction on
the turns.
-/
theorem step_of_failure {start : Interpreter} (task : world.task = .executing start policy)
    (turns : Nat) (failed : (advanceBy host turns world).task.failure? = some (ended, error))
    : ∃ earlier last policy,
        earlier < turns
        ∧ (advanceBy host earlier world).task = .executing last policy
        ∧ last.step.answered host (advanceBy host earlier world).host
          = .finished ended (.error error) := by
  induction turns with
  | zero =>
      rw [advanceBy, task] at failed
      cases failed
  | succ turns ih =>
      rw [advanceBy_succ] at failed
      rcases failure?_of_advance failed with sooner | ⟨last, policy, executing, stepped⟩
      · obtain ⟨earlier, last, policy, before, stepped⟩ := ih sooner
        exact ⟨earlier, last, policy, Nat.lt_succ_of_lt before, stepped⟩
      · exact ⟨turns, last, policy, Nat.lt_succ_self turns, executing, stepped⟩

/-- Errors are placed on the line that they happened on. For every interpreter, at the top level or
inner, wherever it stands, on any roster and for every host: where its execution has ended with an
error, the interpreter stands on a line of its program. The last step has failed on this line, by
itself, inside conditionals or for the target of a jump. The error has the number of the line, and
the detailed report shows the line under the number that it begins with.
-/
theorem error_on_line (host : Responder σ) (state : σ) (start : Interpreter)
    (policy : ErrorPolicy) (turns : Nat) (ended : Interpreter) (error : Error)
    (failed
      : (advanceBy host turns { task := .executing start policy, host := state }).task.failure?
        = some (ended, error))
    : ∃ earlier last later line,
        earlier < turns
        ∧ (advanceBy host earlier { task := .executing start policy, host := state }).task
          = .executing last later
        ∧ last.Fails host
            (advanceBy host earlier { task := .executing start policy, host := state }).host line
            error.fault
        ∧ ended = { start with roster := ended.roster, position := last.position }
        ∧ ended.program.line? ended.position = some line
        ∧ error.line = some line.number
        ∧ (ended.mode = .dev
          → ∃ details,
              ended.report error
              = "?" ++ error.fault.kind.title ++ " IN " ++ toString line.number
                  ++ (if error.fault.detail.isEmpty then "" else "; " ++ error.fault.detail) ++ "\n"
                  ++ "  AT " ++ toString line.number ++ " " ++ Token.listing line.tokens ++ "\n"
                  ++ details) := by
  obtain ⟨earlier, last, later, before, executing, stepped⟩ := step_of_failure rfl turns failed
  obtain ⟨line, roster, found, fails, placed, rfl⟩ := Interpreter.fails_of_step stepped
  obtain ⟨_, _, rfl⟩ :=
    moved_advanceBy rfl host earlier (show _ = some last by rw [executing]; rfl)
  refine ⟨earlier, _, later, line, before, executing, fails, rfl, found, placed, fun dev => ?_⟩
  obtain ⟨fault, place⟩ := error
  cases placed
  exact Interpreter.report_of_line dev found

/-- A jump inside two conditionals, on the second line of a program that has no such target. -/
theorem error_on_line_of_jump
    : let jump : List Token := [.keyword .GOTO, .number "99"]
      let within : List Token := [.keyword .IF, .number "1", .keyword .THEN] ++ jump
      let line : Line := ⟨20, [.keyword .IF, .number "1", .keyword .THEN] ++ within⟩
      let start : Interpreter :=
        { Interpreter.start ⟨#[⟨10, [.keyword .REM]⟩, line]⟩ {} "main" .dev with position := 1 }
      let host := Script.host fun _ => none
      let error : Error := ⟨.undefinedLine "99", some 20⟩
      let world : World Script := { task := .executing start .absorb, host := {} }
      (advanceBy host 1 world).task.failure? = some (start, error)
      ∧ start.Fails host {} line (.undefinedLine "99")
      ∧ ∃ details,
          start.report error
          = "?UNDEFINED LINE IN 20; 99\n  AT 20 IF 1 THEN IF 1 THEN GOTO 99\n" ++ details := by
  intro jump within line start host error world
  let env : Environment := { name := "main" }
  have grounded : start.Grounded env := ⟨rfl, by decide +kernel⟩
  have onLine : start.program.line? start.position = some line := rfl
  have holds : env.holds [.number "1"] = true := by decide +kernel
  have outer : Statement.ofTokens line.tokens = .branch [.number "1"] within none := rfl
  have inner : Statement.ofTokens within = .branch [.number "1"] jump none := rfl
  have target : env.lineTarget [.number "99"] = .ok 99 := eq_ok_of_toOption (by decide +kernel)
  have undefined : start.program.indexOf? 99 = none := by decide +kernel
  have settled : start.settle line ⟨env, .ok (.jump 99)⟩ = .finished start (.error error) := by
    simp only [Interpreter.settle, Interpreter.follow, undefined]
    rfl
  have stepped : start.step = .done (.finished start (.error error)) := by
    rw [grounded.step_eq onLine, Environment.commandOf_chosen outer (if_pos holds),
      Environment.commandOf_chosen inner (if_pos holds), Environment.commandOf_command rfl]
    change Turn.done (start.settle line ⟨env, (env.lineTarget [.number "99"]).map .jump⟩) = _
    rw [target]
    exact congrArg Turn.done settled
  have failed : (advanceBy host 1 world).task.failure? = some (start, error) := by
    rw [advanceBy, advanceBy, task_advance, Task.turn, stepped]
    rfl
  obtain ⟨earlier, last, _, _, before, executing, fails, _, found, _, reported⟩ :=
    error_on_line host {} start .absorb 1 start error failed
  obtain rfl : earlier = 0 := by omega
  cases executing
  cases found
  obtain ⟨details, shown⟩ := reported rfl
  exact ⟨failed, fails, details, shown.trans (congrArg (· ++ details) (by decide +kernel))⟩

end World

end Gosub
