import Gosub.Proofs.Machine.Conditionals
import Gosub.Proofs.Statement.Failures

/-! Failing lines. An interpreter attempts a line, on its own or through an inner interpreter, and
then follows the transfer that the line asks for. An attempt that fails, at any depth of
conditionals, leaves behind no more than the one command that failed.
-/

namespace Gosub

/-- What the attempt of a line leaves behind: the roster, and the transfer that the line asks for or
the error that it failed with.
-/
structure Verdict where
  roster : Roster
  result : Except Error Transfer

/-- What an inner interpreter hands back to the line that it works for. One that is still running
has walked past its only line.
-/
def Progress.verdict : Progress → Verdict
  | .running interpreter => ⟨interpreter.roster, .ok .next⟩
  | .finished interpreter result => ⟨interpreter.roster, result⟩

namespace Interpreter

/-- Executes a line without following its transfer. -/
def attempt (interpreter : Interpreter) (line : Line) : Turn Verdict :=
  match interpreter.env? with
  | none => .done ⟨interpreter.roster, .error { fault := .missingEnvironment interpreter.id }⟩
  | some env =>
    match Statement.ofTokens line.tokens with
    | .command command =>
      (command.run interpreter.topPosition env).map fun outcome =>
        ⟨interpreter.roster.set interpreter.id outcome.env,
          outcome.transfer.mapError fun fault => { fault }⟩
    | .branch condition body otherwise =>
      match env.choose condition body otherwise with
      | none => .done ⟨interpreter.roster, .ok .next⟩
      | some tokens =>
        match inner (.single line.number tokens) interpreter.roster env.name interpreter.mode
            interpreter.topPosition with
        | .error fault => .done ⟨interpreter.roster, .error { fault }⟩
        | .ok child => (child.perform { line with tokens }).map Progress.verdict

/-- Takes over what the attempt of a line left behind, and follows its transfer. -/
def obey (interpreter : Interpreter) (line : Line) (verdict : Verdict) : Progress :=
  let interpreter := { interpreter with roster := verdict.roster }
  match verdict.result with
  | .ok transfer => interpreter.follow line transfer
  | .error error => .finished interpreter (.error (error.atLine line.number))

/-- What an attempt makes of the outcome of a command. The error is on a line already where an inner
interpreter has placed it there.
-/
def judge (interpreter : Interpreter) (place : Option Nat) (outcome : Outcome) : Verdict where
  roster := interpreter.roster.set interpreter.id outcome.env
  result := outcome.transfer.mapError fun fault => ⟨fault, place⟩

section Attempts

variable {interpreter : Interpreter} {env : Environment} {line : Line}

theorem attempt_command {command : Command} (found : interpreter.env? = some env)
    (read : Statement.ofTokens line.tokens = .command command)
    : interpreter.attempt line
      = (command.run interpreter.topPosition env).map (interpreter.judge none) := by
  simp only [attempt, found, read]
  rfl

theorem attempt_unchosen {condition body : List Token} {otherwise : Option (List Token)}
    (found : interpreter.env? = some env)
    (read : Statement.ofTokens line.tokens = .branch condition body otherwise)
    (choice : env.choose condition body otherwise = none)
    : interpreter.attempt line = .done ⟨interpreter.roster, .ok .next⟩ := by
  simp only [attempt, found, read, choice]

theorem attempt_chosen {condition body tokens : List Token} {otherwise : Option (List Token)}
    {id : Nat} (found : interpreter.env? = some env)
    (read : Statement.ofTokens line.tokens = .branch condition body otherwise)
    (choice : env.choose condition body otherwise = some tokens)
    (first : interpreter.roster.lookup? env.name = some id)
    : interpreter.attempt line
      = ((interpreter.spawned line.number tokens id).perform { line with tokens }).map
          Progress.verdict := by
  simp only [attempt, found, read, choice, inner, first]
  rfl

end Attempts

/-- To execute a line is to attempt it and to follow its transfer, by cases on what the line is read
as.
-/
theorem perform_eq_attempt (interpreter : Interpreter) (line : Line)
    : interpreter.perform line = (interpreter.attempt line).map (interpreter.obey line) := by
  cases found : interpreter.env? with
  | none =>
      rw [perform_missing found]
      simp only [attempt, found]
      rfl
  | some env =>
      cases read : Statement.ofTokens line.tokens with
      | command command =>
          rw [perform_command found read, attempt_command found read, Turn.map_map]
          congr 1
          funext outcome
          obtain ⟨env, transfer⟩ := outcome
          cases transfer <;> rfl
      | branch condition body otherwise =>
          cases choice : env.choose condition body otherwise with
          | none =>
              rw [perform_unchosen found read choice, attempt_unchosen found read choice]
              rfl
          | some tokens =>
              obtain ⟨id, _, first, _⟩ := Roster.exists_lookup? found
              rw [perform_chosen found read choice first, attempt_chosen found read choice first,
                Turn.map_map]
              congr 1
              funext progress
              cases progress <;> rfl

/-- An inner interpreter hands back every outcome of its command, by cases on the transfer. -/
theorem verdict_settle {child : Interpreter} (inner : child.isInner = true) (line : Line)
    (outcome : Outcome)
    : (child.settle line outcome).verdict = child.judge (some line.number) outcome := by
  obtain ⟨env, transfer⟩ := outcome
  have within (roster : Roster) : { child with roster }.isInner = true := inner
  cases transfer with
  | error fault => rfl
  | ok transfer =>
      cases transfer with
      | next | halt => rfl
      | jump number | resume position =>
          simp only [settle, follow, within]
          rfl

/-- A grounded interpreter attempts a line as the command that the line comes down to, on its own
environment and for its own position.
-/
theorem Grounded.attempt_eq {interpreter : Interpreter} {env : Environment}
    (grounded : interpreter.Grounded env) (line : Line)
    : ∃ place,
        interpreter.attempt line
        = ((env.commandOf line.tokens).run interpreter.topPosition env).map
            (interpreter.judge place) := by
  cases read : Statement.ofTokens line.tokens with
  | command command =>
      refine ⟨none, ?_⟩
      rw [Environment.commandOf_command read, attempt_command grounded.found read]
  | branch condition body otherwise =>
      cases choice : env.choose condition body otherwise with
      | none =>
          refine ⟨none, ?_⟩
          rw [Environment.commandOf_unchosen read choice,
            attempt_unchosen grounded.found read choice]
          simp only [Command.run, Turn.map, judge, Outcome.next, Roster.set_self grounded.found]
          rfl
      | some tokens =>
          let child := interpreter.spawned line.number tokens interpreter.id
          have within : child.isInner = true := rfl
          have below : child.Grounded env := grounded.congr rfl rfl
          refine ⟨some line.number, ?_⟩
          rw [Environment.commandOf_chosen read choice,
            attempt_chosen grounded.found read choice grounded.first, below.perform_eq,
            Turn.map_map]
          congr 1
          funext outcome
          exact verdict_settle within { line with tokens } outcome

/-- A failing line is atomic, apart from three effects. Every line is attempted before its transfer
is followed. Where the attempt fails, for an interpreter on the first environment of its name, it
has asked the host questions only: nothing was written, published or waited for. No other
environment has changed, and of its own the line leaves what the command that failed, directly or
inside conditionals, leaves half done.
-/
theorem aftermath_of_attempt {interpreter : Interpreter} {env : Environment}
    (grounded : interpreter.Grounded env) (line : Line)
    : interpreter.perform line = (interpreter.attempt line).map (interpreter.obey line)
      ∧ ∀ requests roster error,
          (interpreter.attempt line).Ends requests ⟨roster, .error error⟩
          → (∀ request ∈ requests, request.isQuestion = true)
            ∧ ∃ after,
                roster = interpreter.roster.set interpreter.id after
                ∧ (env.commandOf line.tokens).Aftermath interpreter.topPosition env after := by
  refine ⟨interpreter.perform_eq_attempt line, fun requests roster error ends => ?_⟩
  obtain ⟨place, attempted⟩ := grounded.attempt_eq line
  rw [attempted] at ends
  obtain ⟨outcome, ran, same⟩ := ends.of_map
  obtain ⟨changed, transfer⟩ := outcome
  cases transfer with
  | ok transfer => cases same
  | error fault =>
      cases same
      exact ⟨Command.isQuestion_of_fails ran rfl, changed, rfl,
        Command.aftermath_of_fails ran.yields rfl⟩

/-- A loop inside a conditional, on the second line of a program, has a text for its goal: its start
value stays behind.
-/
theorem aftermath_of_attempt_with_text_goal
    : let loop : List Token :=
        [.keyword .FOR, .name "I", .operator .assign, .number "1", .keyword .TO, .quoted "A"]
      let line : Line := ⟨20, [.keyword .IF, .number "1", .keyword .THEN] ++ loop⟩
      let env : Environment := { name := "main" }
      let seeded : Environment :=
        { env with store.values := env.store.values.insert "I" (.number 1) }
      let interpreter : Interpreter :=
        { Interpreter.start ⟨#[⟨10, [.keyword .REM]⟩, line]⟩ {} "main" .pro with position := 1 }
      interpreter.Grounded env
      ∧ (interpreter.attempt line).Ends []
          ⟨interpreter.roster.set 0 seeded, .error ⟨.notANumber "FOR GOAL" "A", some 20⟩⟩
      ∧ ∃ after,
          interpreter.roster.set 0 seeded = interpreter.roster.set 0 after
          ∧ (Command.openLoop "I" [.number "1"] [.quoted "A"] none).Aftermath 1 env after := by
  intro loop line env seeded interpreter
  have grounded : interpreter.Grounded env := ⟨rfl, by decide +kernel⟩
  have holds : env.holds [.number "1"] = true := by decide +kernel
  have evaluated : env.evaluate [.number "1"] = .ok (.number 1) :=
    eq_ok_of_toOption (by decide +kernel)
  have stored : env.assign "I" (.number 1) = .ok seeded := rfl
  have aimed : seeded.evaluate [.quoted "A"] = .ok (.text "A") :=
    eq_ok_of_toOption (by decide +kernel)
  have unbounded : seeded.loopBounds [.quoted "A"] none = .error (.notANumber "FOR GOAL" "A") := by
    rw [Environment.loopBounds, Environment.evaluateNumber, aimed]
    rfl
  have opened : env.openLoop 1 "I" [.number "1"] [.quoted "A"] none
      = .fail seeded (.notANumber "FOR GOAL" "A") := by
    simp only [Environment.openLoop, evaluated, bind, Except.bind, stored, unbounded]
  have read : Statement.ofTokens line.tokens = .branch [.number "1"] loop none := rfl
  have chosen : env.choose [.number "1"] loop none = some loop := if_pos holds
  have attempted : interpreter.attempt line
      = .done ⟨interpreter.roster.set 0 seeded, .error ⟨.notANumber "FOR GOAL" "A", some 20⟩⟩ := by
    let child := interpreter.spawned 20 loop 0
    have performed : child.perform ⟨20, loop⟩
        = .done (child.settle ⟨20, loop⟩ (env.openLoop 1 "I" [.number "1"] [.quoted "A"] none)) :=
      @perform_command child env ⟨20, loop⟩ _ rfl rfl
    rw [attempt_chosen grounded.found read chosen grounded.first]
    rw [opened] at performed
    exact congrArg (Turn.map Progress.verdict) performed
  have ends : (interpreter.attempt line).Ends []
      ⟨interpreter.roster.set 0 seeded, .error ⟨.notANumber "FOR GOAL" "A", some 20⟩⟩ := by
    rw [attempted]
    exact .done _
  have comesDown : env.commandOf line.tokens
      = .openLoop "I" [.number "1"] [.quoted "A"] none := by
    rw [Environment.commandOf_chosen read chosen]
    exact Environment.commandOf_command rfl
  have left := ((aftermath_of_attempt grounded line).2 _ _ _ ends).2
  rw [comesDown] at left
  exact ⟨grounded, ends, left⟩

end Interpreter

end Gosub
