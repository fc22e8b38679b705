import Gosub.Proofs.Machine.Grounding
import Gosub.Proofs.Statement.Effects

/-! Conditional lines are transparent. The chosen body runs in an inner interpreter with a program
of its own, yet the line has the outcome that the body alone would have in its place: the inner
interpreter finds the same environment again, and what it hands back is followed by the outer one.
-/

namespace Gosub

-----------------------------------------------------------------------------------------
-- The command that a line comes down to
-----------------------------------------------------------------------------------------

/-- The command that a token list comes down to: conditional statements are followed into their
chosen bodies, to any depth. No choice changes the environment, so all conditions are tested in the
same one.
-/
def Environment.commandOf (env : Environment) (tokens : List Token) : Command :=
  match read : Statement.ofTokens tokens with
  | .command command => command
  | .branch condition body otherwise =>
    match choice : env.choose condition body otherwise with
    | none => .skip
    | some chosen =>
      have := Environment.length_lt_of_choose read choice
      env.commandOf chosen
termination_by tokens.length

theorem Environment.commandOf_command {env : Environment} {tokens : List Token}
    {command : Command} (read : Statement.ofTokens tokens = .command command)
    : env.commandOf tokens = command := by
  fun_cases commandOf env tokens <;> grind

theorem Environment.commandOf_chosen {env : Environment}
    {tokens condition body chosen : List Token} {otherwise : Option (List Token)}
    (read : Statement.ofTokens tokens = .branch condition body otherwise)
    (choice : env.choose condition body otherwise = some chosen)
    : env.commandOf tokens = env.commandOf chosen := by
  fun_cases commandOf env tokens <;> grind

theorem Environment.commandOf_unchosen {env : Environment}
    {tokens condition body : List Token} {otherwise : Option (List Token)}
    (read : Statement.ofTokens tokens = .branch condition body otherwise)
    (choice : env.choose condition body otherwise = none)
    : env.commandOf tokens = .skip := by
  fun_cases commandOf env tokens <;> grind

theorem Turn.map_map {α β γ : Type} (turn : Turn α) (f : α → β) (g : β → γ)
    : (turn.map f).map g = turn.map (fun result => g (f result)) := by
  cases turn <;> rfl

/-- Placing an error on the line that it is already placed on changes nothing. -/
theorem Error.atLine_atLine (error : Error) (number : Nat)
    : (error.atLine number).atLine number = error.atLine number := by
  cases error with
  | mk fault line => cases line <;> rfl

/-- The interpreter after a step, whether or not it is still running. -/
def Progress.interpreter : Progress → Interpreter
  | .running interpreter => interpreter
  | .finished interpreter _ => interpreter

namespace Interpreter

/-- A transfer that an inner interpreter follows is followed by the outer one in the end. Witness:
cases on the transfer; the inner interpreter hands back every jump and every return.
-/
theorem adopt_follow (interpreter child : Interpreter) {line body : Line}
    (inner : child.isInner = true) (transfer : Transfer)
    : interpreter.adopt line (child.follow body transfer)
      = { interpreter with roster := child.roster }.follow line transfer := by
  cases transfer with
  | next => rfl
  | halt => rfl
  | jump number =>
      have handed : child.follow body (.jump number) = .finished child (.ok (.jump number)) :=
        if_pos inner
      rw [handed, adopt]
  | resume position =>
      have handed
          : child.follow body (.resume position) = .finished child (.ok (.resume position)) :=
        if_pos inner
      rw [handed, adopt]

/-- Takes over what a command on the environment with the number `id` left behind. -/
def settleAt (interpreter : Interpreter) (id : Nat) (line : Line) (outcome : Outcome) : Progress :=
  let interpreter := { interpreter with roster := interpreter.roster.set id outcome.env }
  match outcome.transfer with
  | .ok transfer => interpreter.follow line transfer
  | .error fault => interpreter.fail line fault

/-- What an inner interpreter leaves behind for a command is taken over as if the outer interpreter
had settled the command itself, on the environment of the inner one. An error is already on the line.
-/
theorem adopt_settle {interpreter child : Interpreter} {line : Line} {tokens : List Token}
    (inner : child.isInner = true) (roster : child.roster = interpreter.roster)
    (outcome : Outcome)
    : interpreter.adopt line (child.settle { line with tokens } outcome)
      = interpreter.settleAt child.id line outcome := by
  obtain ⟨env, transfer⟩ := outcome
  unfold settle settleAt
  rw [roster]
  cases transfer with
  | ok transfer =>
      exact adopt_follow interpreter
        { child with roster := interpreter.roster.set child.id env } inner transfer
  | error fault => simp only [fail, adopt, Error.atLine_atLine]

theorem perform_missing {interpreter : Interpreter} (missing : interpreter.env? = none)
    (line : Line)
    : interpreter.perform line
      = .done (interpreter.fail line (.missingEnvironment interpreter.id)) := by
  rw [perform]
  simp only [missing]

theorem perform_command {interpreter : Interpreter} {env : Environment} {line : Line}
    {command : Command} (found : interpreter.env? = some env)
    (read : Statement.ofTokens line.tokens = .command command)
    : interpreter.perform line
      = (command.run interpreter.topPosition env).map (interpreter.settle line) := by
  rw [perform]
  simp only [found]
  split <;> simp_all

/-- A conditional line without a chosen body is passed over. -/
theorem perform_unchosen {interpreter : Interpreter} {env : Environment} {line : Line}
    {condition body : List Token} {otherwise : Option (List Token)}
    (found : interpreter.env? = some env)
    (read : Statement.ofTokens line.tokens = .branch condition body otherwise)
    (choice : env.choose condition body otherwise = none)
    : interpreter.perform line = .done (interpreter.follow line .next) := by
  rw [perform]
  simp only [found]
  split
  · simp_all
  · split <;> simp_all

/-- The inner interpreter for a body of the current line, on the environment with the number `id`. -/
def spawned (interpreter : Interpreter) (number : Nat) (tokens : List Token) (id : Nat)
    : Interpreter where
  program := .single number tokens
  roster := interpreter.roster
  id := id
  mode := interpreter.mode
  origin := some interpreter.topPosition

/-- The chosen body of a conditional line is executed by an inner interpreter for the position of
the line.
-/
theorem perform_chosen {interpreter : Interpreter} {env : Environment} {line : Line}
    {condition body tokens : List Token} {otherwise : Option (List Token)} {id : Nat}
    (found : interpreter.env? = some env)
    (read : Statement.ofTokens line.tokens = .branch condition body otherwise)
    (choice : env.choose condition body otherwise = some tokens)
    (first : interpreter.roster.lookup? env.name = some id)
    : interpreter.perform line
      = ((interpreter.spawned line.number tokens id).perform { line with tokens }).map
          (interpreter.adopt line) := by
  have attached
      : inner (.single line.number tokens) interpreter.roster env.name interpreter.mode
          interpreter.topPosition
        = .ok (interpreter.spawned line.number tokens id) := by
    simp only [inner, first, spawned]
  rw [perform]
  simp only [found]
  split
  · simp_all
  · split <;> simp_all

/-- A grounded interpreter executes a line as the command that the line comes down to, on its own
environment and for its own position. Witness: induction along the chosen bodies; each inner
interpreter is grounded in the same environment and works for the same position.
-/
theorem Grounded.perform_eq {interpreter : Interpreter} {env : Environment}
    (grounded : interpreter.Grounded env) (line : Line)
    : interpreter.perform line
      = ((env.commandOf line.tokens).run interpreter.topPosition env).map
          (interpreter.settle line) := by
  obtain ⟨number, tokens⟩ := line
  dsimp only
  fun_induction Environment.commandOf env tokens generalizing interpreter with
  | case1 tokens command read => exact perform_command grounded.found read
  | case2 tokens condition body otherwise read choice =>
      rw [perform_unchosen grounded.found read choice]
      simp only [Command.run, Turn.map, settle, Outcome.next, Roster.set_self grounded.found]
  | case3 tokens condition body otherwise read chosen choice _ ih =>
      let child := interpreter.spawned number chosen interpreter.id
      rw [perform_chosen grounded.found read choice grounded.first]
      have below := ih (grounded.congr rfl rfl : child.Grounded env)
      rw [below, Turn.map_map]
      congr 1
      funext outcome
      exact @adopt_settle interpreter child ⟨number, tokens⟩ chosen rfl rfl outcome

theorem step_eq_perform {interpreter : Interpreter} {line : Line}
    (found : interpreter.program.line? interpreter.position = some line)
    : interpreter.step = interpreter.perform line := by
  rw [step, found]

/-- A grounded interpreter on a line takes the turn of the command that the line comes down to. -/
theorem Grounded.step_eq {interpreter : Interpreter} {env : Environment} {line : Line}
    (grounded : interpreter.Grounded env)
    (found : interpreter.program.line? interpreter.position = some line)
    : interpreter.step
      = ((env.commandOf line.tokens).run interpreter.topPosition env).map
          (interpreter.settle line) := by
  rw [step_eq_perform found]
  exact grounded.perform_eq line

theorem topPosition_eq {interpreter : Interpreter} (topLevel : interpreter.isInner = false)
    : interpreter.topPosition = interpreter.position := by
  have absent : interpreter.origin = none := by simpa [isInner] using topLevel
  rw [topPosition, absent, Option.getD_none]

/-- The line comes down to a command on the environment with the number `id`. Outside of
conditionals that is the interpreter's own; inside, it is the first one that was entered under the
name of its own, whether or not that is the same.
-/
inductive Performs (interpreter : Interpreter) (line : Line) : Nat → Environment → Command → Prop
  | directly {env : Environment} {command : Command} (found : interpreter.env? = some env)
    (read : Statement.ofTokens line.tokens = .command command)
    : Performs interpreter line interpreter.id env command
  | inside {own env : Environment} {condition body chosen : List Token}
    {otherwise : Option (List Token)} {id : Nat} (owns : interpreter.env? = some own)
    (read : Statement.ofTokens line.tokens = .branch condition body otherwise)
    (choice : own.choose condition body otherwise = some chosen)
    (first : interpreter.roster.lookup? own.name = some id)
    (found : interpreter.roster.get? id = some env)
    : Performs interpreter line id env (env.commandOf chosen)

/-- The command of a line is executed for the position of the line, and settled where it works.
Witness: the inner interpreter for the body of a conditional is grounded.
-/
theorem Performs.step_eq {interpreter : Interpreter} {line : Line} {id : Nat} {env : Environment}
    {command : Command} (performs : interpreter.Performs line id env command)
    (found : interpreter.program.line? interpreter.position = some line)
    : interpreter.step
      = (command.run interpreter.topPosition env).map (interpreter.settleAt id line) := by
  rw [step_eq_perform found]
  cases performs with
  | directly found read => exact perform_command found read
  | @inside own env condition body chosen otherwise id owns read choice first found =>
      let child := interpreter.spawned line.number chosen id
      have grounded : child.Grounded env := by
        refine ⟨found, ?_⟩
        rw [Roster.name_of_lookup? first found]
        exact first
      rw [perform_chosen owns read choice first, grounded.perform_eq, Turn.map_map]
      congr 1
      funext outcome
      exact @adopt_settle interpreter child line chosen rfl rfl outcome

/-- A line of an interpreter with an environment is passed over because no body of it is chosen, or
it comes down to a command.
-/
theorem perform_cases {interpreter : Interpreter} {own : Environment}
    (owns : interpreter.env? = some own) (line : Line)
    : (∃ condition body otherwise,
        Statement.ofTokens line.tokens = .branch condition body otherwise
        ∧ own.choose condition body otherwise = none)
      ∨ ∃ id env command, interpreter.Performs line id env command := by
  cases read : Statement.ofTokens line.tokens with
  | command command => exact .inr ⟨interpreter.id, own, command, .directly owns read⟩
  | branch condition body otherwise =>
      cases choice : own.choose condition body otherwise with
      | none => exact .inl ⟨condition, body, otherwise, rfl, choice⟩
      | some chosen =>
          obtain ⟨id, env, first, found⟩ := Roster.exists_lookup? owns
          exact .inr ⟨id, env, env.commandOf chosen, .inside owns read choice first found⟩

/-- A step that comes down to no command asks nothing and does nothing but move. -/
theorem step_cases (interpreter : Interpreter)
    : (∃ progress position,
        interpreter.step = .done progress
        ∧ progress.interpreter = { interpreter with position })
      ∨ ∃ line id env command,
          interpreter.program.line? interpreter.position = some line
          ∧ interpreter.Performs line id env command := by
  cases found : interpreter.program.line? interpreter.position with
  | none =>
      have ended : interpreter.step = .done (.finished interpreter (.ok .next)) := by
        rw [step, found]
      exact .inl ⟨_, interpreter.position, ended, rfl⟩
  | some line =>
      rw [step_eq_perform found]
      cases owns : interpreter.env? with
      | none => exact .inl ⟨_, interpreter.position, perform_missing owns line, rfl⟩
      | some own =>
          rcases perform_cases owns line with ⟨_, _, _, read, choice⟩ | ⟨id, env, command, performs⟩
          · exact .inl ⟨_, interpreter.position + 1, perform_unchosen owns read choice, rfl⟩
          · exact .inr ⟨line, id, env, command, rfl, performs⟩

end Interpreter

-----------------------------------------------------------------------------------------
-- Conditional lines as they are written
-----------------------------------------------------------------------------------------

theorem cutAt?_append {mark : Token} {before : List Token} (absent : mark ∉ before)
    (after : List Token)
    : cutAt? mark (before ++ mark :: after) = some (before, after) := by
  have passed : ∀ token ∈ before, (token != mark) = true := by
    intro token member
    simpa using fun same : token = mark => absent (same ▸ member)
  simp [cutAt?, List.dropWhile_append_of_pos passed, List.takeWhile_append_of_pos passed]

theorem cutAt?_eq_none {mark : Token} {tokens : List Token} (absent : mark ∉ tokens)
    : cutAt? mark tokens = none := by
  have passed : ∀ token ∈ tokens, (token != mark) = true := by
    intro token member
    simpa using fun same : token = mark => absent (same ▸ member)
  have dropped : tokens.dropWhile (· != mark) = [] := by
    rw [← List.append_nil tokens, List.dropWhile_append_of_pos passed]
    rfl
  simp only [cutAt?, dropped]

/-- The parts of a conditional line. The condition ends at the first `THEN` and the body at the
first `ELSE` after it; the second body may be missing.
-/
structure Conditional where
  condition : List Token
  body : List Token
  otherwise : Option (List Token)
  condition_ends : .keyword .THEN ∉ condition
  body_ends : .keyword .ELSE ∉ body

namespace Conditional

/-- The line as it is written. -/
def tokens (conditional : Conditional) : List Token :=
  .keyword .IF :: conditional.condition ++ .keyword .THEN :: conditional.body
    ++ conditional.otherwise.elim [] (.keyword .ELSE :: ·)

/-- The body that is chosen in an environment. -/
def chosen (conditional : Conditional) (env : Environment) : Option (List Token) :=
  if env.holds conditional.condition then some conditional.body else conditional.otherwise

/-- A conditional line is read as its parts. -/
theorem ofTokens_tokens (conditional : Conditional)
    : Statement.ofTokens conditional.tokens
      = .branch conditional.condition conditional.body conditional.otherwise := by
  obtain ⟨condition, body, otherwise, condition_ends, body_ends⟩ := conditional
  cases otherwise with
  | none =>
      simp [tokens, Statement.ofTokens, cutAt?_append condition_ends, cutAt?_eq_none body_ends]
  | some other =>
      simp [tokens, Statement.ofTokens, cutAt?_append condition_ends, cutAt?_append body_ends]

end Conditional

/-- In this environment the tokens lead to `body` through any number of nested conditionals, in
each of which the condition chooses what comes next.
-/
inductive Environment.Selects (env : Environment) : List Token → List Token → Prop
  | here (tokens : List Token) : env.Selects tokens tokens
  | inside (conditional : Conditional) {chosen body : List Token}
    (choice : conditional.chosen env = some chosen) (nested : env.Selects chosen body)
    : env.Selects conditional.tokens body

/-- A line comes down to the command of every body that it selects, by induction along the nested
conditionals.
-/
theorem Environment.Selects.commandOf_eq {env : Environment} {tokens body : List Token}
    (selects : env.Selects tokens body)
    : env.commandOf tokens = env.commandOf body := by
  induction selects with
  | here => rfl
  | inside conditional choice _ ih =>
      rw [← ih]
      exact commandOf_chosen conditional.ofTokens_tokens choice

-----------------------------------------------------------------------------------------
-- The same position with another line
-----------------------------------------------------------------------------------------

namespace Program

/-- The program with other tokens in the line at a position. -/
def withTokens (program : Program) (position : Nat) (tokens : List Token) : Program where
  lines := program.lines.modify position fun line => { line with tokens }

theorem line?_withTokens {program : Program} {position : Nat} {line : Line}
    (found : program.line? position = some line) (tokens : List Token)
    : (program.withTokens position tokens).line? position = some { line with tokens } := by
  have found : program.lines[position]? = some line := found
  simp [line?, withTokens, Array.getElem?_modify, found]

/-- Binary search reads nothing but line numbers, by induction on its range. -/
theorem searchBetween_congr {lines others : Array Line}
    (numbers : ∀ i : Nat, others[i]?.map Line.number = lines[i]?.map Line.number)
    (number low high : Nat)
    : searchBetween others number low high = searchBetween lines number low high := by
  fun_induction searchBetween lines number low high with
  | case1 low high within middle missing =>
      have same := numbers middle
      rw [searchBetween, if_pos within]
      grind
  | case2 low high within middle line found hit =>
      have same := numbers middle
      rw [searchBetween, if_pos within]
      grind
  | case3 low high within middle line found miss below ih =>
      have same := numbers middle
      rw [searchBetween, if_pos within]
      grind
  | case4 low high within middle line found miss above ih =>
      have same := numbers middle
      rw [searchBetween, if_pos within]
      grind
  | case5 low high empty => rw [searchBetween, if_neg empty]

/-- Other tokens in a line move no line. -/
theorem indexOf?_withTokens (program : Program) (position : Nat) (tokens : List Token)
    (number : Nat)
    : (program.withTokens position tokens).indexOf? number = program.indexOf? number := by
  have numbers (i : Nat)
      : (program.withTokens position tokens).lines[i]?.map Line.number
        = program.lines[i]?.map Line.number := by
    simp only [withTokens, Array.getElem?_modify]
    split <;> simp [Function.comp_def]
  have size : (program.withTokens position tokens).lines.size = program.lines.size := by
    simp [withTokens]
  rw [indexOf?, size, searchBetween_congr numbers, indexOf?]

end Program

/-- The same progress with the interpreter on another program. -/
def Progress.onProgram (program : Program) : Progress → Progress
  | .running interpreter => .running { interpreter with program }
  | .finished interpreter result => .finished { interpreter with program } result

namespace Interpreter

/-- A program with the same positions of lines is settled on alike, by cases on the transfer. -/
theorem settle_onProgram {interpreter : Interpreter} {program : Program}
    (positions : ∀ number, program.indexOf? number = interpreter.program.indexOf? number)
    (line : Line) (outcome : Outcome)
    : { interpreter with program }.settle line outcome
      = (interpreter.settle line outcome).onProgram program := by
  obtain ⟨env, transfer⟩ := outcome
  cases transfer with
  | error fault => rfl
  | ok transfer =>
      cases transfer with
      | next => rfl
      | halt => rfl
      | jump number =>
          simp only [settle, follow, isInner, positions]
          cases interpreter.origin with
          | some top => rfl
          | none => cases interpreter.program.indexOf? number <;> rfl
      | resume position =>
          simp only [settle, follow, isInner]
          cases interpreter.origin <;> rfl

/-- Conditional lines are transparent at the top level, to any depth of nesting. With any body that
the line selects in its place, the program takes the same turn: the same request, and for every
answer the same environment, position and result. A line that selects a conditional without a chosen
body only falls through. A selected command works on the top-level environment and records the
top-level position. Witness: both lines come down to the same command.
-/
theorem step_conditional {interpreter : Interpreter} {env : Environment} {line : Line}
    (topLevel : interpreter.isInner = false) (grounded : interpreter.Grounded env)
    (found : interpreter.program.line? interpreter.position = some line)
    : (∀ body,
        env.Selects line.tokens body
        → { interpreter with
              program := interpreter.program.withTokens interpreter.position body }.step
          = interpreter.step.map
              (.onProgram (interpreter.program.withTokens interpreter.position body)))
      ∧ (∀ conditional : Conditional,
          env.Selects line.tokens conditional.tokens
          → conditional.chosen env = none
          → interpreter.step
            = .done (.running { interpreter with position := interpreter.position + 1 }))
      ∧ ∀ body command,
          env.Selects line.tokens body
          → Statement.ofTokens body = .command command
          → interpreter.step
            = (command.run interpreter.position env).map (interpreter.settle line) := by
  have position := topPosition_eq topLevel
  have step := grounded.step_eq found
  refine ⟨?_, ?_, ?_⟩
  · intro body selects
    let other : Interpreter :=
      { interpreter with program := interpreter.program.withTokens interpreter.position body }
    have otherGrounded : other.Grounded env := grounded.congr rfl rfl
    have otherFound : other.program.line? other.position = some { line with tokens := body } :=
      Program.line?_withTokens found body
    have sameTop : other.topPosition = interpreter.topPosition := rfl
    rw [otherGrounded.step_eq otherFound, step, Turn.map_map, selects.commandOf_eq, sameTop]
    congr 1
    funext outcome
    exact settle_onProgram (Program.indexOf?_withTokens _ _ body) line outcome
  · intro conditional selects unchosen
    have skipped := Environment.commandOf_unchosen conditional.ofTokens_tokens unchosen
    rw [step, selects.commandOf_eq, skipped]
    simp only [Command.run, Turn.map, settle, Outcome.next, follow, Roster.set_self grounded.found]
  · intro body command selects read
    rw [step, selects.commandOf_eq, Environment.commandOf_command read, position]

/-- A call inside two conditionals, on the second line of a program, goes to the first line and
records position one.
-/
theorem step_conditional_nested_call
    : let body : List Token := [.keyword .GOSUB, .number "10"]
      let condition : List Token := [.keyword .IF, .number "1", .keyword .THEN]
      let line : Line := ⟨20, condition ++ condition ++ body⟩
      let env : Environment := { name := "main" }
      let interpreter : Interpreter :=
        { Interpreter.start ⟨#[⟨10, [.keyword .REM]⟩, line]⟩ {} "main" .pro with position := 1 }
      interpreter.isInner = false
      ∧ interpreter.Grounded env
      ∧ interpreter.program.line? interpreter.position = some line
      ∧ env.Selects line.tokens body
      ∧ interpreter.step
        = ((Command.gosub [.number "10"]).run 1 env).map (interpreter.settle line)
      ∧ ∃ after : Interpreter,
          interpreter.step = .done (.running after)
          ∧ after.position = 0
          ∧ after.env?.map (fun env => env.calls.items) = some [1] := by
  intro body condition line env interpreter
  have topLevel : interpreter.isInner = false := rfl
  have grounded : interpreter.Grounded env := ⟨rfl, by decide +kernel⟩
  have found : interpreter.program.line? interpreter.position = some line := rfl
  have holds : env.holds [.number "1"] = true := by decide +kernel
  let inner : Conditional := ⟨[.number "1"], body, none, by decide, by decide⟩
  let outer : Conditional := ⟨[.number "1"], inner.tokens, none, by decide, by decide⟩
  have selects : env.Selects line.tokens body :=
    .inside outer (if_pos holds) (.inside inner (if_pos holds) (.here body))
  have same : interpreter.step
      = ((Command.gosub [.number "10"]).run 1 env).map (interpreter.settle line) :=
    (step_conditional topLevel grounded found).2.2 body _ selects rfl
  have target : env.lineTarget [.number "10"] = .ok 10 :=
    eq_ok_of_toOption (by decide +kernel)
  have listed : interpreter.program.indexOf? 10 = some 0 := by decide +kernel
  let called : Environment := { env with calls := env.calls.push 1 }
  have entered : interpreter.step = .done (interpreter.settle line ⟨called, .ok (.jump 10)⟩) := by
    rw [same, Command.run, target]
    rfl
  have settled : interpreter.settle line ⟨called, .ok (.jump 10)⟩
      = .running { interpreter with roster := interpreter.roster.set 0 called, position := 0 } := by
    simp only [settle, follow, isInner, listed]
    rfl
  exact ⟨topLevel, grounded, found, selects, same, _, entered.trans (congrArg _ settled), rfl, rfl⟩

end Interpreter

end Gosub
