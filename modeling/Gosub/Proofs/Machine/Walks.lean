import Gosub.Machine.Script
import Gosub.Proofs.Machine.Failures
import Gosub.Proofs.Machine.Histories
import Gosub.Proofs.Machine.Rosters

/-! Walks. An inner interpreter goes through its program from the first line on and stops at the
first one that asks for anything else than the next, so it always comes to an end. A top-level
interpreter goes wherever its lines ask for, and when it is done there is no jump left to make.
-/

namespace Gosub

-----------------------------------------------------------------------------------------
-- Turns with the answer of the host
-----------------------------------------------------------------------------------------

/-- What a turn comes to with the answer of a host. -/
def Turn.answered {σ α : Type} (host : Responder σ) (state : σ) : Turn α → α
  | .done result => result
  | .ask request resume => resume (host.answer request state).1

theorem Turn.answered_map {σ α β : Type} (host : Responder σ) (state : σ) (turn : Turn α)
    (f : α → β)
    : (turn.map f).answered host state = f (turn.answered host state) := by
  cases turn <;> rfl

namespace Interpreter

variable {interpreter : Interpreter} {line : Line} {verdict : Verdict}

/-- A step moves an interpreter, on a roster that may have changed, and does nothing else to it. -/
theorem moved_of_step {progress : Progress} (yields : interpreter.step.Yields progress)
    : ∃ roster position, progress.interpreter = { interpreter with roster, position } := by
  rcases step_cases interpreter with
    ⟨idle, position, done, same⟩ | ⟨line, id, env, command, found, performs⟩
  · rw [done] at yields
    cases yields
    exact ⟨interpreter.roster, position, same⟩
  · rw [performs.step_eq found] at yields
    obtain ⟨outcome, _, rfl⟩ := yields.of_map
    obtain ⟨position, settled⟩ := settleAt_interpreter interpreter id line outcome
    exact ⟨_, position, settled⟩

/-- An inner interpreter starts on the first line of its program. -/
theorem inner_starts {program : Program} {roster : Roster} {name : String} {mode : ReportMode}
    {origin : Nat} {child : Interpreter}
    (attached : inner program roster name mode origin = .ok child)
    : child.program = program ∧ child.position = 0 ∧ child.isInner = true := by
  unfold inner at attached
  split at attached
  · cases attached
  · cases attached
    exact ⟨rfl, rfl, rfl⟩

/-- What a transfer comes to. The interpreter moves, it ends with the transfer handed back, or it is
at the top level and does not have the line to jump to. Only an inner interpreter hands back
anything else than a halt, and it moves for nothing but the next line.
-/
theorem follow_cases (interpreter : Interpreter) (line : Line) (transfer : Transfer)
    : (∃ position,
        (transfer = .next ∨ interpreter.isInner = false)
        ∧ interpreter.follow line transfer = .running { interpreter with position })
      ∨ ((transfer = .halt ∨ interpreter.isInner = true)
        ∧ interpreter.follow line transfer = .finished interpreter (.ok transfer))
      ∨ ∃ number,
          transfer = .jump number
          ∧ interpreter.isInner = false
          ∧ interpreter.program.indexOf? number = none
          ∧ interpreter.follow line transfer
            = .finished interpreter
                (.error ⟨.undefinedLine (toString number), some line.number⟩) := by
  cases transfer with
  | next => exact .inl ⟨interpreter.position + 1, .inl rfl, rfl⟩
  | halt => exact .inr (.inl ⟨.inl rfl, rfl⟩)
  | resume position =>
      cases within : interpreter.isInner with
      | true => exact .inr (.inl ⟨.inr rfl, if_pos within⟩)
      | false =>
          refine .inl ⟨position + 1, .inr rfl, ?_⟩
          simp only [follow, within]
          rfl
  | jump number =>
      cases within : interpreter.isInner with
      | true => exact .inr (.inl ⟨.inr rfl, if_pos within⟩)
      | false =>
          cases found : interpreter.program.indexOf? number with
          | some position =>
              refine .inl ⟨position, .inr rfl, ?_⟩
              simp only [follow, within, found]
              rfl
          | none =>
              refine .inr (.inr ⟨number, rfl, rfl, found, ?_⟩)
              simp only [follow, within, found]
              rfl

/-- An inner interpreter stops at every line that asks for anything else than the next, and hands
back what the line asks for.
-/
theorem obey_of_inner (inner : interpreter.isInner = true) (stops : verdict.result ≠ .ok .next)
    : interpreter.obey line verdict
      = .finished { interpreter with roster := verdict.roster }
          (verdict.result.mapError (·.atLine line.number)) := by
  obtain ⟨roster, result⟩ := verdict
  cases result with
  | error error => rfl
  | ok transfer =>
      have within : { interpreter with roster }.isInner = true := inner
      rcases follow_cases { interpreter with roster } line transfer with
        ⟨_, rfl | outer, _⟩ | ⟨_, handed⟩ | ⟨_, _, outer, _⟩
      · exact absurd rfl stops
      · rw [within] at outer
        cases outer
      · exact handed
      · rw [within] at outer
        cases outer

/-- Only an `END` brings a top-level interpreter to an end without an error. -/
theorem halt_of_obey {ended : Interpreter} {transfer : Transfer}
    (topLevel : interpreter.isInner = false)
    (finished : interpreter.obey line verdict = .finished ended (.ok transfer))
    : transfer = .halt := by
  obtain ⟨roster, result⟩ := verdict
  cases result with
  | error error => cases finished
  | ok asked =>
      have outer : { interpreter with roster }.isInner = false := topLevel
      have followed : { interpreter with roster }.follow line asked = _ := finished
      rcases follow_cases { interpreter with roster } line asked with
        ⟨_, _, same⟩ | ⟨rfl | within, same⟩ | ⟨_, _, _, _, same⟩
      · cases same.symm.trans followed
      · cases same.symm.trans followed
        rfl
      · rw [outer] at within
        cases within
      · cases same.symm.trans followed

end Interpreter

theorem mapError_eq_ok {ε ε' α : Type} {result : Except ε α} {f : ε → ε'} {value : α}
    (done : result.mapError f = .ok value)
    : result = .ok value := by
  cases result with
  | ok found =>
      cases done
      rfl
  | error error => cases done

/-- An execution that hands its errors back is finished with whatever it comes to. -/
theorem Task.conclude_handBack (interpreter : Interpreter) (result : Except Error Transfer)
    : conclude interpreter .handBack result = .finished (some interpreter) result := by
  cases result <;> rfl

/-- What is handed back without an error has been brought to an end without an error. -/
theorem Task.eq_ok_of_conclude {interpreter : Interpreter} {ended : Option Interpreter}
    {policy : ErrorPolicy} {result : Except Error Transfer} {transfer : Transfer}
    (concluded : conclude interpreter policy result = .finished ended (.ok transfer))
    : result = .ok transfer := by
  cases result with
  | ok done =>
      cases concluded
      rfl
  | error error => cases policy <;> cases concluded

-----------------------------------------------------------------------------------------
-- Attempts of a world
-----------------------------------------------------------------------------------------

namespace World

variable {σ : Type} {host : Responder σ} {world : World σ} {policy : ErrorPolicy}

theorem task_advance (host : Responder σ) (world : World σ)
    : (world.advance host).task = world.task.turn.answered host world.host := by
  unfold advance
  cases world.task.turn <;> rfl

/-- In this turn the world attempts a line of its program, which comes to `verdict`. -/
structure Attempts (host : Responder σ) (world : World σ) (policy : ErrorPolicy)
    (interpreter : Interpreter) (line : Line) (verdict : Verdict)
    : Prop where
  task : world.task = .executing interpreter policy
  found : interpreter.program.line? interpreter.position = some line
  comes : (interpreter.attempt line).answered host world.host = verdict

/-- After the attempt of a line its transfer is followed. -/
theorem Attempts.task_advance {interpreter : Interpreter} {line : Line} {verdict : Verdict}
    (attempts : world.Attempts host policy interpreter line verdict)
    : (world.advance host).task = .ofProgress policy (interpreter.obey line verdict) := by
  rw [World.task_advance, attempts.task, Task.turn, Interpreter.step_eq_perform attempts.found,
    interpreter.perform_eq_attempt, Turn.answered_map, Turn.answered_map, attempts.comes]

/-- An execution that stands on a line attempts it. -/
theorem exists_attempts (host : Responder σ) {interpreter : Interpreter} {line : Line}
    (task : world.task = .executing interpreter policy)
    (found : interpreter.program.line? interpreter.position = some line)
    : ∃ verdict, world.Attempts host policy interpreter line verdict :=
  ⟨_, task, found, rfl⟩

/-- What an execution is finished with stays. -/
theorem task_advanceBy_of_finished {ended : Option Interpreter} {result : Except Error Transfer}
    (task : world.task = .finished ended result) (host : Responder σ) (turns : Nat)
    : (advanceBy host turns world).task = .finished ended result := by
  have finished : world.isFinished = true := by
    rw [isFinished, task]
    rfl
  rw [advanceBy_of_finished finished, task]

/-- Past the last line an execution ends. -/
theorem task_advance_past {interpreter : Interpreter}
    (task : world.task = .executing interpreter policy)
    (past : interpreter.program.line? interpreter.position = none) (host : Responder σ)
    : (world.advance host).task = .finished (some interpreter) (.ok .next) := by
  rw [task_advance, task, Task.turn, Interpreter.step, past]
  rfl

/-- The interpreter of an execution moves on rosters that change, and stays the same otherwise. By
induction on the turns.
-/
theorem moved_advanceBy {start after : Interpreter} (task : world.task = .executing start policy)
    (host : Responder σ) (turns : Nat)
    (reached : (advanceBy host turns world).task.interpreter? = some after)
    : ∃ roster position, after = { start with roster, position } := by
  induction turns generalizing after with
  | zero =>
      rw [advanceBy, task] at reached
      cases reached
      exact ⟨start.roster, start.position, rfl⟩
  | succ turns ih =>
      have yields := advance_yields host (advanceBy host turns world)
      rw [← advanceBy_succ] at yields
      generalize (advanceBy host (turns + 1) world).task = later at yields reached
      cases before : (advanceBy host turns world).task with
      | rejected error =>
          rw [before] at yields
          cases yields
          cases reached
      | executing interpreter policy =>
          rw [before] at yields ih
          obtain ⟨progress, stepped, rfl⟩ := yields.of_map
          rw [Task.interpreter?_ofProgress] at reached
          cases reached
          obtain ⟨_, _, rfl⟩ := ih rfl
          obtain ⟨roster, position, moved⟩ := Interpreter.moved_of_step stepped
          exact ⟨roster, position, moved⟩
      | reporting | finished =>
          rw [before] at yields ih
          cases yields
          exact ih reached

-----------------------------------------------------------------------------------------
-- Walks through a program
-----------------------------------------------------------------------------------------

/-- The execution goes through the lines listed, one a turn. Each but the last asks for the next
line, and so does the last where the program ends behind it. Otherwise the last asks for something
else or fails, and that is the result, placed on the line where it is an error.
-/
inductive Walks (host : Responder σ)
    : World σ → List Line → Interpreter → Except Error Transfer → Prop
  | past {world : World σ} {interpreter : Interpreter}
    (task : world.task = .executing interpreter .handBack)
    (past : interpreter.program.line? interpreter.position = none)
    : Walks host world [] interpreter (.ok .next)
  | stops {world : World σ} {interpreter : Interpreter} {line : Line} {verdict : Verdict}
    (attempts : world.Attempts host .handBack interpreter line verdict)
    (stops : verdict.result ≠ .ok .next)
    : Walks host world [line] { interpreter with roster := verdict.roster }
        (verdict.result.mapError (·.atLine line.number))
  | goes {world : World σ} {interpreter ended : Interpreter} {line : Line} {lines : List Line}
    {roster : Roster} {result : Except Error Transfer}
    (attempts : world.Attempts host .handBack interpreter line ⟨roster, .ok .next⟩)
    (rest : Walks host (world.advance host) lines ended result)
    : Walks host world (line :: lines) ended result

/-- An inner interpreter walks through the lines ahead of it, up to the first that stops it. Then
its execution is finished. By induction on the lines ahead.
-/
theorem exists_walk {child : Interpreter} (task : world.task = .executing child .handBack)
    (inner : child.isInner = true) (host : Responder σ) {ahead : List Line}
    (lines : child.program.lines.toList.drop child.position = ahead)
    : ∃ walked ended result,
        world.Walks host walked ended result
        ∧ walked <+: ahead
        ∧ (result = .ok .next → walked = ahead)
        ∧ (advanceBy host (ahead.length + 1) world).task = .finished (some ended) result := by
  induction ahead generalizing world child with
  | nil =>
      have past : child.program.line? child.position = none := by
        rw [Program.line?, ← Array.getElem?_toList, ← List.head?_drop, lines]
        rfl
      exact ⟨[], child, .ok .next, .past task past, List.nil_prefix, fun _ => rfl,
        task_advance_past task past host⟩
  | cons line rest ih =>
      have found : child.program.line? child.position = some line := by
        rw [Program.line?, ← Array.getElem?_toList, ← List.head?_drop, lines]
        rfl
      obtain ⟨verdict, attempts⟩ := exists_attempts host task found
      have after := attempts.task_advance
      by_cases next : verdict.result = .ok .next
      · obtain ⟨roster, result⟩ := verdict
        cases next
        have behind : child.program.lines.toList.drop (child.position + 1) = rest := by
          rw [← List.tail_drop, lines, List.tail_cons]
        obtain ⟨walked, ended, result, walks, within, whole, finished⟩ := ih after inner behind
        exact ⟨line :: walked, ended, result, .goes attempts walks,
          List.cons_prefix_cons.mpr ⟨rfl, within⟩, fun asked => by rw [whole asked], finished⟩
      · rw [Interpreter.obey_of_inner inner next, Task.ofProgress, Task.conclude_handBack] at after
        have within : [line] <+: line :: rest := List.cons_prefix_cons.mpr ⟨rfl, List.nil_prefix⟩
        -- The bound counts the lines that are never reached; a finished world waits them out.
        exact ⟨[line], _, _, .stops attempts next, within,
          fun asked => absurd (mapError_eq_ok asked) next,
          task_advanceBy_of_finished after host (rest.length + 1)⟩

/-- The body of a conditional is an execution of its own, of a program of one line: what the line
comes to is what this execution is finished with, on the roster that it leaves behind.
-/
theorem attempt_of_inner {interpreter child : Interpreter} {env : Environment} {line : Line}
    {condition body tokens : List Token} {otherwise : Option (List Token)}
    (found : interpreter.env? = some env)
    (read : Statement.ofTokens line.tokens = .branch condition body otherwise)
    (choice : env.choose condition body otherwise = some tokens)
    (attached
      : Interpreter.inner (.single line.number tokens) interpreter.roster env.name interpreter.mode
          interpreter.topPosition
        = .ok child)
    (task : world.task = .executing child .handBack) (host : Responder σ)
    : ∃ ended result,
        (advanceBy host 2 world).task = .finished (some ended) result
        ∧ (interpreter.attempt line).answered host world.host = ⟨ended.roster, result⟩ := by
  have comes
      : interpreter.attempt line = (child.perform { line with tokens }).map Progress.verdict := by
    simp only [Interpreter.attempt, found, read, choice, attached]
  obtain ⟨onProgram, atStart, inner⟩ := Interpreter.inner_starts attached
  have onLine : child.program.line? child.position = some { line with tokens } := by
    rw [onProgram, atStart]
    rfl
  obtain ⟨verdict, attempts⟩ := exists_attempts host task onLine
  have after := attempts.task_advance
  rw [comes, child.perform_eq_attempt, Turn.answered_map, Turn.answered_map, attempts.comes]
  by_cases next : verdict.result = .ok .next
  · obtain ⟨roster, result⟩ := verdict
    cases next
    have past : child.program.line? (child.position + 1) = none := by
      rw [onProgram, atStart]
      rfl
    exact ⟨_, .ok .next, task_advance_past after past host, rfl⟩
  · rw [Interpreter.obey_of_inner inner next] at after ⊢
    rw [Task.ofProgress, Task.conclude_handBack] at after
    exact ⟨_, _, task_advanceBy_of_finished after host 1, rfl⟩

/-- An execution at the top level that is finished without an error leaves no jump to make. By
induction on the turns: a jump and a return are followed by the interpreter itself.
-/
theorem ended_of_topLevel {interpreter : Interpreter}
    (task : world.task = .executing interpreter policy) (topLevel : interpreter.isInner = false)
    (turns : Nat) {ended : Interpreter} {transfer : Transfer}
    (finished : (advanceBy host turns world).task = .finished (some ended) (.ok transfer))
    : transfer = .next ∨ transfer = .halt := by
  induction turns generalizing ended with
  | zero =>
      rw [advanceBy, task] at finished
      cases finished
  | succ turns ih =>
      rw [advanceBy_succ] at finished
      cases before : (advanceBy host turns world).task with
      | rejected error =>
          rw [task_advance, before] at finished
          cases finished
      | finished last result =>
          rw [task_advance, before] at finished
          cases finished
          exact ih before
      | reporting last policy error =>
          rw [task_advance, before] at finished
          cases policy <;> cases finished
          exact .inr rfl
      | executing last later =>
          have reached : (advanceBy host turns world).task.interpreter? = some last := by
            rw [before]
            rfl
          obtain ⟨roster, position, moved⟩ := moved_advanceBy task host turns reached
          have outer : last.isInner = false := by
            rw [moved]
            exact topLevel
          cases found : last.program.line? last.position with
          | none =>
              rw [task_advance_past before found] at finished
              cases finished
              exact .inl rfl
          | some line =>
              obtain ⟨verdict, attempts⟩ := exists_attempts host before found
              rw [attempts.task_advance] at finished
              cases obeyed : last.obey line verdict with
              | running next =>
                  rw [obeyed] at finished
                  cases finished
              | finished next result =>
                  rw [obeyed, Task.ofProgress] at finished
                  obtain rfl := Task.eq_ok_of_conclude finished
                  exact .inr (Interpreter.halt_of_obey outer obeyed)

/-- An inner interpreter only walks forward, and no jump leaks from the top level. An inner
interpreter, for a program of any length and on any roster, attempts the lines of its program from
the first on, each at most once. It hands back the first thing asked for that is not the next line,
or the first error, placed on its line; where all lines ask for the next it hands back just that. So
for every host it comes to an end, within one turn more than there are lines. The body of a
conditional is executed in this way. What a top-level interpreter hands back, wherever it starts, is
an error, the end of its program or a halt.
-/
theorem inner_walks_forward (host : Responder σ) (state : σ)
    : (∀ program roster name mode origin child,
        Interpreter.inner program roster name mode origin = .ok child
        → ∃ walked ended result,
            Walks host { task := .executing child .handBack, host := state } walked ended result
            ∧ walked <+: program.lines.toList
            ∧ (result = .ok .next → walked = program.lines.toList)
            ∧ (advanceBy host (program.size + 1)
                { task := .executing child .handBack, host := state }).task
              = .finished (some ended) result)
      ∧ (∀ (interpreter : Interpreter) env line condition body otherwise tokens child,
          interpreter.env? = some env
          → Statement.ofTokens line.tokens = .branch condition body otherwise
          → env.choose condition body otherwise = some tokens
          → Interpreter.inner (.single line.number tokens) interpreter.roster env.name
              interpreter.mode interpreter.topPosition
            = .ok child
          → ∃ ended result,
              (advanceBy host 2 { task := .executing child .handBack, host := state }).task
                = .finished (some ended) result
              ∧ (interpreter.attempt line).answered host state = ⟨ended.roster, result⟩)
      ∧ ∀ (interpreter : Interpreter) policy turns ended transfer,
          interpreter.isInner = false
          → (advanceBy host turns { task := .executing interpreter policy, host := state }).task
            = .finished (some ended) (.ok transfer)
          → transfer = .next ∨ transfer = .halt := by
  refine ⟨?_, ?_, ?_⟩
  · intro program roster name mode origin child attached
    obtain ⟨rfl, atStart, inner⟩ := Interpreter.inner_starts attached
    have whole : child.program.lines.toList.drop child.position = child.program.lines.toList := by
      rw [atStart, List.drop_zero]
    exact exists_walk rfl inner host whole
  · intro interpreter env line condition body otherwise tokens child found read choice attached
    exact attempt_of_inner found read choice attached rfl host
  · intro interpreter policy turns ended transfer topLevel finished
    exact ended_of_topLevel rfl topLevel turns finished

/-- An inner interpreter on three lines, whose second jumps inside a conditional, beside a halt at
the top level.
-/
theorem inner_walks_forward_to_jump
    : let jump : List Token := [.keyword .GOTO, .number "40"]
      let line : Line := ⟨20, [.keyword .IF, .number "1", .keyword .THEN] ++ jump⟩
      let program : Program := ⟨#[⟨10, [.keyword .REM]⟩, line, ⟨30, [.keyword .END]⟩]⟩
      let env : Environment := { name := "main" }
      let roster : Roster := { environments := #[env] }
      let child : Interpreter := { program, roster, id := 0, mode := .pro, origin := some 7 }
      let body : Interpreter := { child with program := .single 20 jump }
      let host := Script.host fun _ => none
      let top := Interpreter.start (.single 10 [.keyword .END]) {} "main" .dev
      Interpreter.inner program roster "main" .pro 7 = .ok child
      ∧ (∃ walked ended result,
          Walks host { task := .executing child .handBack, host := {} } walked ended result
          ∧ walked <+: program.lines.toList
          ∧ (result = .ok .next → walked = program.lines.toList)
          ∧ (advanceBy host 4 { task := .executing child .handBack, host := {} }).task
            = .finished (some ended) result)
      ∧ env.choose [.number "1"] jump none = some jump
      ∧ Interpreter.inner (.single 20 jump) roster "main" .pro 7 = .ok body
      ∧ (∃ ended result,
          (advanceBy host 2 { task := .executing body .handBack, host := {} }).task
            = .finished (some ended) result
          ∧ (child.attempt line).answered host {} = ⟨ended.roster, result⟩)
      ∧ top.isInner = false
      ∧ (advanceBy host 1 { task := .executing top .absorb, host := {} }).task
        = .finished (some top) (.ok .halt)
      ∧ (Transfer.halt = .next ∨ Transfer.halt = .halt) := by
  intro jump line program env roster child body host top
  have entered : roster.lookup? "main" = some 0 := by decide +kernel
  have attached : Interpreter.inner program roster "main" .pro 7 = .ok child := by
    rw [Interpreter.inner, entered]
  have attached' : Interpreter.inner (.single 20 jump) roster "main" .pro 7 = .ok body := by
    rw [Interpreter.inner, entered]
  have choice : env.choose [.number "1"] jump none = some jump :=
    if_pos (show env.holds [.number "1"] = true by decide +kernel)
  have attempts
      : Attempts host { task := .executing top .absorb, host := {} } .absorb top
          ⟨10, [.keyword .END]⟩ ⟨top.roster, .ok .halt⟩ :=
    ⟨rfl, rfl, rfl⟩
  have finished := attempts.task_advance
  obtain ⟨walks, bodies, ends⟩ := inner_walks_forward host {}
  exact ⟨attached, walks _ _ _ _ _ _ attached, choice, attached',
    bodies child env line _ _ _ _ _ rfl rfl choice attached', rfl, finished,
    ends top .absorb 1 top .halt rfl finished⟩

end World

end Gosub
