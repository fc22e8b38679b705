import Gosub.Machine.World
import Gosub.Proofs.Machine.Conditionals
import Gosub.Proofs.Statement.Effects

/-! Runs at the top level. Each turn of a run executes one line, and what it can do is the effect of
one command; a run stays on its program and on its environment until it ends. What a single command
does to one environment is told for every roster, also where another one has the same name.
-/

namespace Gosub

-----------------------------------------------------------------------------------------
-- One line of a top-level program
-----------------------------------------------------------------------------------------

namespace Interpreter

/-- The interpreter after a command has left `env` behind. -/
def updated (interpreter : Interpreter) (env : Environment) : Interpreter :=
  { interpreter with roster := interpreter.roster.set interpreter.id env }

/-- Where a top-level interpreter goes after a transfer. -/
inductive Lands (interpreter : Interpreter) : Transfer → Nat → Prop
  | next : interpreter.Lands .next (interpreter.position + 1)
  | jump {number position : Nat} (found : interpreter.program.indexOf? number = some position)
    : interpreter.Lands (.jump number) position
  | resume (origin : Nat) : interpreter.Lands (.resume origin) (origin + 1)

/-- What becomes of a top-level interpreter after a command: it goes on, halts, or fails, because
the command failed or because it asked for a line that does not exist.
-/
inductive Settles (interpreter : Interpreter) (line : Line) (outcome : Outcome) : Progress → Prop
  | running {transfer : Transfer} {position : Nat} (done : outcome.transfer = .ok transfer)
    (lands : interpreter.Lands transfer position)
    : Settles interpreter line outcome
        (.running { interpreter.updated outcome.env with position })
  | halted (done : outcome.transfer = .ok .halt)
    : Settles interpreter line outcome
        (.finished (interpreter.updated outcome.env) (.ok .halt))
  | failed {fault : Fault} (fails : outcome.transfer = .error fault)
    : Settles interpreter line outcome
        (.finished (interpreter.updated outcome.env) (.error ⟨fault, some line.number⟩))
  | lost {number : Nat} (done : outcome.transfer = .ok (.jump number))
    (missing : interpreter.program.indexOf? number = none)
    : Settles interpreter line outcome
        (.finished (interpreter.updated outcome.env)
          (.error ⟨.undefinedLine (toString number), some line.number⟩))

/-- A top-level interpreter settles in one of these ways, by cases on the transfer. -/
theorem settle_settles {interpreter : Interpreter} (topLevel : interpreter.isInner = false)
    (line : Line) (outcome : Outcome)
    : interpreter.Settles line outcome (interpreter.settle line outcome) := by
  obtain ⟨env, transfer⟩ := outcome
  have outer (roster : Roster) : { interpreter with roster }.isInner = false := topLevel
  cases transfer with
  | error fault => exact .failed rfl
  | ok transfer =>
      cases transfer with
      | next => exact .running rfl .next
      | halt => exact .halted rfl
      | resume origin =>
          simp only [settle, follow, outer]
          exact .running rfl (.resume origin)
      | jump number =>
          simp only [settle, follow, outer]
          cases found : interpreter.program.indexOf? number with
          | some position => exact .running rfl (.jump found)
          | none => exact .lost rfl found

/-- A transfer with a place to land keeps a top-level interpreter running there, whatever
environment its command has worked on.
-/
theorem settleAt_of_lands {interpreter : Interpreter} {transfer : Transfer} {position : Nat}
    (topLevel : interpreter.isInner = false) (lands : interpreter.Lands transfer position)
    (id : Nat) (line : Line) (env : Environment)
    : interpreter.settleAt id line ⟨env, .ok transfer⟩
      = .running { interpreter with roster := interpreter.roster.set id env, position } := by
  have outer (roster : Roster) : { interpreter with roster }.isInner = false := topLevel
  cases lands with
  | next => rfl
  | jump found => simp [settleAt, follow, outer, found]
  | resume origin => simp [settleAt, follow, outer]

/-- The interpreter executes the same program as another, on an environment of the same number. -/
structure Continues (after before : Interpreter) : Prop where
  program : after.program = before.program
  id : after.id = before.id

theorem continues_of_follow {interpreter after : Interpreter} {line : Line} {transfer : Transfer}
    {roster : Roster} (running : { interpreter with roster }.follow line transfer = .running after)
    : after.Continues interpreter := by
  cases transfer with
  | next =>
      cases running
      exact ⟨rfl, rfl⟩
  | halt => cases running
  | jump number =>
      simp only [follow] at running
      split at running
      · cases running
      · split at running
        · cases running
          exact ⟨rfl, rfl⟩
        · cases running
  | resume origin =>
      simp only [follow] at running
      split at running
      · cases running
      · cases running
        exact ⟨rfl, rfl⟩

theorem continues_of_settle {interpreter after : Interpreter} {line : Line} {outcome : Outcome}
    (running : interpreter.settle line outcome = .running after)
    : after.Continues interpreter := by
  unfold settle at running
  split at running
  · exact continues_of_follow running
  · cases running

theorem continues_of_adopt {interpreter after : Interpreter} {line : Line} {progress : Progress}
    (running : interpreter.adopt line progress = .running after)
    : after.Continues interpreter := by
  cases progress with
  | running inner =>
      rw [adopt] at running
      exact continues_of_follow running
  | finished inner result =>
      cases result with
      | ok transfer =>
          simp only [adopt] at running
          exact continues_of_follow running
      | error error => cases running

/-- An interpreter that goes on stays on its program, by cases on what the line is read as. -/
theorem continues_of_step {interpreter after : Interpreter}
    (yields : interpreter.step.Yields (.running after))
    : after.Continues interpreter := by
  cases found : interpreter.program.line? interpreter.position with
  | none =>
      rw [step, found] at yields
      cases yields
  | some line =>
      rw [step_eq_perform found, perform] at yields
      split at yields
      · cases yields
      · split at yields
        · obtain ⟨outcome, _, settled⟩ := yields.of_map
          exact continues_of_settle settled.symm
        · split at yields
          · cases yields
            exact ⟨rfl, rfl⟩
          · split at yields
            · cases yields
            · obtain ⟨progress, _, adopted⟩ := yields.of_map
              exact continues_of_adopt adopted.symm

theorem Grounded.updated {interpreter : Interpreter} {env changed : Environment}
    (grounded : interpreter.Grounded env) (named : changed.name = env.name) (position : Nat)
    : { interpreter.updated changed with position }.Grounded changed :=
  grounded.change named rfl rfl

/-- A grounded top-level interpreter on a line settles a result of the command that the line comes
down to.
-/
theorem Grounded.step_run {interpreter : Interpreter} {env : Environment} {line : Line}
    {progress : Progress} (grounded : interpreter.Grounded env)
    (topLevel : interpreter.isInner = false)
    (found : interpreter.program.line? interpreter.position = some line)
    (yields : interpreter.step.Yields progress)
    : ∃ outcome,
        ((env.commandOf line.tokens).run interpreter.position env).Yields outcome
        ∧ interpreter.Settles line outcome progress := by
  rw [grounded.step_eq found, topPosition_eq topLevel] at yields
  obtain ⟨outcome, ran, rfl⟩ := yields.of_map
  exact ⟨outcome, ran, settle_settles topLevel line outcome⟩

/-- What a grounded top-level interpreter makes of a line: the effect of the command that the line
comes down to, settled.
-/
theorem Grounded.step_effect {interpreter : Interpreter} {env : Environment} {line : Line}
    {progress : Progress} (grounded : interpreter.Grounded env)
    (topLevel : interpreter.isInner = false)
    (found : interpreter.program.line? interpreter.position = some line)
    (yields : interpreter.step.Yields progress)
    : ∃ outcome,
        (env.commandOf line.tokens).Effect interpreter.position env outcome
        ∧ interpreter.Settles line outcome progress := by
  obtain ⟨outcome, ran, settles⟩ := grounded.step_run topLevel found yields
  exact ⟨outcome, Command.run_effect ran, settles⟩

end Interpreter

-----------------------------------------------------------------------------------------
-- Turns of a world
-----------------------------------------------------------------------------------------

theorem Task.conclude_ne_executing {policy earlier : ErrorPolicy} {ended interpreter : Interpreter}
    {result : Except Error Transfer}
    : conclude ended earlier result ≠ .executing interpreter policy := by
  intro executing
  cases result with
  | ok transfer => cases executing
  | error error =>
      simp only [conclude] at executing
      split at executing <;> cases executing

/-- Initial variables only go into the store. -/
theorem Environment.seed_frame (env : Environment) (initial : List (String × Value))
    : ∃ store, (env.seed initial).1 = { env with store } := by
  induction initial generalizing env with
  | nil => exact ⟨env.store, rfl⟩
  | cons entry rest ih =>
      obtain ⟨name, value⟩ := entry
      rw [seed]
      cases assigned : env.assign name value with
      | error fault => exact ⟨env.store, rfl⟩
      | ok changed =>
          obtain ⟨_, _, rfl⟩ := assign_eq_ok assigned
          exact ih _

/-- An initial variable can only fail to find room. -/
theorem Environment.seed_fault {env : Environment} {initial : List (String × Value)} {fault : Fault}
    (failed : (env.seed initial).2 = .error fault)
    : fault = .tooManyVariables := by
  induction initial generalizing env with
  | nil => cases failed
  | cons entry rest ih =>
      obtain ⟨name, value⟩ := entry
      rw [seed] at failed
      cases assigned : env.assign name value with
      | ok changed =>
          rw [assigned] at failed
          exact ih failed
      | error fault' =>
          rw [assigned] at failed
          cases failed
          unfold assign Store.assign at assigned
          split at assigned <;> cases assigned
          rfl

/-- Every program starts from the same roster, in which there is nothing but a fresh environment
with initial variables. Where one of these finds no room, all that is left to do is to report it.
-/
theorem Task.ofProgram_eq (options : RunOptions) (initial : List (String × Value))
    : ∃ roster store,
        (∀ program,
          Interpreter.Grounded { program, roster, id := 0, mode := options.mode }
            { name := options.name, store })
        ∧ ((∀ program,
            ofProgram program options initial
            = .executing { program, roster, id := 0, mode := options.mode } .absorb)
          ∨ ∀ program,
              ofProgram program options initial
              = .reporting { program, roster, id := 0, mode := options.mode } .absorb
                  { fault := .tooManyVariables }) := by
  let fresh : Environment := { name := options.name }
  let seeded := fresh.seed initial
  obtain ⟨store, filled⟩ := fresh.seed_frame initial
  refine ⟨(Roster.enter {} fresh).set 0 seeded.1, store, fun program => ?_, ?_⟩
  · let start := Interpreter.start program {} options.name options.mode
    have grounded : start.Grounded fresh := by
      constructor
      · rfl
      · simp [start, fresh, Interpreter.start, Roster.lookup?, Roster.enter, Roster.size]
    have named : seeded.1.name = options.name := congrArg Environment.name filled
    have changed := grounded.updated named start.position
    rw [show seeded.1 = _ from filled] at changed ⊢
    exact changed
  · cases done : seeded.2 with
    | ok _ =>
        refine .inl fun program => ?_
        unfold ofProgram
        dsimp only
        rw [show (Environment.seed { name := options.name } initial).2 = _ from done]
        rfl
    | error fault =>
        obtain rfl := Environment.seed_fault done
        refine .inr fun program => ?_
        unfold ofProgram
        dsimp only
        rw [show (Environment.seed { name := options.name } initial).2 = _ from done]
        rfl

/-- A run starts at the top level, on a fresh environment with nothing but initial variables. Where
one of these finds no room, all that is left to do is to report it.
-/
theorem Task.ofProgram_starts (program : Program) (options : RunOptions)
    (initial : List (String × Value))
    : ∃ interpreter store,
        interpreter.program = program
        ∧ interpreter.isInner = false
        ∧ interpreter.Grounded { name := options.name, store }
        ∧ (ofProgram program options initial = .executing interpreter .absorb
          ∨ ∃ fault, ofProgram program options initial = .reporting interpreter .absorb { fault }) := by
  obtain ⟨roster, store, grounded, starts⟩ := ofProgram_eq options initial
  refine ⟨_, store, rfl, rfl, grounded program, ?_⟩
  rcases starts with executing | reporting
  · exact .inl (executing program)
  · exact .inr ⟨.tooManyVariables, reporting program⟩

/-- A source that can be read and seeded is executed at the top level, on a fresh environment with
nothing but initial variables.
-/
theorem Task.grounded_of_start {source : String} {options : RunOptions}
    {initial : List (String × Value)} {interpreter : Interpreter} {policy : ErrorPolicy}
    (started : start source options initial = .executing interpreter policy)
    : interpreter.isInner = false
      ∧ ∃ store, interpreter.Grounded { name := options.name, store } := by
  unfold start at started
  cases parsed : Program.parse source with
  | error error =>
      rw [parsed] at started
      cases started
  | ok program =>
      rw [parsed] at started
      obtain ⟨_, store, _, topLevel, grounded, starts⟩ := ofProgram_starts program options initial
      rcases starts with executing | ⟨fault, reporting⟩
      · cases executing.symm.trans started
        exact ⟨topLevel, store, grounded⟩
      · cases reporting.symm.trans started

/-- Whether the program is still being executed. -/
def Task.isExecuting : Task → Bool
  | .executing _ _ => true
  | _ => false

/-- Only an interpreter that is still running makes an executing task. -/
theorem Task.ofProgress_eq_executing {policy earlier : ErrorPolicy} {progress : Progress}
    {interpreter : Interpreter}
    (executing : ofProgress earlier progress = .executing interpreter policy)
    : progress = .running interpreter ∧ earlier = policy := by
  cases progress with
  | running running =>
      cases executing
      exact ⟨rfl, rfl⟩
  | finished ended result => exact absurd executing conclude_ne_executing

namespace World

variable {σ : Type} {host : Responder σ} {world : World σ} {policy : ErrorPolicy}

/-- A step that asks nothing of the host is the whole turn. -/
theorem advance_of_step {interpreter : Interpreter} {progress : Progress}
    (task : world.task = .executing interpreter policy) (step : interpreter.step = .done progress)
    (host : Responder σ)
    : (world.advance host).task = .ofProgress policy progress := by
  simp [advance, task, Task.turn, step, Turn.map]

/-- The task after a turn is one that some answer leads to. -/
theorem advance_yields (host : Responder σ) (world : World σ)
    : world.task.turn.Yields (world.advance host).task := by
  unfold advance
  cases world.task.turn with
  | done task => exact .done task
  | ask request resume => exact .ask resume _

theorem advanceBy_succ (host : Responder σ) (turns : Nat) (world : World σ)
    : advanceBy host (turns + 1) world = (advanceBy host turns world).advance host := by
  induction turns generalizing world with
  | zero => rfl
  | succ turns ih => exact ih (world.advance host)

/-- The world executes a top-level program that works on `env`, the first environment entered under
its name.
-/
structure Executes (world : World σ) (policy : ErrorPolicy) (interpreter : Interpreter)
    (env : Environment)
    : Prop where
  task : world.task = .executing interpreter policy
  topLevel : interpreter.isInner = false
  grounded : interpreter.Grounded env

/-- A task is executing after a turn only if it was before, and under the same policy. -/
theorem executing_of_advance {interpreter : Interpreter}
    (after : (world.advance host).task = .executing interpreter policy)
    : ∃ before, world.task = .executing before policy := by
  have yields := advance_yields host world
  generalize (world.advance host).task = later at yields after
  cases task : world.task with
  | rejected | reporting | finished =>
      rw [task] at yields
      cases yields
      cases after
  | executing before earlier =>
      rw [task] at yields
      obtain ⟨progress, _, rfl⟩ := yields.of_map
      exact ⟨before, by rw [(Task.ofProgress_eq_executing after).2]⟩

/-- What is executing has been executing from the start, by induction on the turns. -/
theorem executing_of_advanceBy {interpreter : Interpreter} (turns : Nat)
    (after : (advanceBy host turns world).task = .executing interpreter policy)
    : ∃ before, world.task = .executing before policy := by
  induction turns generalizing interpreter with
  | zero => exact ⟨interpreter, after⟩
  | succ turns ih =>
      rw [advanceBy_succ] at after
      obtain ⟨_, earlier⟩ := executing_of_advance after
      exact ih earlier

/-- As long as a run goes on it stays on its program, by induction on the turns. -/
theorem continues_later {before after : Interpreter} (task : world.task = .executing before policy)
    (turns : Nat) (running : (advanceBy host turns world).task = .executing after policy)
    : after.Continues before := by
  induction turns generalizing after with
  | zero =>
      have same := task.symm.trans running
      cases same
      exact ⟨rfl, rfl⟩
  | succ turns ih =>
      rw [advanceBy_succ] at running
      obtain ⟨middle, earlier⟩ := executing_of_advance running
      have yields := advance_yields host (advanceBy host turns world)
      rw [running, earlier] at yields
      obtain ⟨progress, stepped, reached⟩ := yields.of_map
      obtain ⟨rfl, _⟩ := Task.ofProgress_eq_executing reached.symm
      have step := Interpreter.continues_of_step stepped
      exact ⟨step.program.trans (ih earlier).program, step.id.trans (ih earlier).id⟩

/-- The world executes a top-level program, and `env` is the environment with the number `id`. -/
structure Sees (world : World σ) (policy : ErrorPolicy) (interpreter : Interpreter) (id : Nat)
    (env : Environment)
    : Prop where
  task : world.task = .executing interpreter policy
  topLevel : interpreter.isInner = false
  found : interpreter.roster.get? id = some env

namespace Sees

variable {interpreter : Interpreter} {id : Nat} {env : Environment}

theorem env_eq {other : Interpreter} {env' : Environment}
    (sees : world.Sees policy interpreter id env) (sees' : world.Sees policy other id env')
    : env' = env := by
  cases sees.task.symm.trans sees'.task
  exact Option.some.inj (sees'.found.symm.trans sees.found)

/-- A line whose command asks nothing of the host is settled at once. -/
theorem advance_of_run {line : Line} {command : Command} {outcome : Outcome}
    (sees : world.Sees policy interpreter id env) (host : Responder σ)
    (found : interpreter.program.line? interpreter.position = some line)
    (performs : interpreter.Performs line id env command)
    (ran : command.run interpreter.position env = .done outcome)
    : (world.advance host).task = .ofProgress policy (interpreter.settleAt id line outcome) := by
  apply advance_of_step sees.task
  rw [performs.step_eq found, Interpreter.topPosition_eq sees.topLevel, ran]
  rfl

/-- Where such a command succeeds, the run goes on from where its transfer lands. -/
theorem lands_of_run {line : Line} {command : Command} {changed : Environment}
    {transfer : Transfer} {position : Nat} (sees : world.Sees policy interpreter id env)
    (host : Responder σ) (found : interpreter.program.line? interpreter.position = some line)
    (performs : interpreter.Performs line id env command)
    (ran : command.run interpreter.position env = .done ⟨changed, .ok transfer⟩)
    (lands : interpreter.Lands transfer position)
    : (world.advance host).Sees policy
        { interpreter with roster := interpreter.roster.set id changed, position } id changed where
  task := by
    rw [sees.advance_of_run host found performs ran,
      Interpreter.settleAt_of_lands sees.topLevel lands]
    rfl
  topLevel := sees.topLevel
  found := Roster.get?_set_self sees.found changed

end Sees

namespace Executes

variable {interpreter : Interpreter} {env : Environment}

/-- A world executes on one environment. -/
theorem env_eq {other : Interpreter} {env' : Environment}
    (executes : world.Executes policy interpreter env)
    (executes' : world.Executes policy other env')
    : env' = env := by
  cases executes.task.symm.trans executes'.task
  exact Option.some.inj (executes'.grounded.found.symm.trans executes.grounded.found)

/-- A turn past the last line ends the run; a turn on a line settles an effect of its command. -/
theorem advance_cases (executes : world.Executes policy interpreter env) (host : Responder σ)
    : (interpreter.program.line? interpreter.position = none
        ∧ (world.advance host).task = .finished (some interpreter) (.ok .next))
      ∨ ∃ line outcome progress,
          interpreter.program.line? interpreter.position = some line
          ∧ (env.commandOf line.tokens).Effect interpreter.position env outcome
          ∧ interpreter.Settles line outcome progress
          ∧ (world.advance host).task = .ofProgress policy progress := by
  have yields := advance_yields host world
  rw [executes.task] at yields
  obtain ⟨progress, stepped, after⟩ := yields.of_map
  cases found : interpreter.program.line? interpreter.position with
  | none =>
      rw [Interpreter.step, found] at stepped
      cases stepped
      exact .inl ⟨rfl, after⟩
  | some line =>
      obtain ⟨outcome, effect, settles⟩ :=
        executes.grounded.step_effect executes.topLevel found stepped
      exact .inr ⟨line, outcome, progress, rfl, effect, settles, after⟩

/-- A turn after which the run goes on executes one line, stays on the program and moves to where
the command of the line asks for.
-/
theorem next_run {after : Interpreter} (executes : world.Executes policy interpreter env)
    (running : (world.advance host).task = .executing after policy)
    : ∃ line outcome transfer position,
        interpreter.program.line? interpreter.position = some line
        ∧ ((env.commandOf line.tokens).run interpreter.position env).Yields outcome
        ∧ outcome.transfer = .ok transfer
        ∧ interpreter.Lands transfer position
        ∧ after = { interpreter.updated outcome.env with position }
        ∧ (world.advance host).Executes policy after outcome.env := by
  have yields := advance_yields host world
  rw [executes.task, running] at yields
  obtain ⟨progress, stepped, settled⟩ := yields.of_map
  obtain ⟨rfl, _⟩ := Task.ofProgress_eq_executing settled.symm
  cases found : interpreter.program.line? interpreter.position with
  | none =>
      rw [Interpreter.step, found] at stepped
      cases stepped
  | some line =>
      obtain ⟨outcome, ran, settles⟩ :=
        executes.grounded.step_run executes.topLevel found stepped
      cases settles with
      | @running transfer position done lands =>
          exact ⟨line, outcome, transfer, position, rfl, ran, done, lands, rfl, running,
            executes.topLevel, executes.grounded.updated (Command.run_effect ran).name_eq position⟩

/-- What a turn after which the run goes on can do is an effect of the command of the line. -/
theorem next {after : Interpreter} (executes : world.Executes policy interpreter env)
    (running : (world.advance host).task = .executing after policy)
    : ∃ line outcome transfer position,
        interpreter.program.line? interpreter.position = some line
        ∧ (env.commandOf line.tokens).Effect interpreter.position env outcome
        ∧ outcome.transfer = .ok transfer
        ∧ interpreter.Lands transfer position
        ∧ after = { interpreter.updated outcome.env with position }
        ∧ (world.advance host).Executes policy after outcome.env := by
  obtain ⟨line, outcome, transfer, position, found, ran, rest⟩ := executes.next_run running
  exact ⟨line, outcome, transfer, position, found, Command.run_effect ran, rest⟩

/-- As long as a run goes on it stays on its environment, by induction on the turns. -/
theorem later {after : Interpreter} (executes : world.Executes policy interpreter env)
    (turns : Nat)
    (running : (advanceBy host turns world).task = .executing after policy)
    : ∃ env, (advanceBy host turns world).Executes policy after env := by
  induction turns generalizing after with
  | zero =>
      obtain rfl : interpreter = after := by
        have same := executes.task.symm.trans running
        cases same
        rfl
      exact ⟨env, executes⟩
  | succ turns ih =>
      rw [advanceBy_succ] at running ⊢
      obtain ⟨before, earlier⟩ := executing_of_advance running
      obtain ⟨_, executesBefore⟩ := ih earlier
      obtain ⟨_, outcome, _, _, _, _, _, _, rfl, executesAfter⟩ := executesBefore.next running
      exact ⟨outcome.env, executesAfter⟩

/-- A run that is still going on executes its program. -/
theorem of_isExecuting (executes : world.Executes policy interpreter env) {turns : Nat}
    (going : (advanceBy host turns world).task.isExecuting = true)
    : ∃ after env',
        (advanceBy host turns world).Executes policy after env'
        ∧ after.program = interpreter.program := by
  cases running : (advanceBy host turns world).task with
  | rejected | reporting | finished =>
      rw [running] at going
      cases going
  | executing after later =>
      obtain ⟨_, starting⟩ := executing_of_advanceBy turns running
      cases executes.task.symm.trans starting
      obtain ⟨env', executes'⟩ := executes.later turns running
      exact ⟨after, env', executes', (continues_later executes.task turns running).program⟩

/-- A line whose command asks nothing of the host is settled at once. -/
theorem advance_of_run {line : Line} {outcome : Outcome}
    (executes : world.Executes policy interpreter env) (host : Responder σ)
    (found : interpreter.program.line? interpreter.position = some line)
    (ran : (env.commandOf line.tokens).run interpreter.position env = .done outcome)
    : (world.advance host).task = .ofProgress policy (interpreter.settle line outcome) := by
  apply advance_of_step executes.task
  rw [executes.grounded.step_eq found, Interpreter.topPosition_eq executes.topLevel, ran]
  rfl

/-- Where such a command succeeds, the run goes on from where its transfer lands. -/
theorem lands_of_run {line : Line} {changed : Environment} {transfer : Transfer} {position : Nat}
    (executes : world.Executes policy interpreter env) (host : Responder σ)
    (found : interpreter.program.line? interpreter.position = some line)
    (ran
      : (env.commandOf line.tokens).run interpreter.position env
        = .done ⟨changed, .ok transfer⟩)
    (lands : interpreter.Lands transfer position) (named : changed.name = env.name)
    : (world.advance host).Executes policy { interpreter.updated changed with position }
        changed where
  task := by
    rw [executes.advance_of_run host found ran]
    have settled :=
      Interpreter.settleAt_of_lands executes.topLevel lands interpreter.id line changed
    exact congrArg (Task.ofProgress policy) settled
  topLevel := executes.topLevel
  grounded := executes.grounded.updated named position

/-- Past the last line the run ends. -/
theorem advance_past_end (executes : world.Executes policy interpreter env)
    (past : interpreter.program.line? interpreter.position = none) (host : Responder σ)
    : (world.advance host).task = .finished (some interpreter) (.ok .next) := by
  rcases executes.advance_cases host with ⟨_, ended⟩ | ⟨_, _, _, found, _⟩
  · exact ended
  · rw [past] at found
    cases found

end Executes

/-- As long as the run of a program goes on, it executes its program, and it has done so from a
fresh environment on.
-/
theorem executes_of_ofProgram {program : Program} {options : RunOptions}
    {initial : List (String × Value)} {state : σ} {turns : Nat} {interpreter : Interpreter}
    (running
      : (advanceBy host turns { task := .ofProgram program options initial, host := state }).task
        = .executing interpreter policy)
    : policy = .absorb
      ∧ interpreter.program = program
      ∧ (∃ env,
          (advanceBy host turns
            { task := .ofProgram program options initial, host := state }).Executes policy
            interpreter env)
      ∧ ∃ start store,
          Executes { task := .ofProgram program options initial, host := state } policy start
            { name := options.name, store } := by
  obtain ⟨start, starting⟩ := executing_of_advanceBy turns running
  obtain ⟨first, store, onProgram, topLevel, grounded, starts⟩ :=
    Task.ofProgram_starts program options initial
  rcases starts with started | ⟨fault, reporting⟩
  · cases started.symm.trans starting
    have executes
        : Executes { task := .ofProgram program options initial, host := state } .absorb start
            { name := options.name, store } :=
      ⟨started, topLevel, grounded⟩
    have continues := continues_later starting turns running
    exact ⟨rfl, continues.program.trans onProgram, executes.later turns running, start, store,
      executes⟩
  · cases reporting.symm.trans starting

end World

end Gosub
