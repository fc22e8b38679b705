import Gosub.Proofs.Machine.Runs

/-! Interpreters keep to their own environments. Whatever a program does, the roster keeps its size
and every environment its number and its name. An execution changes no environment but the one that
it works on and, inside conditionals, the first one of the same name; where these are one and the
same, it changes no other.
-/

namespace Gosub

-----------------------------------------------------------------------------------------
-- Rosters that differ in a few environments
-----------------------------------------------------------------------------------------

namespace Roster

/-- The rosters hold environments of the same names under the same numbers, and they differ at most
in those whose numbers are in `touched`.
-/
structure ChangedWithin (touched : Nat → Prop) (before after : Roster) : Prop where
  size : after.size = before.size
  names : ∀ id, (after.get? id).map Environment.name = (before.get? id).map Environment.name
  others : ∀ id, ¬ touched id → after.get? id = before.get? id

namespace ChangedWithin

variable {touched : Nat → Prop} {before middle after : Roster}

theorem refl (touched : Nat → Prop) (roster : Roster) : roster.ChangedWithin touched roster :=
  ⟨rfl, fun _ => rfl, fun _ _ => rfl⟩

theorem trans (first : before.ChangedWithin touched middle)
    (second : middle.ChangedWithin touched after)
    : before.ChangedWithin touched after where
  size := second.size.trans first.size
  names id := (second.names id).trans (first.names id)
  others id untouched := (second.others id untouched).trans (first.others id untouched)

theorem mono {more : Nat → Prop} (changed : before.ChangedWithin touched after)
    (wider : ∀ id, touched id → more id)
    : before.ChangedWithin more after where
  size := changed.size
  names := changed.names
  others id untouched := changed.others id fun within => untouched (wider id within)

/-- An environment that keeps its name may be replaced where it may be touched. -/
theorem set {id : Nat} {env changed : Environment} (found : before.get? id = some env)
    (named : changed.name = env.name) (within : touched id)
    : before.ChangedWithin touched (before.set id changed) where
  size := by simp [Roster.size, Roster.set]
  names other := by
    by_cases same : id = other
    · subst same
      rw [get?_set_self found, found, Option.map_some, Option.map_some, named]
    · simp only [get?, Roster.set, Array.getElem?_setIfInBounds_ne same]
  others other untouched := by
    have apart : id ≠ other := fun same => untouched (same ▸ within)
    simp only [get?, Roster.set, Array.getElem?_setIfInBounds_ne apart]

/-- Every name stands for the same number as before. Witness: the list of names is the same. -/
theorem lookup?_eq (changed : before.ChangedWithin touched after) (name : String)
    : after.lookup? name = before.lookup? name := by
  have names
      : after.environments.map Environment.name = before.environments.map Environment.name := by
    apply Array.ext_getElem?
    intro id
    rw [Array.getElem?_map, Array.getElem?_map]
    exact changed.names id
  rw [lookup?_eq_names, lookup?_eq_names, names]

end ChangedWithin

end Roster

-----------------------------------------------------------------------------------------
-- What an interpreter may reach
-----------------------------------------------------------------------------------------

namespace Interpreter

variable {name : String} {before middle after : Interpreter}

/-- The interpreter works on an environment of this name. -/
def WorksUnder (interpreter : Interpreter) (name : String) : Prop :=
  ∃ env, interpreter.env? = some env ∧ env.name = name

/-- The environments that an interpreter under a name may change: its own, and the first one that
was entered under the name.
-/
def Reaches (interpreter : Interpreter) (name : String) (id : Nat) : Prop :=
  id = interpreter.id ∨ interpreter.roster.lookup? name = some id

/-- The interpreter after some steps works on the environment of the same number, and has changed no
environment out of its reach.
-/
structure KeepsTo (name : String) (before after : Interpreter) : Prop where
  id : after.id = before.id
  roster : before.roster.ChangedWithin (before.Reaches name) after.roster

namespace KeepsTo

theorem refl (name : String) (interpreter : Interpreter) : interpreter.KeepsTo name interpreter :=
  ⟨rfl, .refl _ _⟩

theorem worksUnder (keeps : before.KeepsTo name after) (works : before.WorksUnder name)
    : after.WorksUnder name := by
  obtain ⟨env, found, named⟩ := works
  have names := keeps.roster.names after.id
  rw [keeps.id, show before.roster.get? before.id = some env from found, Option.map_some,
    named] at names
  obtain ⟨env', found', named'⟩ := Option.map_eq_some_iff.mp names
  exact ⟨env', by rw [env?, keeps.id, found'], named'⟩

/-- The reach of an interpreter stays the same, and so keeping to it composes. -/
theorem trans (first : before.KeepsTo name middle) (second : middle.KeepsTo name after)
    : before.KeepsTo name after := by
  refine ⟨second.id.trans first.id, first.roster.trans (second.roster.mono ?_)⟩
  intro id reached
  unfold Reaches at reached ⊢
  rwa [first.id, first.roster.lookup?_eq] at reached

end KeepsTo

/-- Following a transfer moves an interpreter and changes nothing else. -/
theorem follow_interpreter (interpreter : Interpreter) (line : Line) (transfer : Transfer)
    : ∃ position,
        (interpreter.follow line transfer).interpreter = { interpreter with position } := by
  cases transfer with
  | next => exact ⟨interpreter.position + 1, rfl⟩
  | halt => exact ⟨interpreter.position, rfl⟩
  | jump number =>
      simp only [follow]
      split
      · exact ⟨interpreter.position, rfl⟩
      · split
        · rename_i position _
          exact ⟨position, rfl⟩
        · exact ⟨interpreter.position, rfl⟩
  | resume position =>
      simp only [follow]
      split
      · exact ⟨interpreter.position, rfl⟩
      · exact ⟨position + 1, rfl⟩

/-- Settling a command puts its environment in place and moves the interpreter. -/
theorem settleAt_interpreter (interpreter : Interpreter) (id : Nat) (line : Line)
    (outcome : Outcome)
    : ∃ position,
        (interpreter.settleAt id line outcome).interpreter
        = { interpreter with roster := interpreter.roster.set id outcome.env, position } := by
  unfold settleAt
  split
  · exact follow_interpreter _ line _
  · exact ⟨interpreter.position, rfl⟩

/-- The command of a line works on an environment within reach. -/
theorem Performs.reaches {interpreter : Interpreter} {line : Line} {id : Nat} {env : Environment}
    {command : Command} (performs : interpreter.Performs line id env command)
    (works : interpreter.WorksUnder name)
    : interpreter.Reaches name id ∧ interpreter.roster.get? id = some env := by
  obtain ⟨own, owns, rfl⟩ := works
  cases performs with
  | directly found _ => exact ⟨.inl rfl, found⟩
  | inside owns' _ _ first found =>
      cases owns.symm.trans owns'
      exact ⟨.inr first, found⟩

/-- A step keeps to the reach of its interpreter. Witness: the line comes down to one command, on
one environment within reach, and no command renames its environment.
-/
theorem keepsTo_of_step {interpreter : Interpreter} {progress : Progress}
    (works : interpreter.WorksUnder name) (yields : interpreter.step.Yields progress)
    : interpreter.KeepsTo name progress.interpreter := by
  rcases step_cases interpreter with
    ⟨idle, position, done, same⟩ | ⟨line, id, env, command, found, performs⟩
  · rw [done] at yields
    cases yields
    rw [same]
    exact ⟨rfl, .refl _ _⟩
  · rw [performs.step_eq found] at yields
    obtain ⟨outcome, ran, rfl⟩ := yields.of_map
    obtain ⟨position, settled⟩ := settleAt_interpreter interpreter id line outcome
    obtain ⟨reached, held⟩ := performs.reaches works
    rw [settled]
    exact ⟨rfl, .set held (Command.run_effect ran).name_eq reached⟩

theorem start_worksUnder (program : Program) (roster : Roster) (name : String) (mode : ReportMode)
    : (start program roster name mode).WorksUnder name :=
  ⟨{ name }, Array.getElem?_push_size, rfl⟩

/-- An inner interpreter works on the first environment of its name. -/
theorem inner_worksUnder {program : Program} {roster : Roster} {name : String} {mode : ReportMode}
    {origin : Nat} {child : Interpreter}
    (attached : inner program roster name mode origin = .ok child)
    : child.WorksUnder name ∧ child.roster = roster ∧ roster.lookup? name = some child.id := by
  unfold inner at attached
  cases first : roster.lookup? name with
  | none =>
      rw [first] at attached
      cases attached
  | some id =>
      rw [first] at attached
      cases attached
      obtain ⟨bound, _⟩ := Array.findIdx?_eq_some_iff_getElem.mp first
      have found : roster.get? id = some roster.environments[id] := Array.getElem?_eq_getElem bound
      exact ⟨⟨_, found, Roster.name_of_lookup? first found⟩, rfl, rfl⟩

/-- The interpreter itself, the inner interpreters for its conditionals, those for conditionals
inside these, and so on.
-/
inductive Descendant (interpreter : Interpreter) : Interpreter → Prop
  | self : Descendant interpreter interpreter
  | child {parent child : Interpreter} {env : Environment} {program : Program} {mode : ReportMode}
    {origin : Nat} (above : Descendant interpreter parent) (found : parent.env? = some env)
    (attached : inner program parent.roster env.name mode origin = .ok child)
    : Descendant interpreter child

/-- All descendants of an interpreter on the first environment of its name work on that same
environment, by induction on the depth.
-/
theorem Descendant.id_eq {interpreter child : Interpreter} (works : interpreter.WorksUnder name)
    (first : interpreter.roster.lookup? name = some interpreter.id)
    (descends : interpreter.Descendant child)
    : child.roster = interpreter.roster ∧ child.id = interpreter.id := by
  obtain ⟨own, owns, rfl⟩ := works
  induction descends with
  | self => exact ⟨rfl, rfl⟩
  | child _ found attached ih =>
      rw [env?, ih.1, ih.2] at found
      cases owns.symm.trans found
      obtain ⟨_, roster, firstly⟩ := inner_worksUnder attached
      rw [ih.1] at roster firstly
      exact ⟨roster, Option.some.inj (firstly.symm.trans first)⟩

end Interpreter

-----------------------------------------------------------------------------------------
-- What an execution may reach
-----------------------------------------------------------------------------------------

namespace Task

/-- The interpreter of a task. A program that could not be read has none. -/
def interpreter? : Task → Option Interpreter
  | .rejected _ => none
  | .executing interpreter _ => some interpreter
  | .reporting interpreter _ _ => some interpreter
  | .finished interpreter _ => interpreter

/-- The environment that a task works on, or has worked on to its end. -/
def env? (task : Task) : Option Environment :=
  task.interpreter?.bind Interpreter.env?

theorem interpreter?_ofProgress (policy : ErrorPolicy) (progress : Progress)
    : (ofProgress policy progress).interpreter? = some progress.interpreter := by
  cases progress with
  | running interpreter => rfl
  | finished interpreter result =>
      cases result with
      | ok transfer => rfl
      | error error =>
          simp only [ofProgress, conclude]
          split <;> rfl

/-- A turn keeps to the reach of the interpreter that the task began with, by cases on the task. -/
theorem keepsTo_of_turn {name : String} {start : Interpreter} {task later : Task}
    (works : start.WorksUnder name)
    (keeps : ∀ interpreter, task.interpreter? = some interpreter → start.KeepsTo name interpreter)
    (yields : task.turn.Yields later) {after : Interpreter}
    (ended : later.interpreter? = some after)
    : start.KeepsTo name after := by
  cases task with
  | rejected error =>
      cases yields
      cases ended
  | executing interpreter policy =>
      obtain ⟨progress, stepped, rfl⟩ := yields.of_map
      rw [interpreter?_ofProgress] at ended
      cases ended
      have before := keeps interpreter rfl
      exact before.trans (Interpreter.keepsTo_of_step (before.worksUnder works) stepped)
  | reporting interpreter policy error =>
      cases yields
      exact keeps after ended
  | finished interpreter result =>
      cases yields
      exact keeps after ended

end Task

namespace World

variable {σ : Type}

/-- An execution keeps to the reach of its interpreter, by induction on the turns. -/
theorem keepsTo_advanceBy {name : String} {start : Interpreter} {policy : ErrorPolicy}
    {world : World σ} (task : world.task = .executing start policy)
    (works : start.WorksUnder name) (host : Responder σ) (turns : Nat) {after : Interpreter}
    (reached : (advanceBy host turns world).task.interpreter? = some after)
    : start.KeepsTo name after := by
  induction turns generalizing after with
  | zero =>
      rw [advanceBy, task] at reached
      cases reached
      exact .refl name start
  | succ turns ih =>
      rw [advanceBy_succ] at reached
      exact Task.keepsTo_of_turn works (fun _ => ih) (advance_yields host _) reached

/-- Executions touch only their own environments. An execution under a name, on any roster and for
every host, leaves the size of the roster and the name of every number as they are, at every point
and to its end, and it changes no environment but its own and the first one of the name. Where its
own is the first one, it changes no other, and all interpreters for its conditionals, to any depth,
work on it. So it is for every inner interpreter and in every run of a source; a fresh interpreter
works under its name wherever it stands in the roster.
-/
theorem execution_keeps_to_own (host : Responder σ) (state : σ) (name : String)
    : (∀ interpreter policy turns after,
        interpreter.WorksUnder name
        → (advanceBy host turns
            { task := .executing interpreter policy, host := state }).task.interpreter? = some after
        → after.id = interpreter.id
          ∧ interpreter.roster.ChangedWithin
              (fun id => id = interpreter.id ∨ interpreter.roster.lookup? name = some id)
              after.roster
          ∧ (interpreter.roster.lookup? name = some interpreter.id
            → interpreter.roster.ChangedWithin (fun id => id = interpreter.id) after.roster
              ∧ ∀ child, after.Descendant child → child.id = interpreter.id))
      ∧ (∀ program roster mode,
          (Interpreter.start program roster name mode).WorksUnder name)
      ∧ (∀ program roster mode origin child,
          Interpreter.inner program roster name mode origin = .ok child
          → child.WorksUnder name ∧ child.roster.lookup? name = some child.id)
      ∧ ∀ source mode initial interpreter policy,
          Task.start source { name, mode } initial = .executing interpreter policy
          → interpreter.WorksUnder name
            ∧ interpreter.roster.lookup? name = some interpreter.id := by
  refine ⟨?_, fun program roster mode => Interpreter.start_worksUnder program roster name mode,
    ?_, ?_⟩
  · intro interpreter policy turns after works reached
    have keeps := keepsTo_advanceBy rfl works host turns reached
    refine ⟨keeps.id, keeps.roster, fun first => ⟨keeps.roster.mono ?_, fun child descends => ?_⟩⟩
    · rintro id (own | firstly)
      · exact own
      · exact Option.some.inj (firstly.symm.trans first)
    · have firstly : after.roster.lookup? name = some after.id := by
        rw [keeps.roster.lookup?_eq, first, keeps.id]
      exact (descends.id_eq (keeps.worksUnder works) firstly).2.trans keeps.id
  · intro program roster mode origin child attached
    obtain ⟨works, same, first⟩ := Interpreter.inner_worksUnder attached
    exact ⟨works, by rw [same, first]⟩
  · intro source mode initial interpreter policy started
    obtain ⟨_, store, grounded⟩ := Task.grounded_of_start started
    exact ⟨⟨_, grounded.found, rfl⟩, grounded.first⟩

end World

-----------------------------------------------------------------------------------------
-- What a run makes of its environment
-----------------------------------------------------------------------------------------

/-- A run starts on a fresh environment with the initial variables for which there is room. -/
theorem Task.env?_ofProgram (program : Program) (options : RunOptions)
    (initial : List (String × Value))
    : (ofProgram program options initial).env?
      = some (Environment.seed { name := options.name } initial).1 := by
  unfold ofProgram
  dsimp only
  split <;> rfl

namespace World

variable {σ : Type} {host : Responder σ} {world : World σ} {policy : ErrorPolicy}

/-- After a turn of an execution the environment is as its line has left it. -/
theorem Executes.env?_advance {interpreter : Interpreter} {env after : Environment}
    (executes : world.Executes policy interpreter env)
    (reached : (world.advance host).task.env? = some after)
    : after = env
      ∨ ∃ line outcome,
          interpreter.program.line? interpreter.position = some line
          ∧ ((env.commandOf line.tokens).run interpreter.position env).Yields outcome
          ∧ after = outcome.env := by
  have yields := advance_yields host world
  rw [executes.task] at yields
  obtain ⟨progress, stepped, settled⟩ := yields.of_map
  rw [settled, Task.env?, Task.interpreter?_ofProgress, Option.bind_some] at reached
  cases found : interpreter.program.line? interpreter.position with
  | none =>
      rw [Interpreter.step, found] at stepped
      cases stepped
      exact .inl (Option.some.inj (reached.symm.trans executes.grounded.found))
  | some line =>
      obtain ⟨outcome, ran, settles⟩ :=
        executes.grounded.step_run executes.topLevel found stepped
      refine .inr ⟨line, outcome, rfl, ran, ?_⟩
      have held := Roster.get?_set_self executes.grounded.found outcome.env
      cases settles <;> exact Option.some.inj (reached.symm.trans held)

/-- What holds of the environment at the start of a run, and is kept by every command that the run
comes to, holds at every turn and to the end. By induction on the turns: the report of an error
leaves the environment alone.
-/
theorem env_induction {program : Program} {options : RunOptions} {initial : List (String × Value)}
    {state : σ} {P : Nat → Environment → Prop}
    (starts : P 0 (Environment.seed { name := options.name } initial).1)
    (waits : ∀ turns env, P turns env → P (turns + 1) env)
    (runs
      : ∀ turns interpreter env line outcome,
          (advanceBy host turns
            { task := .ofProgram program options initial, host := state }).Executes .absorb
            interpreter env
          → interpreter.program = program
          → interpreter.program.line? interpreter.position = some line
          → ((env.commandOf line.tokens).run interpreter.position env).Yields outcome
          → (advanceBy host (turns + 1)
              { task := .ofProgram program options initial, host := state }).task.env?
            = some outcome.env
          → P turns env
          → P (turns + 1) outcome.env)
    (turns : Nat) {env : Environment}
    (reached
      : (advanceBy host turns
          { task := .ofProgram program options initial, host := state }).task.env? = some env)
    : P turns env := by
  induction turns generalizing env with
  | zero =>
      rw [advanceBy, Task.env?_ofProgram] at reached
      cases reached
      exact starts
  | succ turns ih =>
      have ended := reached
      rw [advanceBy_succ] at reached
      have yields :=
        advance_yields host
          (advanceBy host turns { task := .ofProgram program options initial, host := state })
      cases task
          : (advanceBy host turns
              { task := .ofProgram program options initial, host := state }).task with
      | rejected error =>
          rw [task] at yields
          generalize (World.advance _ _).task = later at yields reached
          cases yields
          cases reached
      | reporting | finished =>
          rw [task] at yields ih
          generalize (World.advance _ _).task = later at yields reached
          cases yields
          exact waits turns env (ih reached)
      | executing interpreter policy =>
          obtain ⟨rfl, onProgram, ⟨middle, executes⟩, _⟩ := executes_of_ofProgram task
          have before : P turns middle := by
            apply ih
            rw [task]
            exact executes.grounded.found
          rcases executes.env?_advance reached with rfl | ⟨line, outcome, found, ran, rfl⟩
          · exact waits turns env before
          · exact runs turns interpreter middle line outcome executes onProgram found ran ended
              before

end World

end Gosub
