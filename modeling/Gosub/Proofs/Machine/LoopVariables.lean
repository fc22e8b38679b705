import Gosub.Machine.Script
import Gosub.Proofs.Environment.Names
import Gosub.Proofs.Machine.Rosters
import Gosub.Proofs.Statement.Writes

/-! The variables of loops. A loop stays on the stack from the `FOR` that opened it to the `NEXT`
that leaves it, but it keeps its variable as it is written: each `NEXT` works on what that name
stands for at the time. It is the variable of the `FOR` just as long as the name does not change its
meaning with the namespace.
-/

namespace Gosub

-----------------------------------------------------------------------------------------
-- What commands do to the loop stack
-----------------------------------------------------------------------------------------

/-- A command that succeeds leaves the loops as they are, opens a loop above them, counts an
iteration of the innermost one, or leaves that one.
-/
theorem Command.loops_cases {command : Command} {position : Nat} {env : Environment}
    {outcome : Outcome} {transfer : Transfer} (yields : (command.run position env).Yields outcome)
    (done : outcome.transfer = .ok transfer)
    : outcome.env.loops.items = env.loops.items
      ∨ (∃ name start goal step value last increment,
          command = .openLoop name start goal step
          ∧ env.evaluate start = .ok value
          ∧ env.store.assign (env.qualify name) value.typed = .ok outcome.env.store
          ∧ outcome.env.loops.items = ⟨name, last, increment, position, 0⟩ :: env.loops.items)
      ∨ ∃ loop outer,
          env.loops.items = loop :: outer
          ∧ (outcome.env.loops.items = loop.counted :: outer
            ∨ outcome.env.loops.items = outer) := by
  cases run_effect yields with
  | failed | callOverflow | seeded | loopOverflow | runaway | stalled => cases done
  | idle | called | uncalled | returned => exact .inl rfl
  | change _ change =>
      obtain ⟨_, _, rfl⟩ := change.frame
      exact .inl rfl
  | @opened name start goal step =>
      refine .inr (.inl ?_)
      -- The effect does not tell the name of the loop; the command does.
      generalize Outcome.next _ = outcome at yields done ⊢
      cases yields
      obtain ⟨value, seeded, last, increment, evaluated, assigned, opened⟩ :=
        Environment.openLoop_eq_ok done
      obtain ⟨store, stored, rfl⟩ := Environment.assign_eq_ok assigned
      rw [opened]
      exact ⟨name, start, goal, step, value, last, increment, rfl, evaluated, stored, rfl⟩
  | finished top room =>
      obtain ⟨outer, items, counted⟩ := Environment.counting_items top
      refine .inr (.inr ⟨_, outer, items, .inr ?_⟩)
      exact congrArg List.tail counted
  | repeated top room advance =>
      obtain ⟨outer, items, counted⟩ := Environment.counting_items top
      refine .inr (.inr ⟨_, outer, items, .inl ?_⟩)
      obtain ⟨store, _, rfl⟩ := Environment.assign_eq_ok advance
      exact counted

/-- A loop that is on the stack after a command was there before, counted as it may be, or it is the
one that a `FOR` has just opened.
-/
theorem Command.suffix_loops_cases {command : Command} {position : Nat} {env : Environment}
    {outcome : Outcome} {transfer : Transfer} (yields : (command.run position env).Yields outcome)
    (done : outcome.transfer = .ok transfer) {loop : Loop} {outer : List Loop}
    (inside : loop :: outer <:+ outcome.env.loops.items)
    : (∃ count, { loop with count } :: outer <:+ env.loops.items)
      ∨ (loop.count = 0
        ∧ outer = env.loops.items
        ∧ ∃ start goal step value,
            command = .openLoop loop.name start goal step
            ∧ env.evaluate start = .ok value
            ∧ env.store.assign (env.qualify loop.name) value.typed = .ok outcome.env.store
            ∧ outcome.env.loops.items = loop :: outer) := by
  rcases loops_cases yields done with
    same | ⟨name, start, goal, step, value, last, increment, isOpen, evaluated, assigned, pushed⟩
      | ⟨top, below, items, counted | left⟩
  · exact .inl ⟨loop.count, same ▸ inside⟩
  · rw [pushed] at inside
    rcases List.suffix_cons_iff.mp inside with same | inside
    · cases same
      exact .inr ⟨rfl, rfl, start, goal, step, value, isOpen, evaluated, assigned, pushed⟩
    · exact .inl ⟨loop.count, inside⟩
  · rw [counted] at inside
    rcases List.suffix_cons_iff.mp inside with same | inside
    · cases same
      exact .inl ⟨top.count, items ▸ List.suffix_rfl⟩
    · exact .inl ⟨loop.count, items ▸ inside.trans (List.suffix_cons top below)⟩
  · rw [left] at inside
    exact .inl ⟨loop.count, items ▸ inside.trans (List.suffix_cons top below)⟩

/-- What a `NEXT` makes of the variable with this full name: it takes the next value of the loop, or
it is forgotten. Nothing else in the store changes.
-/
inductive Loop.Steps (loop : Loop) (key : String) (store : Store) : Store → Prop
  | advanced {x : Float} (held : store.values[key]? = some (.number x))
    (within : loop.overshoots x = false)
    : Steps loop key store
        { store with values := store.values.insert key (.number (x + loop.step)) }
  | forgotten {x : Float} (held : store.values[key]? = some (.number x))
    (beyond : loop.overshoots x = true)
    : Steps loop key store (store.erase key)

/-- A `NEXT` that succeeds steps what the name of the innermost loop stands for. -/
theorem Environment.steps_of_closeLoop {env : Environment} {written : Option String}
    {transfer : Transfer} (done : (env.closeLoop written).transfer = .ok transfer)
    : ∃ loop outer,
        env.loops.items = loop :: outer
        ∧ loop.Steps (env.qualify loop.name) env.store (env.closeLoop written).env.store := by
  obtain ⟨loop, top, closed⟩ := closeLoop_eq_ok done
  obtain ⟨outer, items, _⟩ := counting_items top
  refine ⟨loop, outer, items, ?_⟩
  rw [closed] at done ⊢
  obtain ⟨x, held, ⟨beyond, left⟩ | ⟨within, changed, assigned, again⟩⟩ := advanceLoop_eq_ok done
  · rw [left]
    exact .forgotten held beyond
  · rw [again]
    obtain ⟨store, stored, rfl⟩ := assign_eq_ok assigned
    obtain rfl := Store.assign_eq_ok stored
    exact .advanced held within

-----------------------------------------------------------------------------------------
-- The origin of the loops on the stack
-----------------------------------------------------------------------------------------

namespace World

variable {σ : Type} {host : Responder σ} {world : World σ} {policy : ErrorPolicy}

/-- The world is about to execute a `FOR` with success, be it inside conditionals: the variable that
the name of the loop stands for gets the start value, and the loop goes on the stack.
-/
structure StartsLoop (world : World σ) (host : Responder σ) (policy : ErrorPolicy)
    (env : Environment) (loop : Loop)
    : Prop where
  uncounted : loop.count = 0
  opens
    : ∃ interpreter line start goal step value after changed,
        world.Executes policy interpreter env
        ∧ interpreter.program.line? interpreter.position = some line
        ∧ env.commandOf line.tokens = .openLoop loop.name start goal step
        ∧ env.evaluate start = .ok value
        ∧ (world.advance host).Executes policy after changed
        ∧ env.store.assign (env.qualify loop.name) value.typed = .ok changed.store
        ∧ changed.loops.items = loop :: env.loops.items

/-- A `FOR` in the environment `opener`, at the turn `earlier` of the run, has opened the loop above
the loops `outer`, and there it has stayed to the turn `turns`, whatever has been counted.
-/
structure OpenedBy (world : World σ) (host : Responder σ) (policy : ErrorPolicy) (loop : Loop)
    (outer : List Loop) (opener : Environment) (earlier turns : Nat)
    : Prop where
  before : earlier < turns
  starts : (advanceBy host earlier world).StartsLoop host policy opener { loop with count := 0 }
  above : opener.loops.items = outer
  stays
    : ∀ between interpreter env,
        earlier < between
        → between ≤ turns
        → (advanceBy host between world).Executes policy interpreter env
        → ∃ count, { loop with count } :: outer <:+ env.loops.items

namespace OpenedBy

variable {loop : Loop} {outer : List Loop} {opener env : Environment} {earlier turns : Nat}
variable {interpreter : Interpreter}

/-- A loop that is still there after a turn has stayed for that turn, too. -/
theorem later (opened : world.OpenedBy host policy loop outer opener earlier turns)
    (executes : (advanceBy host (turns + 1) world).Executes policy interpreter env) {count : Nat}
    (inside : { loop with count } :: outer <:+ env.loops.items)
    : world.OpenedBy host policy loop outer opener earlier (turns + 1) where
  before := Nat.lt_succ_of_lt opened.before
  starts := opened.starts
  above := opened.above
  stays between interpreter' env' after upTo executes' := by
    rcases Nat.lt_or_eq_of_le upTo with upTo | rfl
    · exact opened.stays between interpreter' env' after (Nat.le_of_lt_succ upTo) executes'
    · rw [executes.env_eq executes']
      exact ⟨count, inside⟩

/-- What has been counted is of no account. -/
theorem recounted (opened : world.OpenedBy host policy loop outer opener earlier turns)
    (count : Nat)
    : world.OpenedBy host policy { loop with count } outer opener earlier turns :=
  ⟨opened.before, opened.starts, opened.above, opened.stays⟩

end OpenedBy

/-- Every loop on the stack was opened by a `FOR` of the run, above the loops that are still below
it, and has stayed there since. By induction on the turns: a loop gets on the stack by its `FOR`
only, and while there is a loop above it, nothing counts or removes it.
-/
theorem exists_openedBy {start interpreter : Interpreter} {initial env : Environment}
    (executes : world.Executes policy start initial) (fresh : initial.loops.items = [])
    (turns : Nat) (executes' : (advanceBy host turns world).Executes policy interpreter env)
    {loop : Loop} {outer : List Loop} (inside : loop :: outer <:+ env.loops.items)
    : ∃ opener earlier, world.OpenedBy host policy loop outer opener earlier turns := by
  induction turns generalizing interpreter env loop outer with
  | zero =>
      rw [executes.env_eq executes', fresh, List.suffix_nil] at inside
      cases inside
  | succ turns ih =>
      have running := executes'.task
      rw [advanceBy_succ] at running
      obtain ⟨before, earlier⟩ := executing_of_advance running
      obtain ⟨middle, executesBefore⟩ := executes.later turns earlier
      obtain ⟨line, outcome, transfer, position, found, ran, done, _, rfl, executesAfter⟩ :=
        executesBefore.next_run running
      obtain rfl : env = outcome.env := by
        rw [← advanceBy_succ] at executesAfter
        exact executesAfter.env_eq executes'
      rcases Command.suffix_loops_cases ran done inside with
        ⟨count, already⟩ | ⟨uncounted, rfl, first, goal, step, value, isOpen, evaluated, assigned,
          pushed⟩
      · obtain ⟨opener, earlier, opened⟩ := ih executesBefore already
        exact ⟨opener, earlier, (opened.recounted loop.count).later executes' inside⟩
      · refine ⟨middle, turns, Nat.lt_succ_self turns, ⟨rfl, ?_⟩, rfl, ?_⟩
        · have same : { loop with count := 0 } = loop := by rw [← uncounted]
          rw [same]
          exact ⟨before, line, first, goal, step, value, _, outcome.env, executesBefore, found,
            isOpen, evaluated, executesAfter, assigned, pushed⟩
        · intro between interpreter' env' after upTo executes''
          obtain rfl : between = turns + 1 := by omega
          rw [executes'.env_eq executes'', pushed]
          exact ⟨loop.count, List.suffix_rfl⟩

-----------------------------------------------------------------------------------------
-- The variable of a loop
-----------------------------------------------------------------------------------------

/-- `NEXT` works on what its loop is called at the time. In every run of every program, a `NEXT`
that succeeds, be it inside conditionals, finds on top of the stack a loop that a `FOR` of the run
has opened there, and that has stayed there since. It gives the next value to the variable that the
name of the loop now stands for, or forgets it, and it touches no other. This is the variable that
the `FOR` gave the start value just if the name has a mark, or if the same namespace is active as at
the `FOR`.
-/
theorem next_steps_named (host : Responder σ) (state : σ) (program : Program)
    (options : RunOptions) (initial : List (String × Value)) (turns : Nat)
    {interpreter after : Interpreter} {env changed : Environment} {line : Line}
    {written : Option String}
    (executes
      : (advanceBy host turns
          { task := .ofProgram program options initial, host := state }).Executes policy
          interpreter env)
    (found : interpreter.program.line? interpreter.position = some line)
    (isNext : env.commandOf line.tokens = .closeLoop written)
    (executes'
      : (advanceBy host (turns + 1)
          { task := .ofProgram program options initial, host := state }).Executes policy after
          changed)
    : ∃ loop outer opener earlier,
        env.loops.items = loop :: outer
        ∧ OpenedBy { task := .ofProgram program options initial, host := state } host policy loop
            outer opener earlier turns
        ∧ loop.Steps (env.qualify loop.name) env.store changed.store
        ∧ (env.qualify loop.name = opener.qualify loop.name
          ↔ '@' ∈ loop.name.toList ∨ env.scope = opener.scope) := by
  obtain ⟨_, _, _, start, store, started⟩ := executes_of_ofProgram executes.task
  rw [advanceBy_succ] at executes'
  obtain ⟨line', outcome, _, _, found', ran, done, _, rfl, executed⟩ :=
    executes.next_run executes'.task
  obtain rfl := executed.env_eq executes'
  cases found.symm.trans found'
  rw [isNext] at ran
  cases ran
  obtain ⟨loop, outer, items, steps⟩ := Environment.steps_of_closeLoop done
  obtain ⟨opener, earlier, opened⟩ :=
    exists_openedBy started rfl turns executes
      (items ▸ List.suffix_rfl : loop :: outer <:+ env.loops.items)
  exact ⟨loop, outer, opener, earlier, items, opened, steps,
    Environment.qualify_eq_iff env opener loop.name⟩

/-- In the body of a loop on `I` the program goes to another namespace, which has an `I` of its own.
The `NEXT` of the loop forgets that one and leaves the loop; the `I` that the `FOR` gave its start
value keeps it.
-/
theorem next_forgets_other_variable
    : let source := "10 FOR I = 1 TO 1\n20 NAMESPACE \"B\"\n30 LET I = 7\n40 NEXT I"
      let world : World Script := { task := .start source {} [], host := {} }
      let glance (turns : Nat) :=
        (advanceBy (Script.host fun _ => none) turns world).task.env?.map fun env =>
          (env.loops.items.map Loop.name, env.store.values["I"]?, env.store.values["B@I"]?)
      glance 1 = some (["I"], some (.number 1.0), none)
      ∧ glance 3 = some (["I"], some (.number 1.0), some (.number 7.0))
      ∧ glance 4 = some ([], some (.number 1.0), none) := by
  decide +kernel

/-- The `NEXT` of such a loop finds the loop that was opened before. -/
theorem next_steps_named_elsewhere
    : let program : Program :=
        ⟨#[
          ⟨10, [.keyword .FOR, .name "I", .operator .assign, .number "1", .keyword .TO,
            .number "1"]⟩,
          ⟨20, [.keyword .NAMESPACE, .quoted "B"]⟩,
          ⟨30, [.keyword .LET, .name "I", .operator .assign, .number "7"]⟩,
          ⟨40, [.keyword .NEXT, .name "I"]⟩]⟩
      let world : World Script := { task := .ofProgram program {} [], host := {} }
      let host : Responder Script := Script.host fun _ => none
      ∃ interpreter env after changed loop outer opener earlier,
        (advanceBy host 3 world).Executes .absorb interpreter env
        ∧ (advanceBy host 4 world).Executes .absorb after changed
        ∧ env.loops.items = loop :: outer
        ∧ world.OpenedBy host .absorb loop outer opener earlier 3
        ∧ loop.Steps (env.qualify loop.name) env.store changed.store := by
  intro program world host
  have executes
      : world.Executes .absorb (Interpreter.start program {} "main" .pro) { name := "main" } :=
    ⟨rfl, rfl, rfl, by decide +kernel⟩
  obtain ⟨interpreter, env, before, onProgram⟩ :=
    @executes.of_isExecuting _ host _ _ _ _ 3 (by decide +kernel)
  obtain ⟨after, changed, behind, _⟩ :=
    @executes.of_isExecuting _ host _ _ _ _ 4 (by decide +kernel)
  have position : (advanceBy host 3 world).task.interpreter?.map Interpreter.position = some 3 := by
    decide +kernel
  have found
      : interpreter.program.line? interpreter.position
        = some ⟨40, [.keyword .NEXT, .name "I"]⟩ := by
    rw [before.task] at position
    rw [onProgram, Option.some.inj position]
    rfl
  obtain ⟨loop, outer, opener, earlier, items, opened, steps, _⟩ :=
    next_steps_named host {} program {} [] 3 before found (Environment.commandOf_command rfl)
      behind
  exact ⟨interpreter, env, after, changed, loop, outer, opener, earlier, before, behind, items,
    opened, steps⟩

end World

end Gosub
