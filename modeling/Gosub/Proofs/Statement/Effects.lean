import Gosub.Statement.Execution

/-! What commands can do. Every outcome of a command, whatever the host answers, is one of a few
effects on the environment, so that a property of all runs is settled effect by effect.
-/

namespace Gosub

-----------------------------------------------------------------------------------------
-- Results of turns and of failing computations
-----------------------------------------------------------------------------------------

/-- Some answer of the host leads from the turn to the result. -/
inductive Turn.Yields {α : Type} : Turn α → α → Prop
  | done (result : α) : Yields (.done result) result
  | ask {request : Request} (resume : request.Answer → α) (answer : request.Answer)
    : Yields (.ask request resume) (resume answer)

/-- The results of a continued turn are the continued results. -/
theorem Turn.Yields.of_map {α β : Type} {turn : Turn α} {f : α → β} {result : β}
    (yields : (turn.map f).Yields result)
    : ∃ before, turn.Yields before ∧ result = f before := by
  cases turn with
  | done before =>
      cases yields
      exact ⟨before, .done before, rfl⟩
  | ask request resume =>
      cases yields with
      | ask _ answer => exact ⟨resume answer, .ask resume answer, rfl⟩

/-- A sequence of two computations succeeds only where both do. -/
theorem bind_eq_ok {α β : Type} {first : Except Fault α} {next : α → Except Fault β} {result : β}
    (done : (first >>= next) = .ok result)
    : ∃ value, first = .ok value ∧ next value = .ok result := by
  cases first with
  | error fault => cases done
  | ok value => exact ⟨value, rfl, done⟩

theorem map_eq_ok {α β : Type} {first : Except Fault α} {f : α → β} {result : β}
    (done : first.map f = .ok result)
    : ∃ value, first = .ok value ∧ result = f value := by
  cases first with
  | error fault => cases done
  | ok value => exact ⟨value, rfl, (Except.ok.inj done).symm⟩

theorem eq_ok_of_toOption {α : Type} {computed : Except Fault α} {value : α}
    (found : computed.toOption = some value)
    : computed = .ok value := by
  cases computed with
  | error fault => cases found
  | ok result => rw [Option.some.inj found]

-----------------------------------------------------------------------------------------
-- Effects
-----------------------------------------------------------------------------------------

/-- A change of the memory or of the namespace. -/
inductive Environment.Change (env : Environment) : Environment → Prop
  | assign {name value changed} (done : env.assign name value = .ok changed) : env.Change changed
  | assignCell {name indices value changed}
    (done : env.assignCell name indices value = .ok changed)
    : env.Change changed
  | declare {name dimension changed} (done : env.declare name dimension = .ok changed)
    : env.Change changed
  | rescope (scope : String) : env.Change { env with scope }

/-- The environment with one more iteration of its innermost loop counted. -/
def Environment.counting (env : Environment) (loop : Loop) : Environment :=
  { env with loops := env.loops.replaceTop loop.counted }

/-- Counting changes the innermost loop and no other. -/
theorem Environment.counting_items {env : Environment} {loop : Loop}
    (top : env.loops.top? = some loop)
    : ∃ outer,
        env.loops.items = loop :: outer
        ∧ (env.counting loop).loops.items = loop.counted :: outer := by
  obtain ⟨outer, items⟩ : ∃ outer, env.loops.items = loop :: outer :=
    List.head?_eq_some_iff.mp top
  refine ⟨outer, items, ?_⟩
  simp [counting, BoundedStack.replaceTop, top, BoundedStack.push, BoundedStack.pop, items]

theorem Environment.iterate_of_spent {loop : Loop} (env : Environment)
    (spent : maxIterations < loop.count + 1)
    : env.iterate loop = .fail (env.counting loop) (.runawayLoop loop.name) := by
  simp [iterate, countIteration, Loop.check, Loop.counted, spent, counting]

theorem Environment.iterate_of_room {loop : Loop} (env : Environment)
    (room : loop.count + 1 ≤ maxIterations)
    : env.iterate loop = (env.counting loop).advanceLoop loop := by
  have unspent : ¬ maxIterations < loop.count + 1 := Nat.not_lt.mpr room
  simp [iterate, countIteration, Loop.check, Loop.counted, unspent, counting]

/-- Whether a command has no business with the stacks. -/
def Command.isPlain : Command → Bool
  | .gosub _ | .goBack | .openLoop _ _ _ _ | .closeLoop _ => false
  | _ => true

/-- What a command can do on behalf of a position. A plain command changes the memory or nothing at
all; the effects of `GOSUB`, `RETURN`, `FOR` and `NEXT` on the stacks stand with their guards.
-/
inductive Command.Effect (position : Nat) (env : Environment) : Command → Outcome → Prop
  | failed {command} (fault : Fault) : Effect position env command (.fail env fault)
  | idle {command} {transfer : Transfer} (plain : command.isPlain = true)
    (stays : ∀ origin, transfer ≠ .resume origin)
    : Effect position env command ⟨env, .ok transfer⟩
  | change {command} {changed : Environment} (plain : command.isPlain = true)
    (change : env.Change changed)
    : Effect position env command (.next changed)
  | called {target} (number : Nat) (room : (env.calls.push position).size ≤ maxStackSize)
    : Effect position env (.gosub target)
        ⟨{ env with calls := env.calls.push position }, .ok (.jump number)⟩
  | callOverflow {target} (full : maxStackSize < (env.calls.push position).size)
    : Effect position env (.gosub target)
        (.fail { env with calls := env.calls.push position } (.stackOverflow "CALL STACK OVERFLOW"))
  | uncalled (empty : env.calls.top? = none) : Effect position env .goBack (.next env)
  | returned {origin : Nat} (top : env.calls.top? = some origin)
    : Effect position env .goBack ⟨{ env with calls := env.calls.pop }, .ok (.resume origin)⟩
  | seeded {name start goal step value} {seeded : Environment}
    (seed : env.assign name value = .ok seeded) (fault : Fault)
    : Effect position env (.openLoop name start goal step) (.fail seeded fault)
  | opened {name start goal step value} {seeded : Environment}
    (seed : env.assign name value = .ok seeded) {loop : Loop} (anchor : loop.anchor = position)
    (count : loop.count = 0) (room : (seeded.loops.push loop).size ≤ maxStackSize)
    : Effect position env (.openLoop name start goal step)
        (.next { seeded with loops := seeded.loops.push loop })
  | loopOverflow {name start goal step value} {seeded : Environment}
    (seed : env.assign name value = .ok seeded) {loop : Loop} (anchor : loop.anchor = position)
    (count : loop.count = 0) (full : maxStackSize < (seeded.loops.push loop).size)
    : Effect position env (.openLoop name start goal step)
        (.fail { seeded with loops := seeded.loops.push loop }
          (.stackOverflow "LOOP STACK OVERFLOW"))
  | runaway {name} {loop : Loop} (top : env.loops.top? = some loop)
    (spent : maxIterations < loop.count + 1)
    : Effect position env (.closeLoop name)
        (.fail (env.counting loop) (.runawayLoop loop.name))
  | stalled {name} {loop : Loop} (top : env.loops.top? = some loop)
    (room : loop.count + 1 ≤ maxIterations) (fault : Fault)
    : Effect position env (.closeLoop name) (.fail (env.counting loop) fault)
  | finished {name} {loop : Loop} (top : env.loops.top? = some loop)
    (room : loop.count + 1 ≤ maxIterations)
    : Effect position env (.closeLoop name)
        (.next ({ env.counting loop with loops := (env.counting loop).loops.pop }.erase loop.name))
  | repeated {name value} {loop : Loop} {changed : Environment}
    (top : env.loops.top? = some loop) (room : loop.count + 1 ≤ maxIterations)
    (advance : (env.counting loop).assign loop.name value = .ok changed)
    : Effect position env (.closeLoop name) ⟨changed, .ok (.resume loop.anchor)⟩

namespace Command.Effect

variable {position : Nat} {env : Environment}

theorem passing {command : Command} (plain : command.isPlain = true)
    : Effect position env command (.next env) :=
  .idle plain fun _ same => by cases same

/-- A change that may fail has an effect only where it does not. -/
theorem ofChange {change : Except Fault Environment} {command : Command}
    (plain : command.isPlain = true)
    (changes : ∀ changed, change = .ok changed → env.Change changed)
    : Effect position env command (.ofChange env change) := by
  cases result : change with
  | error fault => exact .failed fault
  | ok changed => exact .change plain (changes changed result)

/-- Opening a subroutine pushes the position, with or without room for it. -/
theorem ofEnter (target : List Token) (number : Nat)
    : Effect position env (.gosub target) (env.enterSubroutine position number) := by
  simp only [Environment.enterSubroutine, Environment.pushCall, BoundedStack.check]
  split
  · rename_i full
    exact .callOverflow full
  · rename_i room
    exact .called number (Nat.le_of_not_lt room)

/-- Returning pops the position to go on from, where there is one. -/
theorem ofLeave : Effect position env .goBack env.leaveSubroutine := by
  unfold Environment.leaveSubroutine
  split
  · rename_i top
    exact .returned top
  · rename_i empty
    exact .uncalled empty

/-- Opening a loop seeds its variable and pushes it. Witness: the start value and the bounds are
evaluated in turn, and the seed stays where the bounds fail.
-/
theorem ofOpen (name : String) (start goal : List Token) (step : Option (List Token))
    : Effect position env (.openLoop name start goal step)
        (env.openLoop position name start goal step) := by
  unfold Environment.openLoop
  split
  · rename_i fault _
    exact .failed fault
  · rename_i seeded done
    obtain ⟨value, _, seed⟩ := bind_eq_ok done
    split
    · rename_i fault _
      exact .seeded seed fault
    · simp only [Environment.enterLoop, Environment.pushLoop, BoundedStack.check]
      split
      · rename_i full
        exact .loopOverflow seed rfl rfl full
      · rename_i room
        exact .opened seed rfl rfl (Nat.le_of_not_lt room)

/-- Ending an iteration counts it first, and then goes on by the value of the loop variable. -/
theorem ofIterate {name : Option String} {loop : Loop} (top : env.loops.top? = some loop)
    : Effect position env (.closeLoop name) (env.iterate loop) := by
  rcases Nat.lt_or_ge maxIterations (loop.count + 1) with spent | room
  · rw [env.iterate_of_spent spent]
    exact .runaway top spent
  · rw [env.iterate_of_room room]
    unfold Environment.advanceLoop
    split
    · rename_i fault _
      exact .stalled top room fault
    · split
      · exact .finished top room
      · split
        · rename_i fault _
          exact .stalled top room fault
        · rename_i advance
          exact .repeated top room advance

/-- Closing a loop without a matching innermost loop only fails. -/
theorem ofClose (name : Option String)
    : Effect position env (.closeLoop name) (env.closeLoop name) := by
  unfold Environment.closeLoop
  split
  · exact .failed _
  · rename_i top
    split
    · exact ofIterate top
    · split
      · exact ofIterate top
      · exact .failed _

end Command.Effect

/-- Every outcome of a command is one of its effects, by cases on the command. -/
theorem Command.run_effect {command : Command} {position : Nat} {env : Environment}
    {outcome : Outcome} (yields : (command.run position env).Yields outcome)
    : command.Effect position env outcome := by
  cases command with
  | skip =>
      cases yields
      exact .passing rfl
  | refuse fault =>
      cases yields
      exact .failed fault
  | print expression =>
      simp only [run] at yields
      split at yields
      · cases yields
        exact .failed _
      · cases yields
        exact .passing rfl
  | assign name expression =>
      cases yields
      refine .ofChange rfl fun changed done => ?_
      obtain ⟨_, _, done⟩ := bind_eq_ok done
      exact .assign done
  | assignCell name indices expression =>
      cases yields
      refine .ofChange rfl fun changed done => ?_
      obtain ⟨_, _, done⟩ := bind_eq_ok done
      obtain ⟨_, _, done⟩ := bind_eq_ok done
      exact .assignCell done
  | declare name dimension =>
      cases yields
      refine .ofChange rfl fun changed done => ?_
      cases dimension with
      | none => exact .declare done
      | some expression =>
          obtain ⟨_, _, done⟩ := bind_eq_ok done
          obtain ⟨_, _, done⟩ := bind_eq_ok done
          exact .declare done
  | input prompt name =>
      simp only [run] at yields
      split at yields
      · cases yields
        exact .failed _
      · cases yields
        exact .ofChange rfl fun _ done => .assign done
  | halt =>
      cases yields
      exact .idle rfl fun _ same => by cases same
  | goto target =>
      cases yields
      cases env.lineTarget target with
      | error fault => exact .failed fault
      | ok number => exact .idle rfl fun _ same => by cases same
  | gosub target =>
      simp only [run] at yields
      split at yields
      · cases yields
        exact .failed _
      · cases yields
        exact .ofEnter target _
  | goBack =>
      cases yields
      exact .ofLeave
  | setScope expression =>
      cases yields
      refine .ofChange rfl fun changed done => ?_
      obtain ⟨value, _, done⟩ := bind_eq_ok done
      cases done
      exact .rescope _
  | readClock reading =>
      cases yields
      exact .ofChange rfl fun _ done => .assign done
  | load path name =>
      simp only [run] at yields
      split at yields
      · cases yields
        exact .failed _
      · cases yields with
        | ask _ answer =>
            dsimp only
            split
            · exact .ofChange rfl fun _ done => .assign done
            · exact .passing rfl
  | publish name =>
      simp only [run] at yields
      split at yields
      · cases yields
        exact .failed _
      · cases yields
        exact .passing rfl
  | pause seconds =>
      simp only [run] at yields
      split at yields
      · cases yields
        exact .failed _
      · cases yields
        exact .passing rfl
  | openLoop name start goal step =>
      cases yields
      exact .ofOpen name start goal step
  | closeLoop name =>
      cases yields
      exact .ofClose name

/-- A command never shows a diagnostic itself. -/
theorem Command.run_ne_diagnostic (command : Command) (position : Nat) (env : Environment)
    (text : String) (resume : (Request.diagnostic text).Answer → Outcome)
    : command.run position env ≠ .ask (.diagnostic text) resume := by
  intro asked
  cases command with
  | print | input | gosub | load | publish | pause =>
      simp only [run] at asked
      split at asked <;> cases asked
  | _ => cases asked

-----------------------------------------------------------------------------------------
-- What effects leave alone
-----------------------------------------------------------------------------------------

namespace Environment

/-- An assignment replaces the store and nothing else. -/
theorem assign_eq_ok {env changed : Environment} {name : String} {value : Value}
    (done : env.assign name value = .ok changed)
    : ∃ store,
        env.store.assign (env.qualify name) value.typed = .ok store
        ∧ changed = { env with store } :=
  map_eq_ok done

/-- A change reaches the store and the namespace and nothing else, by cases on the change. -/
theorem Change.frame {env changed : Environment} (change : env.Change changed)
    : ∃ store scope, changed = { env with store, scope } := by
  cases change with
  | assign done =>
      obtain ⟨store, _, rfl⟩ := map_eq_ok done
      exact ⟨store, env.scope, rfl⟩
  | assignCell done =>
      obtain ⟨store, _, rfl⟩ := map_eq_ok done
      exact ⟨store, env.scope, rfl⟩
  | declare done =>
      obtain ⟨store, _, rfl⟩ := map_eq_ok done
      exact ⟨store, env.scope, rfl⟩
  | rescope scope => exact ⟨env.store, scope, rfl⟩

end Environment

/-- No command renames its environment, by cases on the effect. -/
theorem Command.Effect.name_eq {command : Command} {position : Nat} {env : Environment}
    {outcome : Outcome} (effect : command.Effect position env outcome)
    : outcome.env.name = env.name := by
  cases effect with
  | failed | idle | called | callOverflow | uncalled | returned | runaway | stalled
  | finished => rfl
  | change _ change =>
      obtain ⟨_, _, rfl⟩ := change.frame
      rfl
  | seeded seed | opened seed | loopOverflow seed =>
      obtain ⟨_, _, rfl⟩ := Environment.assign_eq_ok seed
      rfl
  | repeated _ _ advance =>
      obtain ⟨_, _, rfl⟩ := Environment.assign_eq_ok advance
      rfl

end Gosub
