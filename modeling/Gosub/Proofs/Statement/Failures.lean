import Gosub.Proofs.Statement.Effects

/-! What a failing command leaves behind. It has asked for nothing but an answer, and it leaves its
environment as it was, but for three effects that come before the point of failure: a `FOR` may have
stored its start value, a `GOSUB` or a `FOR` that overflows its stack has already pushed on it, and
a `NEXT` has already counted.
-/

namespace Gosub

-----------------------------------------------------------------------------------------
-- Requests before a failure
-----------------------------------------------------------------------------------------

/-- Some answer of the host leads from the turn to the result, after the requests listed. -/
inductive Turn.Ends {α : Type} : Turn α → List Request → α → Prop
  | done (result : α) : Ends (.done result) [] result
  | ask {request : Request} (resume : request.Answer → α) (answer : request.Answer)
    : Ends (.ask request resume) [request] (resume answer)

theorem Turn.Ends.yields {α : Type} {turn : Turn α} {requests : List Request} {result : α}
    (ends : turn.Ends requests result)
    : turn.Yields result := by
  cases ends with
  | done => exact .done result
  | ask resume answer => exact .ask resume answer

theorem Turn.Ends.of_map {α β : Type} {turn : Turn α} {f : α → β} {requests : List Request}
    {result : β} (ends : (turn.map f).Ends requests result)
    : ∃ before, turn.Ends requests before ∧ result = f before := by
  cases turn with
  | done before =>
      cases ends
      exact ⟨before, .done before, rfl⟩
  | ask request resume =>
      cases ends with
      | ask _ answer => exact ⟨resume answer, .ask resume answer, rfl⟩

/-- Whether a request only asks for an answer: for a reply, for the time or for a module. -/
def Request.isQuestion : Request → Bool
  | .input _ | .clock | .load _ => true
  | .write _ | .diagnostic _ | .delay _ | .publish _ _ => false

/-- A command that fails has asked questions only, by cases on the command. Whatever shows text,
publishes a value or waits is the last thing that a command does.
-/
theorem Command.isQuestion_of_fails {command : Command} {position : Nat} {env : Environment}
    {requests : List Request} {outcome : Outcome} {fault : Fault}
    (ends : (command.run position env).Ends requests outcome)
    (failed : outcome.transfer = .error fault)
    : ∀ request ∈ requests, request.isQuestion = true := by
  have silent : ∀ request ∈ ([] : List Request), request.isQuestion = true := by simp
  cases command with
  | print expression | publish name | pause seconds =>
      simp only [run] at ends
      split at ends
      · cases ends
        exact silent
      · cases ends
        cases failed
  | input prompt name | load path name =>
      simp only [run] at ends
      split at ends
      · cases ends
        exact silent
      · cases ends
        simp [Request.isQuestion]
  | readClock reading =>
      cases ends
      simp [Request.isQuestion]
  | gosub target =>
      simp only [run] at ends
      split at ends <;> cases ends <;> exact silent
  | _ =>
      cases ends
      exact silent

-----------------------------------------------------------------------------------------
-- Effects before a failure
-----------------------------------------------------------------------------------------

/-- An assignment changes one variable and nothing else. -/
theorem Environment.eq_of_assign {env changed : Environment} {name : String} {value : Value}
    (done : env.assign name value = .ok changed)
    : changed
      = { env with
          store.values := env.store.values.insert (env.qualify name) value.typed } := by
  obtain ⟨store, stored, rfl⟩ := assign_eq_ok done
  unfold Store.assign at stored
  split at stored
  · cases stored
  · cases stored
    rfl

/-- An iteration that fails has been counted, and nothing else. -/
theorem Environment.env_of_iterate {env : Environment} {loop : Loop} {fault : Fault}
    (failed : (env.iterate loop).transfer = .error fault)
    : (env.iterate loop).env = env.counting loop := by
  rcases Nat.lt_or_ge maxIterations (loop.count + 1) with spent | room
  · rw [env.iterate_of_spent spent]
    rfl
  · rw [env.iterate_of_room room] at failed ⊢
    unfold advanceLoop at failed ⊢
    split at failed
    · rfl
    · split at failed
      · cases failed
      · rename_i within
        rw [if_neg within]
        split at failed
        · rfl
        · cases failed

namespace Command

/-- The command is a `FOR` that stores its start value. -/
inductive Seeds (env : Environment) : Command → String → Value → Prop
  | intro {name : String} {start goal : List Token} {step : Option (List Token)} {value : Value}
    {seeded : Environment} (evaluated : env.evaluate start = .ok value)
    (stored : env.assign name value = .ok seeded)
    : Seeds env (.openLoop name start goal step) name value

/-- The command is a `GOSUB` with a target that finds the call stack full. -/
inductive OverflowsCalls (env : Environment) : Command → Prop
  | intro {target : List Token} {number : Nat} (aimed : env.lineTarget target = .ok number)
    (full : maxStackSize ≤ env.calls.size)
    : OverflowsCalls env (.gosub target)

/-- The command is a `FOR` with a start value and bounds that finds the loop stack full. -/
inductive OverflowsLoops (position : Nat) (env : Environment) : Command → Loop → Prop
  | intro {name : String} {start goal : List Token} {step : Option (List Token)} {value : Value}
    {seeded : Environment} {last increment : Float} (evaluated : env.evaluate start = .ok value)
    (stored : env.assign name value = .ok seeded)
    (bounded : seeded.loopBounds goal step = .ok (last, increment))
    (full : maxStackSize ≤ env.loops.size)
    : OverflowsLoops position env (.openLoop name start goal step)
        ⟨name, last, increment, position, 0⟩

/-- The command is a `NEXT` that counts an iteration of the innermost loop. -/
inductive Counts (env : Environment) : Command → Loop → Prop
  | intro {name : Option String} {loop : Loop} (top : env.loops.top? = some loop)
    (matching : ∀ given ∈ name, given = loop.name)
    : Counts env (.closeLoop name) loop

/-- What a command that failed has made of the environment. Namespace and arrays are as before. The
variables are as before unless a `FOR` has stored its start value, and then no other variable has
changed. The call stack is as before unless a `GOSUB` overflowed it, and then it holds the position
of that `GOSUB` in addition. The loop stack is as before unless a `FOR` overflowed it, and then it
holds that loop in addition, or a `NEXT` has counted, and then only the innermost loop has changed,
by one iteration.
-/
structure Aftermath (command : Command) (position : Nat) (before after : Environment) : Prop where
  name : after.name = before.name
  scope : after.scope = before.scope
  arrays : after.store.arrays = before.store.arrays
  values
    : (∃ name value,
        command.Seeds before name value
        ∧ after.store.values = before.store.values.insert (before.qualify name) value.typed)
      ∨ (∀ name value, ¬ command.Seeds before name value)
        ∧ after.store.values = before.store.values
  calls
    : command.OverflowsCalls before ∧ after.calls = before.calls.push position
      ∨ ¬ command.OverflowsCalls before ∧ after.calls = before.calls
  loops
    : (∃ loop, command.OverflowsLoops position before loop ∧ after.loops = before.loops.push loop)
      ∨ (∃ loop rest,
          command.Counts before loop
          ∧ before.loops.items = loop :: rest
          ∧ after.loops.items = { loop with count := loop.count + 1 } :: rest)
      ∨ (∀ loop, ¬ command.OverflowsLoops position before loop)
        ∧ (∀ loop, ¬ command.Counts before loop)
        ∧ after.loops = before.loops

namespace Aftermath

variable {command : Command} {position : Nat} {env : Environment}

/-- A command that does none of these things leaves the environment as it was. -/
theorem unchanged (unseeded : ∀ name value, ¬ command.Seeds env name value)
    (uncalled : ¬ command.OverflowsCalls env)
    (unlooped : ∀ loop, ¬ command.OverflowsLoops position env loop)
    (uncounted : ∀ loop, ¬ command.Counts env loop)
    : command.Aftermath position env env where
  name := rfl
  scope := rfl
  arrays := rfl
  values := .inr ⟨unseeded, rfl⟩
  calls := .inr ⟨uncalled, rfl⟩
  loops := .inr (.inr ⟨unlooped, uncounted, rfl⟩)

/-- A plain command that fails leaves the environment as it was, whatever its outcome. -/
theorem ofPlain {outcome : Outcome} {fault : Fault} (plain : command.isPlain = true)
    (effect : command.Effect position env outcome) (failed : outcome.transfer = .error fault)
    : command.Aftermath position env outcome.env := by
  have same : outcome.env = env := by
    cases effect with
    | failed => rfl
    | idle | change | called | uncalled | returned | opened | finished | repeated => cases failed
    | callOverflow | seeded | loopOverflow | runaway | stalled => cases plain
  rw [same]
  exact unchanged (fun _ _ seeds => by cases seeds; cases plain)
    (fun overflows => by cases overflows; cases plain)
    (fun _ overflows => by cases overflows; cases plain)
    (fun _ counts => by cases counts; cases plain)

/-- A `GOSUB` that fails has no target, or finds no room on the call stack and has taken it. -/
theorem ofEnter {target : List Token} {outcome : Outcome} {fault : Fault}
    (ran : ((Command.gosub target).run position env).Yields outcome)
    (failed : outcome.transfer = .error fault)
    : (Command.gosub target).Aftermath position env outcome.env := by
  have unseeded (name : String) (value : Value)
      : ¬ (Command.gosub target).Seeds env name value := by
    intro seeds
    cases seeds
  have unlooped (loop : Loop) : ¬ (Command.gosub target).OverflowsLoops position env loop := by
    intro overflows
    cases overflows
  have uncounted (loop : Loop) : ¬ (Command.gosub target).Counts env loop := by
    intro counts
    cases counts
  simp only [run] at ran
  split at ran
  · rename_i missed
    cases ran
    refine unchanged unseeded (fun overflows => ?_) unlooped uncounted
    obtain ⟨aimed, _⟩ := overflows
    cases missed.symm.trans aimed
  · rename_i number aimed
    cases ran
    simp only [Environment.enterSubroutine, Environment.pushCall, BoundedStack.check] at failed ⊢
    split at failed
    · rename_i full
      have overflows : (Command.gosub target).OverflowsCalls env :=
        .intro aimed (Nat.le_of_lt_succ full)
      exact ⟨rfl, rfl, rfl, .inr ⟨unseeded, rfl⟩, .inl ⟨overflows, rfl⟩,
        .inr (.inr ⟨unlooped, uncounted, rfl⟩)⟩
    · cases failed

/-- A `FOR` that fails has no start value, has stored it and has no bounds, or finds no room on the
loop stack and has taken it.
-/
theorem ofOpen {name : String} {start goal : List Token} {step : Option (List Token)}
    {fault : Fault}
    (failed : (env.openLoop position name start goal step).transfer = .error fault)
    : (Command.openLoop name start goal step).Aftermath position env
        (env.openLoop position name start goal step).env := by
  have uncalled : ¬ (Command.openLoop name start goal step).OverflowsCalls env := by
    intro overflows
    cases overflows
  have uncounted (loop : Loop) : ¬ (Command.openLoop name start goal step).Counts env loop := by
    intro counts
    cases counts
  have unstored {fault : Fault} {value : Value} {seeded : Environment}
      (broken : (do env.assign name (← env.evaluate start)) = Except.error fault)
      (evaluated : env.evaluate start = .ok value)
      : env.assign name value ≠ .ok seeded := by
    intro stored
    rw [evaluated] at broken
    cases broken.symm.trans stored
  unfold Environment.openLoop at failed ⊢
  split at failed
  · rename_i broken
    refine unchanged (fun _ _ seeds => ?_) uncalled (fun _ overflows => ?_) uncounted
    · obtain ⟨evaluated, stored⟩ := seeds
      exact unstored broken evaluated stored
    · obtain ⟨evaluated, stored, _, _⟩ := overflows
      exact unstored broken evaluated stored
  · rename_i seeded done
    obtain ⟨value, evaluated, stored⟩ := bind_eq_ok done
    have seeds : (Command.openLoop name start goal step).Seeds env name value :=
      .intro evaluated stored
    obtain rfl := Environment.eq_of_assign stored
    split at failed
    · rename_i unbounded
      refine ⟨rfl, rfl, rfl, .inl ⟨name, value, seeds, rfl⟩, .inr ⟨uncalled, rfl⟩,
        .inr (.inr ⟨fun _ overflows => ?_, uncounted, rfl⟩)⟩
      obtain ⟨evaluated', stored', bounded, _⟩ := overflows
      cases evaluated.symm.trans evaluated'
      cases stored.symm.trans stored'
      cases unbounded.symm.trans bounded
    · rename_i bounded
      simp only [Environment.enterLoop, Environment.pushLoop, BoundedStack.check] at failed ⊢
      split at failed
      · rename_i full
        have overflows : (Command.openLoop name start goal step).OverflowsLoops position env _ :=
          .intro evaluated stored bounded (Nat.le_of_lt_succ full)
        exact ⟨rfl, rfl, rfl, .inl ⟨name, value, seeds, rfl⟩, .inr ⟨uncalled, rfl⟩,
          .inl ⟨_, overflows, rfl⟩⟩
      · cases failed

/-- A `NEXT` that fails is none of the innermost loop, or has been counted. -/
theorem ofClose {name : Option String} {fault : Fault}
    (failed : (env.closeLoop name).transfer = .error fault)
    : (Command.closeLoop name).Aftermath position env (env.closeLoop name).env := by
  have unseeded (given : String) (value : Value)
      : ¬ (Command.closeLoop name).Seeds env given value := by
    intro seeds
    cases seeds
  have uncalled : ¬ (Command.closeLoop name).OverflowsCalls env := by
    intro overflows
    cases overflows
  have unlooped (loop : Loop) : ¬ (Command.closeLoop name).OverflowsLoops position env loop := by
    intro overflows
    cases overflows
  have counted {loop : Loop} (top : env.loops.top? = some loop)
      (matching : ∀ given ∈ name, given = loop.name)
      : (Command.closeLoop name).Aftermath position env (env.counting loop) := by
    obtain ⟨outer, items, counted⟩ := Environment.counting_items top
    exact ⟨rfl, rfl, rfl, .inr ⟨unseeded, rfl⟩, .inr ⟨uncalled, rfl⟩,
      .inr (.inl ⟨loop, outer, .intro top matching, items, counted⟩)⟩
  unfold Environment.closeLoop at failed ⊢
  split at failed
  · rename_i none
    refine unchanged unseeded uncalled unlooped (fun _ counts => ?_)
    obtain ⟨top, _⟩ := counts
    cases none.symm.trans top
  · rename_i loop top
    cases name with
    | none =>
        dsimp only at failed ⊢
        rw [Environment.env_of_iterate failed]
        exact counted top (by simp)
    | some given =>
        dsimp only at failed ⊢
        split at failed
        · rename_i same
          rw [if_pos same, Environment.env_of_iterate failed]
          exact counted top (by simp [same])
        · rename_i apart
          rw [if_neg apart]
          refine unchanged unseeded uncalled unlooped (fun _ counts => ?_)
          obtain ⟨top', matching⟩ := counts
          cases top.symm.trans top'
          exact apart (matching given rfl)

end Aftermath

/-- A command that fails leaves nothing behind but what it has done half, by cases on the command.
-/
theorem aftermath_of_fails {command : Command} {position : Nat} {env : Environment}
    {outcome : Outcome} {fault : Fault} (ran : (command.run position env).Yields outcome)
    (failed : outcome.transfer = .error fault)
    : command.Aftermath position env outcome.env := by
  cases command with
  | gosub target => exact .ofEnter ran failed
  | goBack =>
      cases ran
      unfold Environment.leaveSubroutine at failed
      split at failed <;> cases failed
  | openLoop name start goal step =>
      cases ran
      exact .ofOpen failed
  | closeLoop name =>
      cases ran
      exact .ofClose failed
  | _ => exact .ofPlain rfl (run_effect ran) failed

end Command

end Gosub
