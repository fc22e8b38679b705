import Gosub.Proofs.Evaluation.Expressions
import Gosub.Proofs.Machine.Conditionals

/-! Relocation. An environment knows places of the program only as the positions on its stacks, and
a command does nothing with them but put them there and hand them back. Where all positions are
renamed, every command has its outcome renamed.
-/

namespace Gosub

-----------------------------------------------------------------------------------------
-- Renamed positions
-----------------------------------------------------------------------------------------

namespace BoundedStack

variable {α β : Type} (f : α → β) (stack : BoundedStack α)

/-- The stack with every item changed. -/
def map : BoundedStack β where
  items := stack.items.map f
  size := stack.size
  size_eq := by rw [List.length_map, stack.size_eq]

@[simp]
theorem map_push (item : α) : (stack.push item).map f = (stack.map f).push (f item) := rfl

@[simp]
theorem map_pop : stack.pop.map f = (stack.map f).pop := by
  simp [map, pop, List.map_tail]

@[simp]
theorem top?_map : (stack.map f).top? = stack.top?.map f := by
  simp [map, top?]

@[simp]
theorem map_replaceTop (item : α)
    : (stack.replaceTop item).map f = (stack.map f).replaceTop (f item) := by
  unfold replaceTop
  rw [top?_map]
  cases stack.top? with
  | none => rfl
  | some _ => simp

end BoundedStack

variable (f : Nat → Nat)

/-- The loop with its anchor renamed. -/
def Loop.relocate (loop : Loop) : Loop :=
  { loop with anchor := f loop.anchor }

/-- The environment with the positions on its stacks renamed. -/
def Environment.relocate (env : Environment) : Environment :=
  { env with calls := env.calls.map f, loops := env.loops.map (Loop.relocate f) }

/-- The transfer with the position that it goes back to renamed. -/
def Transfer.relocate : Transfer → Transfer
  | .resume position => .resume (f position)
  | transfer => transfer

/-- The outcome with all positions renamed. -/
def Outcome.relocate (outcome : Outcome) : Outcome where
  env := outcome.env.relocate f
  transfer := outcome.transfer.map (Transfer.relocate f)

-----------------------------------------------------------------------------------------
-- Commands on renamed positions
-----------------------------------------------------------------------------------------

namespace Outcome

variable (env : Environment)

theorem relocate_ofChange (change : Except Fault Environment)
    : (Outcome.ofChange env change).relocate f
      = .ofChange (env.relocate f) (change.map (Environment.relocate f)) := by
  cases change <;> rfl

end Outcome

namespace Environment

variable (env : Environment)

theorem sameMemory_relocate : env.SameMemory (env.relocate f) := ⟨rfl, rfl⟩

/-- A change of the memory leaves the stacks alone. -/
theorem relocate_withStore (changed : Except Fault Store)
    : (changed.map fun store => { env.relocate f with store })
      = (changed.map fun store => { env with store }).map (relocate f) := by
  cases changed <;> rfl

theorem assign_relocate (name : String) (value : Value)
    : (env.relocate f).assign name value = (env.assign name value).map (relocate f) :=
  env.relocate_withStore f _

theorem declare_relocate (name : String) (dimension : Nat)
    : (env.relocate f).declare name dimension = (env.declare name dimension).map (relocate f) :=
  env.relocate_withStore f _

theorem assignCell_relocate (name : String) (indices : List Value) (value : Value)
    : (env.relocate f).assignCell name indices value
      = (env.assignCell name indices value).map (relocate f) :=
  env.relocate_withStore f _

@[simp]
theorem evaluate_relocate (tokens : List Token)
    : (env.relocate f).evaluate tokens = env.evaluate tokens :=
  (env.sameMemory_relocate f).evaluate_eq tokens

@[simp]
theorem evaluateAll_relocate (groups : List (List Token))
    : (env.relocate f).evaluateAll groups = env.evaluateAll groups :=
  (env.sameMemory_relocate f).evaluateAll_eq groups

@[simp]
theorem evaluateNumber_relocate (tokens : List Token) (subject : String)
    : (env.relocate f).evaluateNumber tokens subject = env.evaluateNumber tokens subject := by
  rw [evaluateNumber, evaluateNumber, evaluate_relocate]

@[simp]
theorem lineTarget_relocate (tokens : List Token)
    : (env.relocate f).lineTarget tokens = env.lineTarget tokens := by
  rw [lineTarget, lineTarget, evaluate_relocate]

theorem choose_relocate (condition body : List Token) (otherwise : Option (List Token))
    : (env.relocate f).choose condition body otherwise = env.choose condition body otherwise := by
  rw [choose, choose, (env.sameMemory_relocate f).holds_eq]

/-- A line comes down to the same command, by induction along the chosen bodies. -/
theorem commandOf_relocate (tokens : List Token)
    : (env.relocate f).commandOf tokens = env.commandOf tokens := by
  fun_induction env.commandOf tokens with
  | case1 tokens command read => exact commandOf_command read
  | case2 tokens condition body otherwise read choice =>
      rw [← choose_relocate f] at choice
      exact commandOf_unchosen read choice
  | case3 tokens condition body otherwise read chosen choice _ ih =>
      rw [← choose_relocate f] at choice
      rw [commandOf_chosen read choice, ih]

theorem enterSubroutine_relocate (position number : Nat)
    : (env.relocate f).enterSubroutine (f position) number
      = (env.enterSubroutine position number).relocate f := by
  have pushed
      : (env.relocate f).pushCall (f position)
        = ((env.pushCall position).1.relocate f, (env.pushCall position).2) := rfl
  simp only [enterSubroutine, pushed, Outcome.relocate]
  cases (env.pushCall position).2 <;> rfl

theorem leaveSubroutine_relocate
    : (env.relocate f).leaveSubroutine = env.leaveSubroutine.relocate f := by
  have top : (env.relocate f).calls.top? = env.calls.top?.map f := env.calls.top?_map f
  have popped : (env.relocate f).calls.pop = env.calls.pop.map f := (env.calls.map_pop f).symm
  unfold leaveSubroutine
  rw [top]
  cases env.calls.top? with
  | none => rfl
  | some position => simp only [Option.map_some, popped]; rfl

theorem enterLoop_relocate (loop : Loop)
    : (env.relocate f).enterLoop (loop.relocate f) = (env.enterLoop loop).relocate f := by
  have pushed
      : (env.relocate f).pushLoop (loop.relocate f)
        = ((env.pushLoop loop).1.relocate f, (env.pushLoop loop).2) := rfl
  simp only [enterLoop, pushed, Outcome.relocate]
  cases (env.pushLoop loop).2 <;> rfl

theorem openLoop_relocate (position : Nat) (name : String) (start goal : List Token)
    (step : Option (List Token))
    : (env.relocate f).openLoop (f position) name start goal step
      = (env.openLoop position name start goal step).relocate f := by
  have bounds (env : Environment)
      : (env.relocate f).loopBounds goal step = env.loopBounds goal step := by
    simp only [loopBounds, evaluateNumber_relocate]
  unfold openLoop
  rw [evaluate_relocate]
  cases env.evaluate start with
  | error fault => rfl
  | ok value =>
      simp only [bind, Except.bind, assign_relocate]
      cases env.assign name value with
      | error fault => rfl
      | ok seeded =>
          simp only [Except.map, bounds]
          cases seeded.loopBounds goal step with
          | error fault => rfl
          | ok bounds =>
              obtain ⟨goal, step⟩ := bounds
              exact seeded.enterLoop_relocate f ⟨name, goal, step, position, 0⟩

theorem advanceLoop_relocate (loop : Loop)
    : (env.relocate f).advanceLoop (loop.relocate f) = (env.advanceLoop loop).relocate f := by
  have value : (env.relocate f).loopValue (loop.relocate f) = env.loopValue loop := rfl
  unfold advanceLoop
  rw [value]
  cases env.loopValue loop with
  | error fault => rfl
  | ok value =>
      have overshoots : (loop.relocate f).overshoots value = loop.overshoots value := rfl
      simp only [overshoots]
      split
      · simp only [Outcome.relocate, relocate, erase, BoundedStack.map_pop, Outcome.next]
        rfl
      · have name : (loop.relocate f).name = loop.name := rfl
        have step : (loop.relocate f).step = loop.step := rfl
        rw [name, step, assign_relocate]
        cases env.assign loop.name (.number (value + loop.step)) <;> rfl

theorem countIteration_relocate (loop : Loop)
    : (env.relocate f).countIteration (loop.relocate f)
      = ((env.countIteration loop).1.relocate f, (env.countIteration loop).2) := by
  have counted : (loop.relocate f).counted = loop.counted.relocate f := rfl
  simp only [countIteration, relocate, counted, BoundedStack.map_replaceTop]
  rfl

theorem closeLoop_relocate (name : Option String)
    : (env.relocate f).closeLoop name = (env.closeLoop name).relocate f := by
  have iterated (loop : Loop)
      : (env.relocate f).iterate (loop.relocate f) = (env.iterate loop).relocate f := by
    simp only [iterate, countIteration_relocate]
    cases (env.countIteration loop).2 with
    | error fault => rfl
    | ok _ => exact advanceLoop_relocate f _ loop
  have top : (env.relocate f).loops.top? = env.loops.top?.map (Loop.relocate f) :=
    env.loops.top?_map _
  unfold closeLoop
  rw [top]
  cases env.loops.top? with
  | none => rfl
  | some loop =>
      cases name with
      | none => exact iterated loop
      | some name =>
          have named : (loop.relocate f).name = loop.name := rfl
          simp only [Option.map_some, named]
          split
          · exact iterated loop
          · rfl

end Environment

/-- A command for a renamed position, on an environment with renamed positions, makes the same
request and has its outcome renamed. Witness: cases on the command; only those that deal with the
stacks read or write a position.
-/
theorem Command.run_relocate (command : Command) (position : Nat) (env : Environment)
    : command.run (f position) (env.relocate f)
      = (command.run position env).map (Outcome.relocate f) := by
  cases command with
  | skip | refuse | halt => rfl
  | print expression =>
      simp only [run, Environment.evaluate_relocate]
      cases env.evaluate expression <;> rfl
  | assign name expression =>
      simp only [run, Environment.evaluate_relocate, Turn.map, Outcome.relocate_ofChange]
      cases env.evaluate expression with
      | error fault => rfl
      | ok value => exact congrArg _ (congrArg _ (env.assign_relocate f name value))
  | assignCell name indices expression =>
      simp only [run, Environment.evaluate_relocate, Environment.evaluateAll_relocate, Turn.map,
        Outcome.relocate_ofChange]
      cases env.evaluateAll indices with
      | error fault => rfl
      | ok values =>
          cases env.evaluate expression with
          | error fault => rfl
          | ok value => exact congrArg _ (congrArg _ (env.assignCell_relocate f name values value))
  | declare name dimension =>
      simp only [run, Turn.map, Outcome.relocate_ofChange]
      cases dimension with
      | none => exact congrArg _ (congrArg _ (env.declare_relocate f name 1))
      | some expression =>
          simp only [Environment.evaluate_relocate, bind, Except.bind]
          cases env.evaluate expression with
          | error fault => rfl
          | ok value =>
              dsimp only
              cases value.dimension with
              | error fault => rfl
              | ok dimension =>
                  exact congrArg _ (congrArg _ (env.declare_relocate f name dimension))
  | input prompt name =>
      simp only [run, Environment.evaluate_relocate]
      cases env.evaluate prompt with
      | error fault => rfl
      | ok value =>
          simp only [Turn.map, Outcome.relocate_ofChange, ← Environment.assign_relocate]
  | goto target =>
      simp only [run, Environment.lineTarget_relocate, Turn.map, Outcome.relocate]
      cases env.lineTarget target <;> rfl
  | gosub target =>
      simp only [run, Environment.lineTarget_relocate]
      cases env.lineTarget target with
      | error fault => rfl
      | ok number => exact congrArg _ (env.enterSubroutine_relocate f position number)
  | goBack => exact congrArg _ (env.leaveSubroutine_relocate f)
  | setScope expression =>
      simp only [run, Environment.evaluate_relocate]
      cases env.evaluate expression <;> rfl
  | readClock reading =>
      simp only [run, Turn.map, Outcome.relocate_ofChange, ← Environment.assign_relocate]
  | load path name =>
      simp only [run, Environment.evaluate_relocate]
      cases env.evaluate path with
      | error fault => rfl
      | ok value =>
          simp only [Turn.map]
          congr 1
          funext answer
          cases answer with
          | error reason => rfl
          | ok loaded => simp only [Outcome.relocate_ofChange, ← Environment.assign_relocate]
  | publish name =>
      have fetched : (env.relocate f).fetch name = env.fetch name := rfl
      simp only [run, fetched]
      cases env.fetch name <;> rfl
  | pause seconds =>
      simp only [run, Environment.evaluateNumber_relocate]
      cases env.evaluateNumber seconds "PAUSE" <;> rfl
  | openLoop name start goal step =>
      exact congrArg _ (env.openLoop_relocate f position name start goal step)
  | closeLoop name => exact congrArg _ (env.closeLoop_relocate f name)

end Gosub
