import Gosub.Machine.Script
import Gosub.Proofs.Environment.Memory
import Gosub.Proofs.Machine.Runs
import Gosub.Proofs.Number.Order
import Mathlib.Order.Bounds.Basic
import Mathlib.Order.Nat

/-! The passes of a loop. A `FOR` line fixes the values that its variable takes from pass to pass,
and each `NEXT` that finds the loop as the pass began goes on to the next value, leaves the loop, or
gives it up for a runaway.
-/

namespace Gosub

-----------------------------------------------------------------------------------------
-- Comparing doubles
-----------------------------------------------------------------------------------------

namespace Binary64

open Float.Model

theorem unpack_zero : (0.0 : Float).toModel.unpack = .zero .positive := rfl

/-- A sum with a double that is no number is none, by cases on the other summand. -/
theorem unpack_add_of_notANumber {x y : Float} (none : y.toModel.unpack = .notANumber)
    : (x + y).toModel.unpack = .notANumber := by
  have sum : x + y = .ofModel (pack .notANumber) := by
    change Float.ofModel (pack (UnpackedFloat.add _ _ _)) = _
    rw [none]
    congr 2
    cases x.toModel.unpack <;> rfl
  rw [sum]
  rfl

/-- A step that carries a value past a goal is negative or not, but it is a number, by cases on the
step.
-/
theorem zero_le_of_lt_add {goal value step : Float} (beyond : goal < value + step)
    (notNegative : ¬ step < 0.0)
    : 0.0 ≤ step := by
  rw [lt_iff_compare, unpack_zero] at notNegative
  rw [le_iff_compare, unpack_zero]
  cases unpacked : step.toModel.unpack with
  | notANumber =>
      rw [lt_iff_compare, unpack_add_of_notANumber unpacked] at beyond
      cases held : goal.toModel.unpack <;> rw [held] at beyond <;> cases beyond
  | infinity sign =>
      rw [unpacked] at notNegative
      cases sign with
      | negative => exact absurd rfl notNegative
      | positive => rfl
  | zero sign => rfl
  | finite sign mantissa exponent positive =>
      rw [unpacked] at notNegative
      cases sign with
      | negative => exact absurd rfl notNegative
      | positive => rfl

/-- No double is both negative and not, by cases on the double. -/
theorem not_lt_zero_of_zero_le {x : Float} (notNegative : 0.0 ≤ x) : ¬ x < 0.0 := by
  rw [le_iff_compare, unpack_zero] at notNegative
  rw [lt_iff_compare, unpack_zero]
  cases unpacked : x.toModel.unpack with
  | notANumber | zero => exact fun less => by cases less
  | infinity sign =>
      rw [unpacked] at notNegative
      cases sign with
      | negative => cases notNegative
      | positive => exact fun less => by cases less
  | finite sign mantissa exponent positive =>
      rw [unpacked] at notNegative
      cases sign with
      | negative => cases notNegative
      | positive => exact fun less => by cases less

end Binary64

-----------------------------------------------------------------------------------------
-- What a loop prescribes
-----------------------------------------------------------------------------------------

/-- What a `FOR` line fixes for as long as its loop runs. -/
structure Course where
  /-- The loop variable as it is written in the program. -/
  name : String
  /-- The number of the environment that the loop was opened in. -/
  id : Nat
  /-- The namespace in which the loop was opened. -/
  scope : String
  start : Float
  goal : Float
  step : Float
  /-- The position of the `FOR` line. -/
  anchor : Nat
  /-- The loops around it, the innermost first. -/
  outer : List Loop

namespace Course

variable {course : Course}

/-- The value of the loop variable in a pass; passes are counted from zero. -/
def value (course : Course) : Nat → Float
  | 0 => course.start
  | pass + 1 => course.value pass + course.step

/-- The loop during a pass. -/
def loop (course : Course) (pass : Nat) : Loop where
  name := course.name
  goal := course.goal
  step := course.step
  anchor := course.anchor
  count := pass

/-- A pass after which a further step would go past the goal, in the direction of the step. -/
def Exhausted (course : Course) (pass : Nat) : Prop :=
  (course.step < 0.0 ∧ course.value pass + course.step < course.goal)
  ∨ (0.0 ≤ course.step ∧ course.goal < course.value pass + course.step)

/-- The test that a `NEXT` makes is for such a pass. A step that is no number has no direction, and
it never leads past the goal.
-/
theorem overshoots_iff (course : Course) (pass : Nat)
    : (course.loop pass).overshoots (course.value pass) = true ↔ course.Exhausted pass := by
  simp only [Loop.overshoots, loop, Exhausted]
  by_cases negative : course.step < 0.0
  · have opposite : ¬ 0.0 ≤ course.step :=
      fun notNegative => Binary64.not_lt_zero_of_zero_le notNegative negative
    simp only [negative, opposite, if_true, true_and, false_and, or_false]
    exact decide_eq_true_iff
  · simp only [negative, if_false, false_and, false_or]
    refine decide_eq_true_iff.trans ⟨fun beyond => ⟨?_, beyond⟩, And.right⟩
    exact Binary64.zero_le_of_lt_add beyond negative

/-- The passes that take place: those before which no pass was the last one or one too many. -/
def TakesPlace (course : Course) (pass : Nat) : Prop :=
  ∀ earlier < pass, ¬ course.Exhausted earlier ∧ earlier + 1 ≤ maxIterations

theorem takesPlace_succ {pass : Nat}
    : course.TakesPlace (pass + 1)
      ↔ course.TakesPlace pass ∧ ¬ course.Exhausted pass ∧ pass + 1 ≤ maxIterations := by
  constructor
  · intro takesPlace
    exact ⟨fun earlier before => takesPlace earlier (by omega), takesPlace pass (by omega)⟩
  · rintro ⟨takesPlace, here⟩ earlier before
    rcases Nat.lt_succ_iff_lt_or_eq.mp before with before | rfl
    · exact takesPlace earlier before
    · exact here

/-- Up to the limit, the passes go on to the first exhausted one. -/
theorem takesPlace_iff_of_least {last : Nat} (least : IsLeast {pass | course.Exhausted pass} last)
    (within : last + 1 ≤ maxIterations) (pass : Nat)
    : course.TakesPlace pass ↔ pass ≤ last := by
  constructor
  · intro takesPlace
    by_contra after
    exact (takesPlace last (by omega)).1 least.1
  · intro upTo earlier before
    refine ⟨fun exhausted => ?_, by omega⟩
    have := least.2 exhausted
    omega

/-- Where no pass is exhausted up to the limit, the passes go on to one more than the limit. -/
theorem takesPlace_iff_of_runaway
    (endless : ∀ last, IsLeast {pass | course.Exhausted pass} last → maxIterations < last + 1)
    (pass : Nat)
    : course.TakesPlace pass ↔ pass ≤ maxIterations := by
  constructor
  · intro takesPlace
    by_contra after
    have := (takesPlace maxIterations (by omega)).2
    omega
  · intro upTo earlier before
    refine ⟨fun exhausted => ?_, by omega⟩
    -- The first exhausted pass is not after this one, and so within the limit.
    classical
    have found : ∃ pass, course.Exhausted pass := ⟨earlier, exhausted⟩
    have beyond := endless _ (Nat.isLeast_find found)
    have first := Nat.find_min' found exhausted
    omega

end Course

-----------------------------------------------------------------------------------------
-- Opening the loop and one iteration of it
-----------------------------------------------------------------------------------------

/-- What a `FOR` prescribes: a start value that is typed as a number, and bounds that are numbers
once the start value has been assigned. The step is one if none is given.
-/
structure Environment.Prescribes (env : Environment) (start goal : List Token)
    (step : Option (List Token)) (value : Value) (seeded : Environment) (course : Course)
    : Prop where
  starts : env.evaluate start = .ok value
  typed : value.typed = .number course.start
  seeds : env.assign course.name value = .ok seeded
  goal : seeded.evaluate goal = .ok (.number course.goal)
  noStep : step = none → course.step = 1.0
  someStep : ∀ tokens, step = some tokens → seeded.evaluate tokens = .ok (.number course.step)

namespace Environment.Prescribes

variable {env seeded : Environment} {start goal : List Token} {step : Option (List Token)}
variable {value : Value} {course : Course}

theorem loopBounds_eq (prescribes : env.Prescribes start goal step value seeded course)
    : seeded.loopBounds goal step = .ok (course.goal, course.step) := by
  cases step with
  | none =>
      simp only [loopBounds, evaluateNumber, prescribes.goal]
      rw [prescribes.noStep rfl]
      rfl
  | some tokens =>
      simp only [loopBounds, evaluateNumber, prescribes.goal, prescribes.someStep tokens rfl]
      rfl

/-- The loop is opened on its first pass, unless there is no room for it. -/
theorem openLoop_eq (prescribes : env.Prescribes start goal step value seeded course)
    : env.openLoop course.anchor course.name start goal step
      = seeded.enterLoop (course.loop 0) := by
  simp only [openLoop, prescribes.starts, bind, Except.bind, prescribes.seeds,
    prescribes.loopBounds_eq]
  rfl

theorem fetch_eq (prescribes : env.Prescribes start goal step value seeded course)
    : seeded.fetch course.name = .ok (.number course.start) := by
  rw [fetch_of_assign prescribes.seeds, prescribes.typed]

end Environment.Prescribes

/-- The environment is as a pass begins: the loop is the innermost one, its variable holds the value
of the pass, and the namespace is the one that the loop was opened in.
-/
structure Environment.InPass (env : Environment) (course : Course) (pass : Nat) : Prop where
  scope : env.scope = course.scope
  holds : env.fetch course.name = .ok (.number (course.value pass))
  loops : env.loops.items = course.loop pass :: course.outer

namespace Environment.InPass

variable {env : Environment} {course : Course} {pass : Nat}

theorem top (inPass : env.InPass course pass) : env.loops.top? = some (course.loop pass) := by
  rw [BoundedStack.top?, inPass.loops, List.head?_cons]

theorem counting_loops (inPass : env.InPass course pass)
    : (env.counting (course.loop pass)).loops.items = course.loop (pass + 1) :: course.outer := by
  simp [counting, BoundedStack.replaceTop, inPass.top, BoundedStack.push, BoundedStack.pop,
    inPass.loops, Loop.counted, Course.loop]

/-- A `NEXT` with no name or with that of the loop variable is one iteration of the loop. -/
theorem run_eq {written : Option String} (inPass : env.InPass course pass)
    (named : written = none ∨ written = some course.name) (position : Nat)
    : (Command.closeLoop written).run position env = .done (env.iterate (course.loop pass)) := by
  rcases named with rfl | rfl
  · simp only [Command.run, closeLoop, inPass.top]
  · simp only [Command.run, closeLoop, inPass.top, Course.loop, if_true]

theorem fetch_counting (inPass : env.InPass course pass)
    : (env.counting (course.loop pass)).fetch (course.loop pass).name
      = .ok (.number (course.value pass)) :=
  inPass.holds

/-- An iteration goes on from the value of the pass, whatever has been counted. -/
theorem loopValue_counting (inPass : env.InPass course pass)
    : (env.counting (course.loop pass)).loopValue (course.loop pass)
      = .ok (course.value pass) := by
  rw [loopValue, inPass.fetch_counting]
  rfl

/-- After an exhausted pass the loop is left and its variable forgotten. -/
theorem iterate_exhausted (inPass : env.InPass course pass) (room : pass + 1 ≤ maxIterations)
    (exhausted : course.Exhausted pass)
    : ∃ left,
        env.iterate (course.loop pass) = .next left
        ∧ left.scope = course.scope
        ∧ left.loops.items = course.outer
        ∧ left.qualify course.name ∉ left.store.values := by
  let counted := env.counting (course.loop pass)
  refine ⟨{ counted with loops := counted.loops.pop }.erase course.name, ?_, inPass.scope, ?_,
    qualify_notMem_erase _ course.name⟩
  · rw [env.iterate_of_room room, advanceLoop, inPass.loopValue_counting]
    simp only [(course.overshoots_iff pass).mpr exhausted, if_true]
    rfl
  · change counted.loops.items.tail = course.outer
    rw [inPass.counting_loops, List.tail_cons]

/-- After any other pass the loop is resumed as the next pass begins. -/
theorem iterate_repeats (inPass : env.InPass course pass) (room : pass + 1 ≤ maxIterations)
    (more : ¬ course.Exhausted pass)
    : ∃ advanced,
        env.iterate (course.loop pass) = ⟨advanced, .ok (.resume course.anchor)⟩
        ∧ advanced.InPass course (pass + 1) := by
  obtain ⟨advanced, done⟩
      : ∃ advanced,
          (env.counting (course.loop pass)).assign (course.loop pass).name
              (.number (course.value pass + (course.loop pass).step))
            = .ok advanced :=
    assign_of_fetch inPass.fetch_counting _
  have stays : (course.loop pass).overshoots (course.value pass) = false := by
    rw [← Bool.not_eq_true, course.overshoots_iff]
    exact more
  refine ⟨advanced, ?_, ?_⟩
  · rw [env.iterate_of_room room, advanceLoop, inPass.loopValue_counting]
    simp only [stays, Bool.false_eq_true, if_false, done]
    rfl
  · have fetched := fetch_of_assign done
    obtain ⟨store, _, rfl⟩ := assign_eq_ok done
    exact ⟨inPass.scope, fetched, inPass.counting_loops⟩

end Environment.InPass

-----------------------------------------------------------------------------------------
-- The turns of a loop
-----------------------------------------------------------------------------------------

namespace World

variable {σ : Type} {host : Responder σ} {world : World σ} {policy : ErrorPolicy}
variable {course : Course} {next pass turns : Nat}

/-- The world is about to open the loop with success, be it inside conditionals. -/
structure Opens (world : World σ) (host : Responder σ) (policy : ErrorPolicy)
    (interpreter : Interpreter) (env : Environment) (course : Course)
    : Prop where
  sees : world.Sees policy interpreter course.id env
  anchor : interpreter.position = course.anchor
  scope : env.scope = course.scope
  outer : env.loops.items = course.outer
  command
    : ∃ line start goal step value seeded,
        interpreter.program.line? interpreter.position = some line
        ∧ interpreter.Performs line course.id env (.openLoop course.name start goal step)
        ∧ env.Prescribes start goal step value seeded course
  succeeds : ∃ after, (world.advance host).task = .executing after policy

/-- The world is at the first line of the body, as the pass begins. -/
def Begins (world : World σ) (policy : ErrorPolicy) (course : Course) (pass : Nat) : Prop :=
  ∃ interpreter env,
    world.Sees policy interpreter course.id env
    ∧ interpreter.position = course.anchor + 1
    ∧ env.InPass course pass

/-- The world has come to a `NEXT` of the loop at the position `next`, be it inside conditionals,
and finds the pass as it began.
-/
def AtNext (world : World σ) (policy : ErrorPolicy) (course : Course) (next pass : Nat) : Prop :=
  ∃ interpreter env line written,
    world.Sees policy interpreter course.id env
    ∧ interpreter.position = next
    ∧ env.InPass course pass
    ∧ interpreter.program.line? next = some line
    ∧ interpreter.Performs line course.id env (.closeLoop written)
    ∧ (written = none ∨ written = some course.name)

/-- The world is at the first line of the body with the loop still open. -/
def Reenters (world : World σ) (policy : ErrorPolicy) (course : Course) : Prop :=
  ∃ interpreter env count,
    world.Sees policy interpreter course.id env
    ∧ interpreter.position = course.anchor + 1
    ∧ env.loops.items = course.loop count :: course.outer

/-- The loop is over: control is past its `NEXT`, only the loops around it are still open, and its
variable is gone.
-/
def Leaves (world : World σ) (policy : ErrorPolicy) (course : Course) (next : Nat) : Prop :=
  ∃ interpreter env,
    world.Sees policy interpreter course.id env
    ∧ interpreter.position = next + 1
    ∧ env.scope = course.scope
    ∧ env.loops.items = course.outer
    ∧ env.qualify course.name ∉ env.store.values

theorem Opens.begins {interpreter : Interpreter} {env : Environment}
    (opens : world.Opens host policy interpreter env course)
    : (world.advance host).Begins policy course 0 := by
  obtain ⟨line, start, goal, step, value, seeded, found, performs, prescribes⟩ := opens.command
  have ran
      : (Command.openLoop course.name start goal step).run interpreter.position env
        = .done (seeded.enterLoop (course.loop 0)) := by
    rw [Command.run, opens.anchor, prescribes.openLoop_eq]
  have fetched := prescribes.fetch_eq
  obtain ⟨store, _, rfl⟩ := Environment.assign_eq_ok prescribes.seeds
  cases room : (env.loops.push (course.loop 0)).check "LOOP STACK OVERFLOW" with
  | error fault =>
      obtain ⟨after, running⟩ := opens.succeeds
      rw [opens.sees.advance_of_run host found performs ran] at running
      have running := (Task.ofProgress_eq_executing running).1
      simp only [Environment.enterLoop, Environment.pushLoop, room] at running
      cases running
  | ok =>
      simp only [Environment.enterLoop, Environment.pushLoop, room] at ran
      have lands := opens.sees.lands_of_run host found performs ran .next
      refine ⟨_, _, lands, ?_, opens.scope, fetched, ?_⟩
      · rw [opens.anchor]
      · rw [← opens.outer]
        rfl

namespace AtNext

theorem runaway (atNext : world.AtNext policy course next pass) (host : Responder σ)
    (spent : maxIterations < pass + 1)
    : ∃ before env ended line,
        world.Sees policy before course.id env
        ∧ before.program.line? next = some line
        ∧ (world.advance host).task
          = .conclude ended policy (.error ⟨.runawayLoop course.name, some line.number⟩) := by
  obtain ⟨interpreter, env, line, written, sees, rfl, inPass, found, performs, named⟩ := atNext
  have ran := inPass.run_eq named interpreter.position
  rw [env.iterate_of_spent spent] at ran
  exact ⟨interpreter, env, _, line, sees, found, sees.advance_of_run host found performs ran⟩

theorem leaves (atNext : world.AtNext policy course next pass) (host : Responder σ)
    (room : pass + 1 ≤ maxIterations) (exhausted : course.Exhausted pass)
    : (world.advance host).Leaves policy course next := by
  obtain ⟨interpreter, env, line, written, sees, rfl, inPass, found, performs, named⟩ := atNext
  obtain ⟨left, iterate, scope, loops, gone⟩ := inPass.iterate_exhausted room exhausted
  have ran := inPass.run_eq named interpreter.position
  rw [iterate] at ran
  exact ⟨_, left, sees.lands_of_run host found performs ran .next, rfl, scope, loops, gone⟩

theorem repeats (atNext : world.AtNext policy course next pass) (host : Responder σ)
    (room : pass + 1 ≤ maxIterations) (more : ¬ course.Exhausted pass)
    : (world.advance host).Begins policy course (pass + 1) := by
  obtain ⟨interpreter, env, line, written, sees, rfl, inPass, found, performs, named⟩ := atNext
  obtain ⟨advanced, iterate, inNext⟩ := inPass.iterate_repeats room more
  have ran := inPass.run_eq named interpreter.position
  rw [iterate] at ran
  have lands := sees.lands_of_run host found performs ran (.resume course.anchor)
  exact ⟨_, advanced, lands, rfl, inNext⟩

end AtNext

/-- The turns after which the body of the loop is entered, with the number of the pass: after its
`FOR`, and after the first `NEXT` that finds a pass as it began and keeps the loop open.
-/
inductive Enters (world : World σ) (host : Responder σ) (policy : ErrorPolicy) (course : Course)
    (next : Nat)
    : Nat → Nat → Prop
  | first : Enters world host policy course next 0 1
  | again {pass turns arrival : Nat} (entered : Enters world host policy course next pass turns)
    (arrives
      : IsLeast
          {later | turns ≤ later ∧ (advanceBy host later world).AtNext policy course next pass}
          arrival)
    (reenters : (advanceBy host (arrival + 1) world).Reenters policy course)
    : Enters world host policy course next (pass + 1) (arrival + 1)

/-- The body of the loop comes to the `NEXT` at the position `next` whenever it is entered, with the
pass as it began. What it does on the way is its own business.
-/
def ReachesNext (world : World σ) (host : Responder σ) (policy : ErrorPolicy) (course : Course)
    (next : Nat)
    : Prop :=
  ∀ pass turns,
    world.Enters host policy course next pass turns
    → ∃ later, turns ≤ later ∧ (advanceBy host later world).AtNext policy course next pass

namespace Enters

/-- A pass is only entered where it takes place, and then as it begins. By induction on the entries:
a `NEXT` that is one too many ends the run, and one that leaves the loop does not keep it open.
-/
theorem begins (opened : (world.advance host).Begins policy course 0)
    (enters : world.Enters host policy course next pass turns)
    : course.TakesPlace pass ∧ (advanceBy host turns world).Begins policy course pass := by
  induction enters with
  | first => exact ⟨fun _ before => absurd before (Nat.not_lt_zero _), opened⟩
  | @again pass turns arrival entered arrives reenters ih =>
      rw [advanceBy_succ] at reenters ⊢
      have atNext := arrives.1.2
      obtain ⟨interpreter, env, count, sees, _, loops⟩ := reenters
      rcases Nat.lt_or_ge maxIterations (pass + 1) with spent | room
      · obtain ⟨_, _, _, _, _, _, failed⟩ := atNext.runaway host spent
        rw [sees.task] at failed
        exact absurd failed.symm Task.conclude_ne_executing
      · by_cases exhausted : course.Exhausted pass
        · obtain ⟨_, left, sees', _, _, outer, _⟩ := atNext.leaves host room exhausted
          rw [sees.env_eq sees', loops] at outer
          exact absurd outer (List.cons_ne_self _ _)
        · exact ⟨Course.takesPlace_succ.mpr ⟨ih.1, exhausted, room⟩,
            atNext.repeats host room exhausted⟩

/-- A pass is entered at most once, by induction on the entries. -/
theorem unique {turns' : Nat} (enters : world.Enters host policy course next pass turns)
    (enters' : world.Enters host policy course next pass turns')
    : turns = turns' := by
  induction enters generalizing turns' with
  | first =>
      cases enters'
      rfl
  | again _ arrives _ ih =>
      cases enters' with
      | again entered' arrives' _ =>
          rw [← ih entered'] at arrives'
          rw [IsLeast.unique arrives arrives']

theorem lt_again {turns' : Nat} (enters : world.Enters host policy course next pass turns)
    (enters' : world.Enters host policy course next (pass + 1) turns')
    : turns < turns' := by
  cases enters' with
  | again entered' arrives' _ =>
      rw [enters.unique entered']
      exact Nat.lt_succ_of_le arrives'.1.1

/-- A body that always comes to the `NEXT` of the loop is entered for every pass that takes place,
by induction on the passes.
-/
theorem exists_of_takesPlace (reaches : world.ReachesNext host policy course next)
    (takesPlace : course.TakesPlace pass)
    : ∃ turns, world.Enters host policy course next pass turns := by
  classical
  induction pass with
  | zero => exact ⟨1, .first⟩
  | succ pass ih =>
      obtain ⟨takesPlace, more, room⟩ := Course.takesPlace_succ.mp takesPlace
      obtain ⟨turns, entered⟩ := ih takesPlace
      have arrives := Nat.isLeast_find (reaches pass turns entered)
      obtain ⟨interpreter, env, sees, position, inPass⟩ := arrives.1.2.repeats host room more
      rw [← advanceBy_succ] at sees
      refine ⟨_, .again entered arrives ?_⟩
      exact ⟨interpreter, env, pass + 1, sees, position, inPass.loops⟩

end Enters

/-- The body of the loop is entered exactly for the passes up to `last`, in their order and each as
it begins; the last one comes to its `NEXT` after `arrival` turns.
-/
structure Passes (world : World σ) (host : Responder σ) (policy : ErrorPolicy) (course : Course)
    (next last : Nat) (entry : Nat → Nat) (arrival : Nat)
    : Prop where
  exactly
    : ∀ pass turns,
        world.Enters host policy course next pass turns ↔ pass ≤ last ∧ turns = entry pass
  ordered : ∀ pass < last, entry pass < entry (pass + 1)
  begins : ∀ pass ≤ last, (advanceBy host (entry pass) world).Begins policy course pass
  arrives
    : IsLeast
        {turns | entry last ≤ turns ∧ (advanceBy host turns world).AtNext policy course next last}
        arrival

/-- Where the passes that take place are those up to `last`, these are entered and no others. -/
theorem Opens.passes {interpreter : Interpreter} {env : Environment} {last : Nat}
    (opens : world.Opens host policy interpreter env course)
    (reaches : world.ReachesNext host policy course next)
    (upTo : ∀ pass, course.TakesPlace pass ↔ pass ≤ last)
    : ∃ entry arrival, world.Passes host policy course next last entry arrival := by
  classical
  have opened := opens.begins
  have entered (pass : Nat) (bound : pass ≤ last)
      : ∃ turns, world.Enters host policy course next pass turns :=
    Enters.exists_of_takesPlace reaches ((upTo pass).mpr bound)
  choose! entry enters using entered
  have arrives := Nat.isLeast_find (reaches last (entry last) (enters last (Nat.le_refl last)))
  refine ⟨entry, _, ?_, ?_, ?_, arrives⟩
  · intro pass turns
    constructor
    · intro entered
      have bound := (upTo pass).mp (entered.begins opened).1
      exact ⟨bound, entered.unique (enters pass bound)⟩
    · rintro ⟨bound, rfl⟩
      exact enters pass bound
  · intro pass before
    exact (enters pass (by omega)).lt_again (enters (pass + 1) before)
  · intro pass bound
    exact ((enters pass bound).begins opened).2

/-- Loops make exactly the passes that their bounds prescribe. A `FOR` has opened the loop with
success, and its body always comes to the `NEXT` with the namespace, the loop variable and the loop
stack as they were when it was entered. Then the body is entered for each pass up to the first
exhausted one, with the value of the pass, and the loop is left after it. Where that pass is beyond
the limit, or where there is none, the body is entered once more than the limit allows, and the
`NEXT` after that fails.
-/
theorem loop_passes {interpreter : Interpreter} {env : Environment}
    (opens : world.Opens host policy interpreter env course)
    (reaches : world.ReachesNext host policy course next)
    : (∀ last,
        IsLeast {pass | course.Exhausted pass} last
        → last + 1 ≤ maxIterations
        → ∃ entry arrival,
            world.Passes host policy course next last entry arrival
            ∧ (advanceBy host (arrival + 1) world).Leaves policy course next)
      ∧ ((∀ last, IsLeast {pass | course.Exhausted pass} last → maxIterations < last + 1)
        → ∃ entry arrival ended line,
            world.Passes host policy course next maxIterations entry arrival
            ∧ interpreter.program.line? next = some line
            ∧ (advanceBy host (arrival + 1) world).task
              = .conclude ended policy (.error ⟨.runawayLoop course.name, some line.number⟩)) := by
  constructor
  · intro last least within
    obtain ⟨entry, arrival, passes⟩ :=
      opens.passes reaches (Course.takesPlace_iff_of_least least within)
    refine ⟨entry, arrival, passes, ?_⟩
    rw [advanceBy_succ]
    exact passes.arrives.1.2.leaves host within least.1
  · intro endless
    obtain ⟨entry, arrival, passes⟩ :=
      opens.passes reaches (Course.takesPlace_iff_of_runaway endless)
    obtain ⟨before, _, ended, line, sees, found, failed⟩ :=
      passes.arrives.1.2.runaway host (Nat.lt_succ_self maxIterations)
    have continues := continues_later opens.sees.task arrival sees.task
    rw [continues.program] at found
    rw [← advanceBy_succ] at failed
    exact ⟨entry, arrival, ended, line, passes, found, failed⟩

/-- A loop that counts down from two to one makes two passes. -/
theorem loop_passes_down_to_one
    : let line : Line :=
        ⟨10, [.keyword .FOR, .name "X", .operator .assign, .number "2", .keyword .TO, .number "1",
          .keyword .STEP, .operator .minus, .number "1"]⟩
      let env : Environment := { name := "main" }
      let interpreter : Interpreter :=
        Interpreter.start ⟨#[line, ⟨20, [.keyword .NEXT]⟩]⟩ {} "main" .pro
      let world : World Script := { task := .executing interpreter .absorb, host := {} }
      let host : Responder Script := Script.host fun _ => none
      let course : Course := ⟨"X", 0, "", 2.0, 1.0, -1.0, 0, []⟩
      world.Opens host .absorb interpreter env course
      ∧ world.ReachesNext host .absorb course 1
      ∧ IsLeast {pass | course.Exhausted pass} 1
      ∧ ∃ entry arrival,
          world.Passes host .absorb course 1 1 entry arrival
          ∧ (advanceBy host (arrival + 1) world).Leaves .absorb course 1 := by
  intro line env interpreter world host course
  have sees : world.Sees .absorb interpreter 0 env := ⟨rfl, rfl, rfl⟩
  have found : interpreter.program.line? interpreter.position = some line := rfl
  have performs
      : interpreter.Performs line 0 env
          (.openLoop "X" [.number "2"] [.number "1"] (some [.operator .minus, .number "1"])) :=
    .directly rfl rfl
  let seeded : Environment :=
    { env with store := { values := (∅ : Std.TreeMap String Value).insert "X" (.number 2.0) } }
  have seeds : env.assign "X" (.number 2.0) = .ok seeded := rfl
  have prescribes
      : env.Prescribes [.number "2"] [.number "1"] (some [.operator .minus, .number "1"])
          (.number 2.0) seeded course := by
    refine ⟨eq_ok_of_toOption ?_, rfl, seeds, eq_ok_of_toOption ?_, ?_, ?_⟩
    · decide +kernel
    · decide +kernel
    · intro none
      cases none
    · intro tokens given
      cases given
      exact eq_ok_of_toOption (by decide +kernel)
  have opens : world.Opens host .absorb interpreter env course := by
    refine ⟨sees, rfl, rfl, rfl, ⟨line, _, _, _, _, seeded, found, performs, prescribes⟩, ?_⟩
    have ran := congrArg Turn.done prescribes.openLoop_eq
    exact ⟨_, (sees.lands_of_run host found performs ran .next).task⟩
  have reaches : world.ReachesNext host .absorb course 1 := by
    intro pass turns entered
    obtain ⟨interpreter', env', sees', position, inPass⟩ := (entered.begins opens.begins).2
    have continues := continues_later sees.task turns sees'.task
    have found' : interpreter'.program.line? 1 = some ⟨20, [.keyword .NEXT]⟩ := by
      rw [continues.program]
      rfl
    have own : interpreter'.id = course.id := continues.id
    have performs'
        : interpreter'.Performs ⟨20, [.keyword .NEXT]⟩ course.id env' (.closeLoop none) := by
      rw [← own] at sees' ⊢
      exact .directly sees'.found rfl
    exact ⟨turns, Nat.le_refl turns, interpreter', env', _, none, sees', position, inPass,
      found', performs', .inl rfl⟩
  have least : IsLeast {pass | course.Exhausted pass} 1 := by
    constructor
    · exact .inl (by decide +kernel)
    · intro pass exhausted
      cases pass with
      | succ pass => omega
      | zero => exact absurd exhausted (by unfold Course.Exhausted; decide +kernel)
  exact ⟨opens, reaches, least, (loop_passes opens reaches).1 1 least (by decide)⟩

end World

end Gosub
