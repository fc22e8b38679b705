import Gosub.Proofs.Environment.Memory
import Gosub.Proofs.Machine.Runs

/-! The limits of a run. Whatever the program and the host do, positions on the stacks are positions
of lines, stacks, counters and memory stay within their limits, and no stored text looks like a
natural number. Only the statement that ends a run may pass one limit, by one.
-/

namespace Gosub

-----------------------------------------------------------------------------------------
-- Environments within limits
-----------------------------------------------------------------------------------------

/-- How many positions and loops the stacks may hold, and how far the innermost loop may have
counted.
-/
structure Limits where
  calls : Nat := maxStackSize
  loops : Nat := maxStackSize
  topCount : Nat := maxIterations

/-- The limits that a failing statement may leave behind: one stack holds one item too many after it
ran out of memory, or the innermost loop has counted one iteration too many after it ran away.
-/
inductive Limits.After (fault : Fault) : Limits → Prop
  | regular : After fault {}
  | callOverflow (memory : fault.kind = .memory) : After fault { calls := maxStackSize + 1 }
  | loopOverflow (memory : fault.kind = .memory) : After fault { loops := maxStackSize + 1 }
  | runaway (runaway : fault.kind = .runawayLoop) : After fault { topCount := maxIterations + 1 }

namespace Environment

/-- The environment keeps to the limits, and its stacks hold positions below `lines` only. -/
structure Within (env : Environment) (lines : Nat) (limits : Limits) : Prop where
  store : env.store.Sound
  calls : ∀ position ∈ env.calls.items, position < lines
  anchors : ∀ loop ∈ env.loops.items, loop.anchor < lines
  callRoom : env.calls.size ≤ limits.calls
  loopRoom : env.loops.size ≤ limits.loops
  topCount : ∀ loop, env.loops.top? = some loop → loop.count ≤ limits.topCount
  lowerCounts : ∀ loop ∈ env.loops.items.tail, loop.count ≤ maxIterations

namespace Within

variable {env changed : Environment} {lines : Nat} {limits : Limits}

theorem fresh (name : String) (lines : Nat) : ({ name } : Environment).Within lines {} where
  store := .empty
  calls := by simp [BoundedStack.empty]
  anchors := by simp [BoundedStack.empty]
  callRoom := by simp [BoundedStack.empty]
  loopRoom := by simp [BoundedStack.empty]
  topCount := by simp [BoundedStack.empty, BoundedStack.top?]
  lowerCounts := by simp [BoundedStack.empty]

theorem assign {name : String} {value : Value} (within : env.Within lines limits)
    (done : env.assign name value = .ok changed)
    : changed.Within lines limits := by
  obtain ⟨store, stored, rfl⟩ := assign_eq_ok done
  exact { within with store := within.store.assign value.isTyped_typed stored }

theorem change (within : env.Within lines limits) (change : env.Change changed)
    : changed.Within lines limits := by
  cases change with
  | assign done => exact within.assign done
  | assignCell done =>
      obtain ⟨store, stored, rfl⟩ := map_eq_ok done
      exact { within with store := within.store.assignCell (Value.isTyped_typed _) stored }
  | declare done =>
      obtain ⟨store, stored, rfl⟩ := map_eq_ok done
      exact { within with store := within.store.declare stored }
  | rescope scope => exact { within with }

/-- All counters are within the regular limit, by cases on the loop being the innermost one. -/
theorem counts (within : env.Within lines {})
    : ∀ loop ∈ env.loops.items, loop.count ≤ maxIterations := by
  intro loop member
  cases items : env.loops.items with
  | nil => simp [items] at member
  | cons top rest =>
      rw [items] at member
      rcases List.mem_cons.mp member with rfl | lower
      · exact within.topCount loop (by simp [BoundedStack.top?, items])
      · exact within.lowerCounts loop (by simpa [items] using lower)

theorem pushCall {position room : Nat} (within : env.Within lines {}) (bound : position < lines)
    (fits : env.calls.size + 1 ≤ room)
    : { env with calls := env.calls.push position }.Within lines { calls := room } where
  store := within.store
  calls := List.forall_mem_cons.mpr ⟨bound, within.calls⟩
  anchors := within.anchors
  callRoom := fits
  loopRoom := within.loopRoom
  topCount := within.topCount
  lowerCounts := within.lowerCounts

theorem pushLoop {loop : Loop} {room : Nat} (within : env.Within lines {})
    (bound : loop.anchor < lines) (count : loop.count = 0) (fits : env.loops.size + 1 ≤ room)
    : { env with loops := env.loops.push loop }.Within lines { loops := room } where
  store := within.store
  calls := within.calls
  anchors := List.forall_mem_cons.mpr ⟨bound, within.anchors⟩
  callRoom := within.callRoom
  loopRoom := fits
  topCount := by
    intro top isTop
    cases isTop
    rw [count]
    exact Nat.zero_le _
  lowerCounts := within.counts

/-- Counting replaces the innermost loop by itself with one more iteration. -/
theorem counting {loop : Loop} {most : Nat} (within : env.Within lines {})
    (top : env.loops.top? = some loop) (bound : loop.count + 1 ≤ most)
    : (env.counting loop).Within lines { topCount := most } := by
  obtain ⟨rest, items⟩ := List.head?_eq_some_iff.mp top
  have counted : (env.counting loop).loops = env.loops.pop.push loop.counted := by
    simp only [Environment.counting, BoundedStack.replaceTop, top]
  have size : env.loops.size = rest.length + 1 := by
    rw [env.loops.size_eq, items, List.length_cons]
  have inside : loop ∈ env.loops.items := by simp [items]
  refine { within with anchors := ?_, loopRoom := ?_, topCount := ?_, lowerCounts := ?_ }
  · rw [counted]
    intro other member
    rcases List.mem_cons.mp member with rfl | lower
    · exact within.anchors loop inside
    · exact within.anchors other (List.mem_of_mem_tail lower)
  · have room : env.loops.size ≤ maxStackSize := within.loopRoom
    rw [counted]
    change env.loops.size - 1 + 1 ≤ maxStackSize
    omega
  · rw [counted]
    intro other isTop
    cases isTop
    exact bound
  · rw [counted]
    exact within.lowerCounts

/-- Without its innermost loop, an environment is within the regular limits again. -/
theorem popLoop {most : Nat} (within : env.Within lines { topCount := most })
    : { env with loops := env.loops.pop }.Within lines {} := by
  refine { within with anchors := ?_, loopRoom := ?_, topCount := ?_, lowerCounts := ?_ }
  · exact fun loop member => within.anchors loop (List.mem_of_mem_tail member)
  · exact Nat.le_trans (Nat.sub_le _ _) within.loopRoom
  · exact fun loop isTop => within.lowerCounts loop (List.mem_of_head? isTop)
  · exact fun loop member => within.lowerCounts loop (List.mem_of_mem_tail member)

theorem popCall (within : env.Within lines {})
    : { env with calls := env.calls.pop }.Within lines {} := by
  refine { within with calls := ?_, callRoom := ?_ }
  · exact fun position member => within.calls position (List.mem_of_mem_tail member)
  · exact Nat.le_trans (Nat.sub_le _ _) within.callRoom

theorem erase (within : env.Within lines limits) (name : String)
    : (env.erase name).Within lines limits :=
  { within with store := within.store.erase _ }

/-- Seeding keeps an environment within limits and under its name, by induction on the variables. -/
theorem seed (within : env.Within lines {}) (initial : List (String × Value))
    : (env.seed initial).1.Within lines {} ∧ (env.seed initial).1.name = env.name := by
  induction initial generalizing env with
  | nil => exact ⟨within, rfl⟩
  | cons entry rest ih =>
      obtain ⟨name, value⟩ := entry
      rw [Environment.seed]
      cases assigned : env.assign name value with
      | error fault => exact ⟨within, rfl⟩
      | ok changed =>
          obtain ⟨_, _, rfl⟩ := assign_eq_ok assigned
          exact ih (within.assign assigned)

end Within

end Environment

-----------------------------------------------------------------------------------------
-- Commands and runs within limits
-----------------------------------------------------------------------------------------

/-- What is left behind keeps to the limits, up to the one limit that a fault may have passed. -/
def Outcome.Within (outcome : Outcome) (lines : Nat) : Prop :=
  match outcome.transfer with
  | .ok _ => outcome.env.Within lines {}
  | .error fault => ∃ limits, Limits.After fault limits ∧ outcome.env.Within lines limits

/-- A command keeps to the limits, or fails and passes one of them by one. Witness: cases on the
effect; each guard bounds what the effect has added.
-/
theorem Command.Effect.within {command : Command} {position lines : Nat} {env : Environment}
    {outcome : Outcome} (effect : command.Effect position env outcome)
    (within : env.Within lines {}) (bound : position < lines)
    : outcome.Within lines := by
  cases effect with
  | failed fault => exact ⟨{}, .regular, within⟩
  | idle | uncalled => exact within
  | change _ change => exact within.change change
  | called number room => exact within.pushCall bound room
  | callOverflow =>
      exact ⟨_, .callOverflow rfl, within.pushCall bound (Nat.succ_le_succ within.callRoom)⟩
  | returned => exact within.popCall
  | seeded seed fault => exact ⟨{}, .regular, within.assign seed⟩
  | opened seed anchor count room =>
      exact (within.assign seed).pushLoop (anchor ▸ bound) count room
  | loopOverflow seed anchor count =>
      have seeded := within.assign seed
      exact ⟨_, .loopOverflow rfl,
        seeded.pushLoop (anchor ▸ bound) count (Nat.succ_le_succ seeded.loopRoom)⟩
  | runaway top =>
      exact ⟨_, .runaway rfl, within.counting top (Nat.succ_le_succ (within.topCount _ top))⟩
  | stalled top room fault => exact ⟨{}, .regular, within.counting top room⟩
  | finished top room => exact (within.counting top room).popLoop.erase _
  | repeated top room advance => exact (within.counting top room).assign advance

/-- A command returns only to positions that were on a stack. -/
theorem Command.Effect.resume_lt {command : Command} {position lines origin : Nat}
    {env : Environment} {outcome : Outcome} (effect : command.Effect position env outcome)
    (within : env.Within lines {}) (resumes : outcome.transfer = .ok (.resume origin))
    : origin < lines := by
  cases effect with
  | failed | change | called | callOverflow | uncalled | seeded | opened | loopOverflow | runaway
  | stalled | finished => cases resumes
  | idle _ stays => exact (stays origin (Except.ok.inj resumes)).elim
  | returned top =>
      cases resumes
      exact within.calls origin (List.mem_of_head? top)
  | repeated top =>
      cases resumes
      exact within.anchors _ (List.mem_of_head? top)

/-- A search finds positions inside its range only, by induction on the range. -/
theorem Program.lt_of_searchBetween {lines : Array Line} {number low high position : Nat}
    (found : searchBetween lines number low high = some position)
    : position < high := by
  fun_induction searchBetween lines number low high with
  | case1 | case5 => cases found
  | case2 low high within middle =>
      have same : middle = position := Option.some.inj found
      omega
  | case3 low high within middle line _ _ _ ih => exact ih found
  | case4 low high within middle line _ _ _ ih =>
      have bound := ih found
      omega

/-- A transfer lands on a line or one past the last. -/
theorem Interpreter.Lands.le_size {interpreter : Interpreter} {transfer : Transfer} {position : Nat}
    (lands : interpreter.Lands transfer position)
    (onLine : interpreter.position < interpreter.program.size)
    (returns : ∀ origin, transfer = .resume origin → origin < interpreter.program.size)
    : position ≤ interpreter.program.size := by
  cases lands with
  | next => exact onLine
  | jump found => exact Nat.le_of_lt (Program.lt_of_searchBetween found)
  | resume origin => exact returns origin rfl

/-- A task within limits. While it executes, it is a top-level execution of the program on the first
environment entered under its name, at a line or one past the last, and that environment keeps to
the limits. Every failure is reported, and then the environment may have passed the one limit that
the fault tells; so it stays to the end.
-/
def Task.Within (program : Program) : Task → Prop
  | .rejected _ => False
  | .executing interpreter policy =>
      policy = .absorb
      ∧ interpreter.program = program
      ∧ interpreter.position ≤ program.size
      ∧ interpreter.isInner = false
      ∧ ∃ env, interpreter.Grounded env ∧ env.Within program.size {}
  | .reporting interpreter policy error =>
      policy = .absorb
      ∧ ∃ env limits,
          interpreter.env? = some env
          ∧ Limits.After error.fault limits
          ∧ env.Within program.size limits
  | .finished ended _ =>
      ∃ interpreter env limits,
        ended = some interpreter
        ∧ interpreter.env? = some env
        ∧ (limits = {} ∨ ∃ fault, Limits.After fault limits)
        ∧ env.Within program.size limits

namespace Task

variable {program : Program}

/-- An execution that ends within the regular limits. -/
theorem Within.ended {interpreter : Interpreter} {env : Environment}
    (found : interpreter.env? = some env) (within : env.Within program.size {})
    (result : Except Error Transfer)
    : (Task.finished (some interpreter) result).Within program :=
  ⟨interpreter, env, {}, rfl, found, .inl rfl, within⟩

/-- One turn keeps a task within limits, whatever the host answers. Witness: the effect of the
command of the line, and where its transfer lands.
-/
theorem Within.turn {task after : Task} (within : task.Within program)
    (yields : task.turn.Yields after)
    : after.Within program := by
  cases task with
  | rejected error => exact within.elim
  | finished interpreter result =>
      cases yields
      exact within
  | reporting interpreter policy error =>
      obtain ⟨_, env, limits, found, allowed, bounded⟩ := within
      cases yields
      exact ⟨interpreter, env, limits, rfl, found, .inr ⟨error.fault, allowed⟩, bounded⟩
  | executing interpreter policy =>
      obtain ⟨rfl, rfl, _, topLevel, env, grounded, bounded⟩ := within
      obtain ⟨progress, stepped, rfl⟩ := yields.of_map
      cases found : interpreter.program.line? interpreter.position with
      | none =>
          rw [Interpreter.step, found] at stepped
          cases stepped
          exact .ended grounded.found bounded _
      | some line =>
          have onLine : interpreter.position < interpreter.program.size :=
            (Array.getElem?_eq_some_iff.mp found).1
          obtain ⟨outcome, effect, settles⟩ := grounded.step_effect topLevel found stepped
          have bounded' := effect.within bounded onLine
          have found' : (interpreter.updated outcome.env).env? = some outcome.env :=
            Roster.get?_set_self grounded.found outcome.env
          unfold Outcome.Within at bounded'
          cases settles with
          | @running transfer position done lands =>
              rw [done] at bounded'
              have landed := lands.le_size onLine fun origin same =>
                effect.resume_lt bounded (same ▸ done)
              exact ⟨rfl, rfl, landed, topLevel, outcome.env,
                grounded.updated effect.name_eq position, bounded'⟩
          | halted done =>
              rw [done] at bounded'
              exact .ended found' bounded' _
          | failed fails =>
              rw [fails] at bounded'
              obtain ⟨limits, allowed, bounded'⟩ := bounded'
              exact ⟨rfl, outcome.env, limits, found', allowed, bounded'⟩
          | lost done =>
              rw [done] at bounded'
              exact ⟨rfl, outcome.env, {}, found', .regular, bounded'⟩

/-- A run starts within limits, or fails for want of room for its initial variables. -/
theorem Within.ofProgram (program : Program) (options : RunOptions)
    (initial : List (String × Value))
    : (Task.ofProgram program options initial).Within program := by
  let start := Interpreter.start program {} options.name options.mode
  let seeded := Environment.seed { name := options.name } initial
  have grounded : start.Grounded { name := options.name } := by
    constructor
    · rfl
    · simp [start, Interpreter.start, Roster.lookup?, Roster.enter, Roster.size]
  obtain ⟨within, named⟩ := (Environment.Within.fresh options.name program.size).seed initial
  unfold Task.ofProgram
  dsimp only
  split
  · exact ⟨rfl, rfl, Nat.zero_le _, rfl, seeded.1, grounded.change named rfl rfl, within⟩
  · exact ⟨rfl, seeded.1, {}, Roster.get?_set_self grounded.found seeded.1, .regular, within⟩

end Task

/-- Every run keeps to its limits. In every state that a run of a program on a fresh environment
reaches, for every host and all initial variables, the task is within limits, by induction on the
turns.
-/
theorem World.run_within {σ : Type} (host : Responder σ) (state : σ) (program : Program)
    (options : RunOptions) (initial : List (String × Value)) (turns : Nat)
    : (advanceBy host turns
        { task := .ofProgram program options initial, host := state }).task.Within program := by
  induction turns with
  | zero => exact .ofProgram program options initial
  | succ turns ih =>
      rw [advanceBy_succ]
      exact ih.turn (advance_yields host _)

end Gosub
