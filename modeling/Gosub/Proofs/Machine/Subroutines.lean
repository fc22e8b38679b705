import Gosub.Machine.Script
import Gosub.Proofs.Machine.Runs

/-! The discipline of subroutines. Only `GOSUB` and `RETURN` touch the call stack, and only at its
top, so an open call stays on the stack until the `RETURN` that finds it on top and goes on after it.
-/

namespace Gosub

/-- A command leaves the call stack alone, unless it is a `GOSUB`, which may push the position it
works for, or a `RETURN`, which may pop the top.
-/
theorem Command.Effect.calls_cases {command : Command} {position : Nat} {env : Environment}
    {outcome : Outcome} (effect : command.Effect position env outcome)
    : outcome.env.calls = env.calls
      ∨ (∃ target, command = .gosub target ∧ outcome.env.calls = env.calls.push position)
      ∨ (command = .goBack ∧ outcome.env.calls = env.calls.pop) := by
  cases effect with
  | failed | idle | uncalled | runaway | stalled | finished => exact .inl rfl
  | called | callOverflow => exact .inr (.inl ⟨_, rfl, rfl⟩)
  | returned => exact .inr (.inr ⟨rfl, rfl⟩)
  | change _ change =>
      obtain ⟨_, _, rfl⟩ := change.frame
      exact .inl rfl
  | seeded seed | opened seed | loopOverflow seed =>
      obtain ⟨_, _, rfl⟩ := Environment.assign_eq_ok seed
      exact .inl rfl
  | repeated _ _ advance =>
      obtain ⟨_, _, rfl⟩ := Environment.assign_eq_ok advance
      exact .inl rfl

/-- What lies at the bottom of the call stack stays there, unless a `RETURN` finds nothing above it.
-/
theorem Command.Effect.suffix_calls {command : Command} {position : Nat} {env : Environment}
    {outcome : Outcome} {stack : List Nat} (effect : command.Effect position env outcome)
    (below : stack <:+ env.calls.items)
    (above : command = .goBack → env.calls.items ≠ stack)
    : stack <:+ outcome.env.calls.items := by
  rcases effect.calls_cases with same | ⟨_, _, pushed⟩ | ⟨isReturn, popped⟩
  · rw [same]
    exact below
  · rw [pushed]
    exact below.trans (List.suffix_cons position env.calls.items)
  · rw [popped]
    change stack <:+ env.calls.items.tail
    cases items : env.calls.items with
    | nil =>
        rw [items] at below
        exact below
    | cons top rest =>
        rw [items] at below above
        exact (List.suffix_cons_iff.mp below).resolve_left fun same => above isReturn same.symm

namespace World

variable {σ : Type} {host : Responder σ} {world : World σ} {policy : ErrorPolicy}

/-- The world is about to execute a `RETURN`, be it inside conditionals, with just these positions
on the call stack, the last call first.
-/
def Returns (world : World σ) (policy : ErrorPolicy) (stack : List Nat) : Prop :=
  ∃ interpreter env line,
    world.Executes policy interpreter env
    ∧ env.calls.items = stack
    ∧ interpreter.program.line? interpreter.position = some line
    ∧ env.commandOf line.tokens = .goBack

namespace Executes

variable {interpreter later : Interpreter} {env env' : Environment} {line : Line}
variable {target : List Token}

/-- A successful `GOSUB` leaves its position on top of the call stack. -/
theorem pushed_of_call (executes : world.Executes policy interpreter env)
    (found : interpreter.program.line? interpreter.position = some line)
    (call : env.commandOf line.tokens = .gosub target)
    (executes' : (world.advance host).Executes policy later env')
    : env'.calls.items = interpreter.position :: env.calls.items := by
  obtain ⟨_, outcome, _, _, found', effect, done, _, rfl, executed⟩ :=
    executes.next executes'.task
  rw [executed.env_eq executes']
  cases Option.some.inj (found.symm.trans found')
  rw [call] at effect
  cases effect with
  | called => rfl
  | failed | callOverflow => cases done
  | idle plain | change plain => cases plain

/-- A call stays on the call stack until a `RETURN` finds it on top, by induction on the turns. -/
theorem suffix_until_return (executes : world.Executes policy interpreter env)
    (found : interpreter.program.line? interpreter.position = some line)
    (call : env.commandOf line.tokens = .gosub target) (turns : Nat)
    (unreturned
      : ∀ earlier < turns,
          ¬ (advanceBy host (earlier + 1) world).Returns policy
              (interpreter.position :: env.calls.items))
    (executes' : (advanceBy host (turns + 1) world).Executes policy later env')
    : interpreter.position :: env.calls.items <:+ env'.calls.items := by
  induction turns generalizing later env' with
  | zero =>
      have pushed := executes.pushed_of_call found call executes'
      exact pushed ▸ List.suffix_rfl
  | succ turns ih =>
      rw [advanceBy_succ] at executes'
      obtain ⟨before, earlier⟩ := executing_of_advance executes'.task
      obtain ⟨middle, executesBefore⟩ := executes.later (turns + 1) earlier
      obtain ⟨line', outcome, _, _, found', effect, _, _, rfl, executed⟩ :=
        executesBefore.next executes'.task
      rw [executed.env_eq executes']
      have below := ih (fun k bound => unreturned k (by omega)) executesBefore
      refine effect.suffix_calls below fun isReturn same => ?_
      apply unreturned turns (by omega)
      exact ⟨before, middle, line', executesBefore, same, found', isReturn⟩

/-- A `GOSUB` to a line of the program goes there, as long as the call stack is not full. -/
theorem lands_of_call {number position : Nat} (executes : world.Executes policy interpreter env)
    (host : Responder σ) (found : interpreter.program.line? interpreter.position = some line)
    (call : env.commandOf line.tokens = .gosub target)
    (denoted : env.lineTarget target = .ok number)
    (listed : interpreter.program.indexOf? number = some position)
    (room : env.calls.size < maxStackSize)
    : (world.advance host).Executes policy
        { interpreter.updated { env with calls := env.calls.push interpreter.position } with
          position }
        { env with calls := env.calls.push interpreter.position } := by
  have fits : ¬ maxStackSize < (env.calls.push interpreter.position).size := Nat.not_lt.mpr room
  have ran
      : (env.commandOf line.tokens).run interpreter.position env
        = .done
            ⟨{ env with calls := env.calls.push interpreter.position }, .ok (.jump number)⟩ := by
    simp only [call, Command.run, denoted, Environment.enterSubroutine, Environment.pushCall,
      BoundedStack.check, if_neg fits, Except.map]
  exact executes.lands_of_run host found ran (.jump listed) rfl

/-- A `RETURN` goes on after the line of the last call. -/
theorem lands_of_return {position : Nat} {stack : List Nat}
    (executes : world.Executes policy interpreter env) (host : Responder σ)
    (found : interpreter.program.line? interpreter.position = some line)
    (isReturn : env.commandOf line.tokens = .goBack)
    (items : env.calls.items = position :: stack)
    : (world.advance host).Executes policy
        { interpreter.updated { env with calls := env.calls.pop } with position := position + 1 }
        { env with calls := env.calls.pop } := by
  have top : env.calls.top? = some position := by
    rw [BoundedStack.top?, items, List.head?_cons]
  have ran
      : (env.commandOf line.tokens).run interpreter.position env
        = .done ⟨{ env with calls := env.calls.pop }, .ok (.resume position)⟩ := by
    simp only [isReturn, Command.run, Environment.leaveSubroutine, top]
  exact executes.lands_of_run host found ran (.resume position) rfl

/-- Whether a world is about to return, and from which calls, is told by its line and its call
stack.
-/
theorem returns_iff (executes : world.Executes policy interpreter env)
    (found : interpreter.program.line? interpreter.position = some line) {stack : List Nat}
    : world.Returns policy stack
      ↔ env.calls.items = stack ∧ env.commandOf line.tokens = .goBack := by
  constructor
  · rintro ⟨interpreter', env', line', executes', items, found', isReturn⟩
    rw [executes.env_eq executes'] at items isReturn
    cases executes.task.symm.trans executes'.task
    cases Option.some.inj (found.symm.trans found')
    exact ⟨items, isReturn⟩
  · rintro ⟨items, isReturn⟩
    exact ⟨interpreter, env, line, executes, items, found, isReturn⟩

end Executes

/-- Returning from a call restores the call stack and goes on after the line of the call. -/
theorem Returns.resumes {position : Nat} {stack : List Nat}
    (returns : world.Returns policy (position :: stack)) (host : Responder σ)
    : ∃ back env,
        (world.advance host).Executes policy back env
        ∧ env.calls.items = stack
        ∧ back.position = position + 1 := by
  obtain ⟨interpreter, env, line, executes, items, found, isReturn⟩ := returns
  refine ⟨_, _, executes.lands_of_return host found isReturn items, ?_, rfl⟩
  simp [BoundedStack.pop, items]

/-- Calls return where they came from. A line that executes a `GOSUB` with success, be it inside
conditionals, leaves its position on top of the call stack. There it stays, above all earlier ones,
until a `RETURN` finds it on top; the first such `RETURN` restores the call stack from before the
call and goes on with the next line, or ends the program after its last line. Stacks are written
with the last call first.
-/
theorem call_returns {interpreter : Interpreter} {env : Environment} {line : Line}
    {target : List Token} (executes : world.Executes policy interpreter env)
    (found : interpreter.program.line? interpreter.position = some line)
    (call : env.commandOf line.tokens = .gosub target) (turns : Nat)
    (unreturned
      : ∀ earlier < turns,
          ¬ (advanceBy host (earlier + 1) world).Returns policy
              (interpreter.position :: env.calls.items))
    : (∀ after env',
        (world.advance host).Executes policy after env'
        → env'.calls.items = interpreter.position :: env.calls.items)
      ∧ (∀ later env',
          (advanceBy host (turns + 1) world).Executes policy later env'
          → interpreter.position :: env.calls.items <:+ env'.calls.items)
      ∧ ((advanceBy host (turns + 1) world).Returns policy
          (interpreter.position :: env.calls.items)
        → ∃ back env',
            (advanceBy host (turns + 2) world).Executes policy back env'
            ∧ env'.calls.items = env.calls.items
            ∧ back.program = interpreter.program
            ∧ back.position = interpreter.position + 1
            ∧ (interpreter.position + 1 = interpreter.program.size
              → (advanceBy host (turns + 3) world).task
                = .finished (some back) (.ok .next))) := by
  refine ⟨fun after env' executes' => executes.pushed_of_call found call executes',
    fun later env' executes' =>
      executes.suffix_until_return found call turns unreturned executes',
    fun returns => ?_⟩
  obtain ⟨back, env', executes', restored, position⟩ := returns.resumes host
  rw [← advanceBy_succ] at executes'
  have program := (continues_later executes.task (turns + 2) executes'.task).program
  refine ⟨back, env', executes', restored, program, position, fun last => ?_⟩
  have past : back.program.line? back.position = none := by
    rw [program, position, last]
    exact Array.getElem?_eq_none (Nat.le_refl _)
  rw [advanceBy_succ]
  exact executes'.advance_past_end past host

/-- A call from inside a conditional on the last line returns and ends the program. Before that, the
subroutine makes a call of its own, which returns to it with the first call still on the stack.
-/
theorem call_returns_from_last_line
    : let line : Line :=
        ⟨40, [.keyword .IF, .number "1", .keyword .THEN, .keyword .GOSUB, .number "10"]⟩
      let program : Program :=
        ⟨#[⟨10, [.keyword .GOSUB, .number "30"]⟩, ⟨20, [.keyword .RETURN]⟩,
          ⟨30, [.keyword .RETURN]⟩, line]⟩
      let env : Environment := { name := "main" }
      let interpreter : Interpreter :=
        { Interpreter.start program {} "main" .pro with position := 3 }
      let world : World Script := { task := .executing interpreter .absorb, host := {} }
      let host : Responder Script := Script.host fun _ => none
      world.Executes .absorb interpreter env
      ∧ env.commandOf line.tokens = .gosub [.number "10"]
      ∧ (∀ earlier < 2, ¬ (advanceBy host (earlier + 1) world).Returns .absorb [3])
      ∧ (advanceBy host 2 world).Returns .absorb [0, 3]
      ∧ (advanceBy host 3 world).Returns .absorb [3]
      ∧ ∃ back env',
          (advanceBy host 4 world).Executes .absorb back env'
          ∧ env'.calls.items = []
          ∧ back.position = 4
          ∧ (advanceBy host 5 world).task = .finished (some back) (.ok .next) := by
  intro line program env interpreter world host
  have executes : world.Executes .absorb interpreter env :=
    ⟨rfl, rfl, rfl, by decide +kernel⟩
  have found : interpreter.program.line? interpreter.position = some line := rfl
  let conditional : Conditional :=
    ⟨[.number "1"], [.keyword .GOSUB, .number "10"], none, by decide, by decide⟩
  have holds : env.holds [.number "1"] = true := by decide +kernel
  have call : env.commandOf line.tokens = .gosub [.number "10"] := by
    have selects : env.Selects line.tokens conditional.body :=
      .inside conditional (if_pos holds) (.here _)
    rw [selects.commandOf_eq]
    exact Environment.commandOf_command rfl
  have outer : env.lineTarget [.number "10"] = .ok 10 :=
    eq_ok_of_toOption (by decide +kernel)
  have called := executes.lands_of_call host found call outer
    (by decide +kernel : program.indexOf? 10 = some 0) (by decide)
  have inner : { env with calls := env.calls.push 3 }.lineTarget [.number "30"] = .ok 30 :=
    eq_ok_of_toOption (by decide +kernel)
  have calledAgain := called.lands_of_call host rfl (Environment.commandOf_command rfl) inner
    (by decide +kernel : program.indexOf? 30 = some 2) (by decide)
  have returned := calledAgain.lands_of_return host rfl (Environment.commandOf_command rfl) rfl
  have returnsInner : (advanceBy host 2 world).Returns .absorb [0, 3] :=
    (calledAgain.returns_iff rfl).mpr ⟨rfl, Environment.commandOf_command rfl⟩
  have returns : (advanceBy host 3 world).Returns .absorb [3] :=
    (returned.returns_iff rfl).mpr ⟨rfl, Environment.commandOf_command rfl⟩
  have unreturned
      : ∀ earlier < 2, ¬ (advanceBy host (earlier + 1) world).Returns .absorb [3] := by
    intro earlier bound early
    have firstTurns : earlier = 0 ∨ earlier = 1 := by omega
    rcases firstTurns with rfl | rfl
    · -- The subroutine is about to make its own call.
      have isReturn := ((called.returns_iff rfl).mp early).2
      rw [Environment.commandOf_command rfl] at isReturn
      cases isReturn
    · -- The inner call is still above the first one.
      have items := ((calledAgain.returns_iff rfl).mp early).1
      cases items
  obtain ⟨back, env', executes', restored, _, position, ends⟩ :=
    (call_returns executes found call 2 unreturned).2.2 returns
  exact ⟨executes, call, unreturned, returnsInner, returns, back, env', executes', restored,
    position, ends rfl⟩

end World

end Gosub
