import Gosub.Machine.Script
import Gosub.Proofs.Machine.Limits
import Gosub.Proofs.Machine.Subroutines
import Gosub.Proofs.Statement.Tokens

/-! Loops alone cannot hang. A program without `GOTO` and `GOSUB` goes back only where a `NEXT`
repeats its loop, and every repetition is counted. So each line takes away from the effort that is
left: the lines still ahead, and the iterations still open to each running loop.
-/

namespace Gosub

-----------------------------------------------------------------------------------------
-- Programs without jumps
-----------------------------------------------------------------------------------------

/-- No line of the program holds the word `GOTO` or the word `GOSUB`. -/
def Program.JumpFree (program : Program) : Prop :=
  ∀ line ∈ program.lines, .keyword .GOTO ∉ line.tokens ∧ .keyword .GOSUB ∉ line.tokens

instance (program : Program) : Decidable program.JumpFree :=
  inferInstanceAs (Decidable (∀ line ∈ program.lines, _ ∧ _))

/-- The word that a jump is written with. -/
def Command.jumpWord? : Command → Option Keyword
  | .goto _ => some .GOTO
  | .gosub _ => some .GOSUB
  | _ => none

theorem Command.eq_of_jumpWord? {command : Command} {word : Keyword}
    (jumps : command.jumpWord? = some word)
    : word = .GOTO ∨ word = .GOSUB := by
  cases command with
  | goto target => exact .inl (Option.some.inj jumps).symm
  | gosub target => exact .inr (Option.some.inj jumps).symm
  | _ => cases jumps

namespace Command

/-- No argument makes a jump of a command: the makers of the other commands make none. -/
theorem jumpWord?_ofCell (name : String) (arguments : List Token)
    : (ofCell name arguments).jumpWord? = none := by
  unfold ofCell
  split
  · rfl
  · split <;> rfl

theorem jumpWord?_ofKeyword {keyword word : Keyword} {arguments : List Token}
    (jumps : (ofKeyword keyword arguments).jumpWord? = some word)
    : keyword = word := by
  cases keyword with
  | GOTO | GOSUB =>
      cases jumps
      rfl
  | LET =>
      simp only [ofKeyword, ofLet] at jumps
      split at jumps
      · cases jumps
      · rw [jumpWord?_ofCell] at jumps
        cases jumps
      · cases jumps
  | ARRAY =>
      simp only [ofKeyword, ofArray] at jumps
      split at jumps
      · split at jumps <;> cases jumps
      · cases jumps
  | INPUT =>
      simp only [ofKeyword, ofInput] at jumps
      split at jumps <;> cases jumps
  | LOAD =>
      simp only [ofKeyword, ofLoad] at jumps
      split at jumps
      · split at jumps <;> cases jumps
      · cases jumps
  | IMPORT =>
      simp only [ofKeyword, ofImport] at jumps
      split at jumps
      · cases jumps
      · split at jumps <;> cases jumps
  | EXPORT =>
      simp only [ofKeyword, ofExport] at jumps
      split at jumps <;> cases jumps
  | FOR =>
      simp only [ofKeyword, ofFor] at jumps
      split at jumps
      · split at jumps
        · cases jumps
        · split at jumps
          · cases jumps
          · split at jumps <;> cases jumps
      · cases jumps
  | NEXT =>
      simp only [ofKeyword, ofNext] at jumps
      split at jumps <;> cases jumps
  | _ => cases jumps

/-- A jump is written with its word, which opens the command. -/
theorem jumpWord?_ofTokens {tokens : List Token} {word : Keyword}
    (jumps : (ofTokens tokens).jumpWord? = some word)
    : .keyword word ∈ tokens := by
  unfold ofTokens at jumps
  split at jumps
  · cases jumps
  · rw [jumpWord?_ofKeyword jumps]
    exact List.mem_cons_self
  · rw [jumpWord?_ofCell] at jumps
    cases jumps
  · split at jumps <;> cases jumps
  · cases jumps

end Command

/-- A line comes down to a jump only if it holds the word of the jump, by induction along the chosen
bodies.
-/
theorem Environment.jumpWord?_commandOf {env : Environment} {tokens : List Token} {word : Keyword}
    (jumps : (env.commandOf tokens).jumpWord? = some word)
    : .keyword word ∈ tokens := by
  fun_induction commandOf env tokens with
  | case1 tokens command read =>
      unfold Statement.ofTokens at read
      split at read
      · split at read
        · cases read
          cases jumps
        · split at read <;> cases read
      · cases read
        exact Command.jumpWord?_ofTokens jumps
  | case2 => cases jumps
  | case3 tokens condition body otherwise read chosen choice _ ih =>
      exact Environment.subset_of_choose read choice (ih jumps)

theorem Environment.jumpWord?_eq_none {tokens : List Token}
    (free : .keyword .GOTO ∉ tokens ∧ .keyword .GOSUB ∉ tokens) (env : Environment)
    : (env.commandOf tokens).jumpWord? = none := by
  cases word : (env.commandOf tokens).jumpWord? with
  | none => rfl
  | some jump =>
      have member := jumpWord?_commandOf word
      rcases Command.eq_of_jumpWord? word with rfl | rfl
      · exact absurd member free.1
      · exact absurd member free.2

theorem Outcome.ofChange_ne_jump (env : Environment) (change : Except Fault Environment)
    (number : Nat)
    : (ofChange env change).transfer ≠ .ok (.jump number) := by
  cases change <;> exact fun jumps => by cases jumps

/-- A command leads to a jump only if it is one, whatever the host answers. -/
theorem Command.jumpWord?_ne_none {command : Command} {position number : Nat}
    {env : Environment} {outcome : Outcome} (ran : (command.run position env).Yields outcome)
    (jumps : outcome.transfer = .ok (.jump number))
    : command.jumpWord? ≠ none := by
  cases command with
  | goto | gosub => exact Option.some_ne_none _
  | openLoop | closeLoop | goBack =>
      cases run_effect ran with
      | idle plain | change plain => cases plain
      | _ => cases jumps
  | halt | skip | refuse =>
      cases ran
      cases jumps
  | assign | assignCell | declare | setScope | readClock =>
      cases ran
      exact absurd jumps (Outcome.ofChange_ne_jump _ _ _)
  | print | publish | pause =>
      simp only [run] at ran
      split at ran <;> cases ran <;> cases jumps
  | input =>
      simp only [run] at ran
      split at ran
      · cases ran
        cases jumps
      · cases ran
        exact absurd jumps (Outcome.ofChange_ne_jump _ _ _)
  | load =>
      simp only [run] at ran
      split at ran
      · cases ran
        cases jumps
      · cases ran
        dsimp only at jumps
        split at jumps
        · exact absurd jumps (Outcome.ofChange_ne_jump _ _ _)
        · cases jumps

-----------------------------------------------------------------------------------------
-- The effort that is left
-----------------------------------------------------------------------------------------

namespace Loop

/-- The iterations that the loop may still count, and one for leaving it. -/
def remaining (loop : Loop) : Nat :=
  maxIterations + 1 - loop.count

end Loop

/-- What a line weighs against the line after it: more than all that a loop opened there can ask
for.
-/
def lineWeight : Nat :=
  maxIterations + 3

/-- The effort of the lines from a position to the end of a program of `lines` lines. -/
def linesEffort (lines position : Nat) : Nat :=
  Nat.pow lineWeight (lines - position)

/-- The effort of the iterations left to the running loops, each as heavy as the lines after the one
that opened the loop.
-/
def loopsEffort (lines : Nat) : List Loop → Nat
  | [] => 0
  | loop :: outer => loop.remaining * linesEffort lines (loop.anchor + 1) + loopsEffort lines outer

/-- The effort that is left at a position with the given loops running. -/
def effort (lines position : Nat) (loops : List Loop) : Nat :=
  linesEffort lines position + loopsEffort lines loops

theorem linesEffort_pos (lines position : Nat) : 0 < linesEffort lines position :=
  Nat.pow_pos (Nat.succ_pos _)

theorem linesEffort_of_lt {lines position : Nat} (onLine : position < lines)
    : linesEffort lines position = lineWeight * linesEffort lines (position + 1) := by
  have ahead : lines - position = lines - (position + 1) + 1 := by omega
  rw [linesEffort, ahead, Nat.pow_eq, Nat.pow_succ, Nat.mul_comm]
  rfl

theorem effort_cons (lines position : Nat) (loop : Loop) (loops : List Loop)
    : effort lines position (loop :: loops)
      = loop.remaining * linesEffort lines (loop.anchor + 1) + effort lines position loops := by
  unfold effort
  rw [loopsEffort]
  omega

/-- Going on to the next line takes the weight of the line away. -/
theorem effort_next_lt {lines position : Nat} (onLine : position < lines) (loops : List Loop)
    : effort lines (position + 1) loops < effort lines position loops := by
  have positive := linesEffort_pos lines (position + 1)
  have weight : 2 * linesEffort lines (position + 1) ≤ linesEffort lines position := by
    rw [linesEffort_of_lt onLine]
    exact Nat.mul_le_mul_right _ (by decide)
  unfold effort
  omega

/-- Opening a loop takes the weight of its line away, which is more than the loop asks for. -/
theorem effort_open_lt {lines position : Nat} {loop : Loop} (onLine : position < lines)
    (anchor : loop.anchor = position) (loops : List Loop)
    : effort lines (position + 1) (loop :: loops) < effort lines position loops := by
  have positive := linesEffort_pos lines (position + 1)
  have remaining : loop.remaining * linesEffort lines (position + 1)
      ≤ (maxIterations + 1) * linesEffort lines (position + 1) :=
    Nat.mul_le_mul_right _ (Nat.sub_le _ _)
  have weight
      : linesEffort lines position
        = (maxIterations + 1) * linesEffort lines (position + 1)
          + 2 * linesEffort lines (position + 1) := by
    rw [linesEffort_of_lt onLine, ← Nat.add_mul]
    rfl
  rw [effort_cons, anchor]
  unfold effort
  omega

/-- Repeating a loop gives back the lines of its body for one of its iterations. -/
theorem effort_repeat_lt {lines : Nat} {loop : Loop} (room : loop.count + 1 ≤ maxIterations)
    (position : Nat) (loops : List Loop)
    : effort lines (loop.anchor + 1) (loop.counted :: loops)
      < effort lines position (loop :: loops) := by
  have positive := linesEffort_pos lines position
  have spent : loop.remaining = loop.counted.remaining + 1 := by
    simp only [Loop.remaining, Loop.counted]
    omega
  rw [effort_cons, effort_cons, spent, Nat.add_mul]
  unfold effort
  change _ * linesEffort lines (loop.anchor + 1) + _ < _
  omega

/-- A command that is no jump takes effort away wherever it lands, as long as no subroutine is open.
By cases on the effect: to the next line, into a loop, out of a loop, or back to the line after the
one that opened the innermost loop.
-/
theorem Command.Effect.effort_lt {command : Command} {interpreter : Interpreter}
    {env : Environment} {outcome : Outcome} {transfer : Transfer} {landed lines : Nat}
    (effect : command.Effect interpreter.position env outcome)
    (done : outcome.transfer = .ok transfer) (lands : interpreter.Lands transfer landed)
    (jumpFree : ∀ number, transfer ≠ .jump number) (uncalled : env.calls.items = [])
    (onLine : interpreter.position < lines)
    : effort lines landed outcome.env.loops.items
      < effort lines interpreter.position env.loops.items := by
  cases effect with
  | failed | callOverflow | seeded | loopOverflow | runaway | stalled => cases done
  | called number => exact absurd (Except.ok.inj done).symm (jumpFree number)
  | returned top =>
      rw [BoundedStack.top?, uncalled] at top
      cases top
  | idle _ stays =>
      cases done
      cases lands with
      | next => exact effort_next_lt onLine _
      | jump => exact absurd rfl (jumpFree _)
      | resume origin => exact absurd rfl (stays origin)
  | change _ change =>
      obtain ⟨store, scope, rfl⟩ := change.frame
      cases done
      cases lands
      exact effort_next_lt onLine _
  | uncalled =>
      cases done
      cases lands
      exact effort_next_lt onLine _
  | opened seed anchor =>
      obtain ⟨store, _, rfl⟩ := Environment.assign_eq_ok seed
      cases done
      cases lands
      exact effort_open_lt onLine anchor _
  | finished top room =>
      obtain ⟨outer, items, counted⟩ := Environment.counting_items top
      cases done
      cases lands
      change effort _ _ (env.counting _).loops.items.tail < _
      rw [counted, items, effort_cons]
      exact Nat.lt_of_lt_of_le (effort_next_lt onLine _) (Nat.le_add_left _ _)
  | repeated top room advance =>
      obtain ⟨outer, items, counted⟩ := Environment.counting_items top
      obtain ⟨store, _, rfl⟩ := Environment.assign_eq_ok advance
      cases done
      cases lands
      change effort _ _ (env.counting _).loops.items < _
      rw [counted, items]
      exact effort_repeat_lt room _ _

/-- Without a `GOSUB` no subroutine is opened. -/
theorem Command.Effect.calls_nil {command : Command} {position : Nat} {env : Environment}
    {outcome : Outcome} (effect : command.Effect position env outcome)
    (noCall : command.jumpWord? = none) (uncalled : env.calls.items = [])
    : outcome.env.calls.items = [] := by
  rcases effect.calls_cases with same | ⟨target, isCall, _⟩ | ⟨_, popped⟩
  · rw [same, uncalled]
  · rw [isCall] at noCall
    cases noCall
  · rw [popped]
    change env.calls.items.tail = []
    rw [uncalled, List.tail_nil]

-----------------------------------------------------------------------------------------
-- Runs that end
-----------------------------------------------------------------------------------------

namespace World

variable {σ : Type} {host : Responder σ} {world : World σ}

/-- The run comes to its end after some turns: past its last line, or halted, be it by the program
itself or after the report of an error.
-/
def Ends (host : Responder σ) (world : World σ) : Prop :=
  ∃ turns ended transfer,
    (advanceBy host turns world).task = .finished (some ended) (.ok transfer)
    ∧ (transfer = .next ∨ transfer = .halt)

theorem Ends.of_advance (ends : Ends host (world.advance host)) : Ends host world := by
  obtain ⟨turns, ended, transfer, finished, how⟩ := ends
  exact ⟨turns + 1, ended, transfer, finished, how⟩

theorem Ends.of_finished {interpreter : Interpreter} {transfer : Transfer}
    (finished : world.task = .finished (some interpreter) (.ok transfer))
    (how : transfer = .next ∨ transfer = .halt)
    : Ends host world :=
  ⟨0, interpreter, transfer, finished, how⟩

theorem Ends.of_reporting {interpreter : Interpreter} {error : Error}
    (reporting : world.task = .reporting interpreter .absorb error)
    : Ends host world := by
  apply Ends.of_advance
  have reported : (world.advance host).task = .finished (some interpreter) (.ok .halt) := by
    simp only [advance, reporting, Task.turn]
    rfl
  exact .of_finished reported (.inr rfl)

namespace Executes

variable {interpreter : Interpreter} {env : Environment}

/-- A run without jumps and open subroutines comes to its end, by induction on the effort left. -/
theorem ends (executes : world.Executes .absorb interpreter env)
    (jumpFree : interpreter.program.JumpFree) (uncalled : env.calls.items = [])
    : Ends host world := by
  generalize left : effort interpreter.program.size interpreter.position env.loops.items = amount
  induction amount using Nat.strongRecOn generalizing world interpreter env with
  | ind amount ih =>
      apply Ends.of_advance
      have yields := advance_yields host world
      rw [executes.task] at yields
      obtain ⟨progress, stepped, after⟩ := yields.of_map
      cases found : interpreter.program.line? interpreter.position with
      | none => exact .of_finished (executes.advance_past_end found host) (.inl rfl)
      | some line =>
          obtain ⟨onLine, located⟩ := Array.getElem?_eq_some_iff.mp found
          have free := jumpFree line (located ▸ Array.getElem_mem onLine)
          obtain ⟨outcome, ran, settles⟩ :=
            executes.grounded.step_run executes.topLevel found stepped
          have effect := Command.run_effect ran
          have noJump := env.jumpWord?_eq_none free
          cases settles with
          | halted => exact .of_finished after (.inr rfl)
          | failed | lost => exact .of_reporting after
          | @running transfer landed done lands =>
              have straight : ∀ number, transfer ≠ .jump number := by
                rintro number rfl
                exact Command.jumpWord?_ne_none ran done noJump
              have less := effect.effort_lt done lands straight uncalled onLine
              have executes' : (world.advance host).Executes .absorb _ outcome.env :=
                ⟨after, executes.topLevel, executes.grounded.updated effect.name_eq landed⟩
              exact ih _ (left ▸ less) executes' jumpFree (effect.calls_nil noJump uncalled) rfl

end Executes

/-- Loops alone cannot hang. The run of a program without the words `GOTO` and `GOSUB` comes to its
end for every host and all initial variables, whatever loops, conditionals and returns it is made
of.
-/
theorem run_ends (host : Responder σ) (state : σ) {program : Program} (jumpFree : program.JumpFree)
    (options : RunOptions) (initial : List (String × Value))
    : Ends host { task := .ofProgram program options initial, host := state }
      ∧ ∀ source,
          Program.parse source = .ok program
          → Ends host { task := .start source options initial, host := state } := by
  have ends : Ends host { task := .ofProgram program options initial, host := state } := by
    obtain ⟨interpreter, store, onProgram, topLevel, grounded, starts⟩ :=
      Task.ofProgram_starts program options initial
    rcases starts with executing | ⟨fault, reporting⟩
    · have executes
          : World.Executes { task := .ofProgram program options initial, host := state } .absorb
              interpreter { name := options.name, store } :=
        ⟨executing, topLevel, grounded⟩
      exact executes.ends (onProgram ▸ jumpFree) rfl
    · exact .of_reporting reporting
  refine ⟨ends, fun source parsed => ?_⟩
  have same : Task.start source options initial = .ofProgram program options initial := by
    simp only [Task.start, parsed]
  rw [same]
  exact ends

/-- A loop that never comes nearer to its goal, closed inside a conditional, still ends. -/
theorem run_ends_with_idle_step
    : let program : Program :=
        ⟨#[
          ⟨10, [.keyword .FOR, .name "I", .operator .assign, .number "1", .keyword .TO,
            .number "2", .keyword .STEP, .number "0"]⟩,
          ⟨20, [.keyword .IF, .name "I", .keyword .THEN, .keyword .NEXT, .name "I"]⟩]⟩
      program.JumpFree
      ∧ Ends (Script.host fun _ => none) { task := .ofProgram program {} [], host := {} } := by
  intro program
  have jumpFree : program.JumpFree := by decide
  exact ⟨jumpFree, (run_ends _ _ jumpFree {} []).1⟩

end World

end Gosub
