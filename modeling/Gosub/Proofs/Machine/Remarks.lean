import Gosub.Proofs.Machine.Histories
import Gosub.Proofs.Machine.Relocation
import Gosub.Proofs.Program.Remarks

/-! Remarks change nothing. The run of a program with one more remark goes side by side with the run
of the program: its positions are moved past the remark, and where it comes upon the remark it takes
one turn more, in which it asks nothing of the host.
-/

namespace Gosub

-----------------------------------------------------------------------------------------
-- Interpreters side by side
-----------------------------------------------------------------------------------------

/-- The left interpreter executes the program and the right one the extended program, at the top
level and on environments that differ only in that positions are moved past the remark.
-/
structure Interpreter.Parallel (program extended : Program) (place : Nat)
    (left right : Interpreter) (env : Environment)
    : Prop where
  program : left.program = program
  extended : right.program = extended
  topLevel : left.isInner = false
  topLevel' : right.isInner = false
  brief : left.mode = .pro
  brief' : right.mode = .pro
  grounded : left.Grounded env
  grounded' : right.Grounded (env.relocate (Program.shift place))

/-- The tasks are at the same point of their executions. -/
inductive Task.Parallel (program extended : Program) (place : Nat) : Task → Task → Prop
  | executing {left right : Interpreter} {env : Environment}
    (parallel : left.Parallel program extended place right env)
    (moved : right.position = Program.shift place left.position)
    : Parallel program extended place (.executing left .absorb) (.executing right .absorb)
  | reporting {left right : Interpreter} (error : Error) (brief : left.mode = .pro)
    (brief' : right.mode = .pro)
    : Parallel program extended place (.reporting left .absorb error)
        (.reporting right .absorb error)
  | finished (left right : Option Interpreter) (result result' : Except Error Transfer)
    : Parallel program extended place (.finished left result) (.finished right result')

/-- The right task has come upon the remark, and the left one to where the remark would be. -/
inductive Task.AtRemark (program extended : Program) (place : Nat) : Task → Task → Prop
  | executing {left right : Interpreter} {env : Environment}
    (parallel : left.Parallel program extended place right env)
    (position : left.position = place) (position' : right.position = place)
    : AtRemark program extended place (.executing left .absorb) (.executing right .absorb)

/-- The task ends because there is no line of this number. -/
def Task.Misses (number : Nat) : Task → Prop
  | .reporting _ _ error => error.fault = .undefinedLine (toString number)
  | _ => False

instance (number : Nat) (task : Task) : Decidable (task.Misses number) :=
  match task with
  | .reporting _ _ error => inferInstanceAs (Decidable (error.fault = _))
  | .rejected _ | .executing _ _ | .finished _ _ => isFalse id

theorem Task.not_misses_of_finished {task : Task} (finished : task.isFinished = true) {number : Nat}
    : ¬ task.Misses number := by
  cases task with
  | rejected | executing | reporting => cases finished
  | finished => exact id

/-- What two parallel tasks come to in one turn. -/
def Task.Follows (program extended : Program) (number place : Nat) (left right : Task) : Prop :=
  Parallel program extended place left right
  ∨ AtRemark program extended place left right
  ∨ Misses number left

/-- A top-level interpreter resolves a jump against its own program. -/
theorem Interpreter.settle_jump {interpreter : Interpreter} (topLevel : interpreter.isInner = false)
    (line : Line) (changed : Environment) (target : Nat)
    : interpreter.settle line ⟨changed, .ok (.jump target)⟩
      = match interpreter.program.indexOf? target with
        | some position => .running { interpreter.updated changed with position }
        | none =>
          .finished (interpreter.updated changed)
            (.error ⟨.undefinedLine (toString target), some line.number⟩) := by
  have outer (roster : Roster) : { interpreter with roster }.isInner = false := topLevel
  simp only [settle, follow, outer]
  rfl

namespace Interpreter.Parallel

variable {program extended : Program} {number place : Nat} {left right : Interpreter}
  {env : Environment}

/-- The interpreters stay side by side when both of them take over an outcome and move on. -/
theorem updated {changed : Environment} (parallel : left.Parallel program extended place right env)
    (named : changed.name = env.name) (position position' : Nat)
    : { left.updated changed with position }.Parallel program extended place
        { right.updated (changed.relocate (Program.shift place)) with position := position' }
        changed where
  program := parallel.program
  extended := parallel.extended
  topLevel := parallel.topLevel
  topLevel' := parallel.topLevel'
  brief := parallel.brief
  brief' := parallel.brief'
  grounded := parallel.grounded.updated named position
  grounded' := parallel.grounded'.updated (by exact named) position'

/-- Going on behind a position, both interpreters are at the same point again, or come upon the
remark.
-/
theorem follows_behind {changed : Environment}
    (parallel : left.Parallel program extended place right env)
    (named : changed.name = env.name) (number position : Nat)
    : Task.Follows program extended number place
        (.executing { left.updated changed with position := position + 1 } .absorb)
        (.executing
          { right.updated (changed.relocate (Program.shift place)) with
            position := Program.shift place position + 1 } .absorb) := by
  rcases Program.shift_succ place position with moved | ⟨here, there⟩
  · exact .inl (.executing (parallel.updated named _ _) moved)
  · exact .inr (.inl (.executing (parallel.updated named _ _) here there))

/-- An outcome is settled side by side, by cases on its transfer. -/
theorem settle (parallel : left.Parallel program extended place right env)
    (remarked : program.Remarked extended number place)
    (moved : right.position = Program.shift place left.position) (line : Line)
    {outcome : Outcome} (named : outcome.env.name = env.name)
    : Task.Follows program extended number place
        (.ofProgress .absorb (left.settle line outcome))
        (.ofProgress .absorb
          (right.settle line (outcome.relocate (Program.shift place)))) := by
  obtain ⟨changed, transfer⟩ := outcome
  have outer (roster : Roster) : { left with roster }.isInner = false := parallel.topLevel
  have outer' (roster : Roster) : { right with roster }.isInner = false := parallel.topLevel'
  have failed (fault : Fault)
      : Task.Follows program extended number place
          (.reporting (left.updated changed) .absorb ⟨fault, some line.number⟩)
          (.reporting (right.updated (changed.relocate (Program.shift place))) .absorb
            ⟨fault, some line.number⟩) :=
    .inl (.reporting _ parallel.brief parallel.brief')
  cases transfer with
  | error fault => exact failed fault
  | ok transfer =>
      cases transfer with
      | next =>
          have step := parallel.follows_behind named number left.position
          rw [← moved] at step
          exact step
      | halt => exact .inl (.finished _ _ _ _)
      | resume position =>
          simp only [Interpreter.settle, follow, outer, Outcome.relocate, Except.map,
            Transfer.relocate, outer']
          exact parallel.follows_behind named number position
      | jump target =>
          have relocated : Outcome.relocate (Program.shift place) ⟨changed, .ok (.jump target)⟩
              = ⟨changed.relocate (Program.shift place), .ok (.jump target)⟩ := rfl
          rw [relocated, settle_jump parallel.topLevel, settle_jump parallel.topLevel',
            parallel.program, parallel.extended]
          by_cases same : target = number
          · subst same
            rw [remarked.indexOf?_number]
            exact .inr (.inr rfl)
          · rw [remarked.indexOf?_eq same]
            cases program.indexOf? target with
            | none => exact failed (.undefinedLine (toString target))
            | some position => exact .inl (.executing (parallel.updated named _ _) rfl)

/-- Interpreters side by side execute the same command. -/
theorem step (parallel : left.Parallel program extended place right env)
    (remarked : program.Remarked extended number place)
    (moved : right.position = Program.shift place left.position)
    : Turn.Related (Task.Follows program extended number place)
        (left.step.map (.ofProgress .absorb)) (right.step.map (.ofProgress .absorb)) := by
  have same : right.program.line? right.position = left.program.line? left.position := by
    rw [parallel.program, parallel.extended, moved, remarked.line?_shift]
  cases found : left.program.line? left.position with
  | none =>
      rw [found] at same
      simp only [Interpreter.step, found, same]
      exact .done (.inl (.finished _ _ _ _))
  | some line =>
      rw [found] at same
      rw [parallel.grounded.step_eq found, parallel.grounded'.step_eq same,
        topPosition_eq parallel.topLevel, topPosition_eq parallel.topLevel', moved,
        Environment.commandOf_relocate, Command.run_relocate, Turn.map_map, Turn.map_map,
        Turn.map_map]
      refine .of_map fun outcome ran => ?_
      exact parallel.settle remarked moved line (Command.run_effect ran).name_eq

end Interpreter.Parallel

-----------------------------------------------------------------------------------------
-- Tasks side by side
-----------------------------------------------------------------------------------------

namespace Task

variable {program extended : Program} {number place : Nat} {left right : Task}

/-- Parallel tasks take a turn with the same request, and follow each other. -/
theorem Parallel.turn (parallel : left.Parallel program extended place right)
    (remarked : program.Remarked extended number place)
    : Turn.Related (Follows program extended number place) left.turn right.turn := by
  cases parallel with
  | executing parallel moved => exact parallel.step remarked moved
  | @reporting left right error brief brief' =>
      have asked {text : String} (same : text = left.report error) (result : Except Error Transfer)
          : Turn.Related (Follows program extended number place)
              (.ask (.diagnostic (left.report error)) fun _ => .finished (some left) result)
              (.ask (.diagnostic text) fun _ => .finished (some right) result) := by
        subst same
        exact .ask fun _ => .inl (.finished _ _ _ _)
      exact asked (by simp only [Interpreter.report, brief, brief']) _
  | finished left right result result' => exact .done (.inl (.finished left right result result'))

/-- The turn on the remark asks nothing and leads past it. -/
theorem AtRemark.turn (arrived : left.AtRemark program extended place right)
    (remarked : program.Remarked extended number place)
    : ∃ after, right.turn = .done after ∧ left.Parallel program extended place after := by
  obtain ⟨parallel, position, position'⟩ := arrived
  rename_i left right env
  have found : right.program.line? right.position = some (Program.remark number) := by
    rw [parallel.extended, position', remarked.line?_place]
  have read : Statement.ofTokens (Program.remark number).tokens = .command .skip := rfl
  have stepped : right.step
      = .done (.running { right.updated (env.relocate (Program.shift place)) with
          position := right.position + 1 }) := by
    rw [parallel.grounded'.step_eq found, Environment.commandOf_command read]
    rfl
  refine ⟨_, by rw [Task.turn, stepped]; rfl, ?_⟩
  have unchanged : left.updated env = left := by
    rw [Interpreter.updated, Roster.set_self parallel.grounded.found]
  have behind := parallel.updated rfl left.position (right.position + 1)
  rw [unchanged] at behind
  refine .executing behind ?_
  rw [position, position', Program.shift_place]

/-- The runs of both programs start side by side; a remark at the very beginning comes first. -/
theorem start_follows (program extended : Program) (place : Nat) {options : RunOptions}
    (brief : options.mode = .pro) (initial : List (String × Value))
    : (ofProgram program options initial).Parallel program extended place
          (ofProgram extended options initial)
      ∨ (ofProgram program options initial).AtRemark program extended place
          (ofProgram extended options initial) := by
  obtain ⟨roster, store, grounded, starts⟩ := ofProgram_eq options initial
  have parallel
      : Interpreter.Parallel program extended place
          { program, roster, id := 0, mode := options.mode }
          { program := extended, roster, id := 0, mode := options.mode }
          { name := options.name, store } :=
    ⟨rfl, rfl, rfl, rfl, brief, brief, grounded program, grounded extended⟩
  rcases starts with executing | reporting
  · rw [executing, executing]
    by_cases first : place = 0
    · exact .inr (.executing parallel first.symm first.symm)
    · exact .inl (.executing parallel (if_pos (Nat.pos_of_ne_zero first)).symm)
  · rw [reporting, reporting]
    exact .inl (.reporting _ brief brief)

theorem Parallel.isFinished_eq (parallel : left.Parallel program extended place right)
    : right.isFinished = left.isFinished := by
  cases parallel <;> rfl

theorem AtRemark.isFinished_eq (arrived : left.AtRemark program extended place right)
    : right.isFinished = left.isFinished := by
  cases arrived
  rfl

end Task

-----------------------------------------------------------------------------------------
-- Runs side by side
-----------------------------------------------------------------------------------------

namespace World

variable {σ : Type}

section Runs

variable {host : Responder σ} {program extended : Program} {number place : Nat}
  {left right : World σ}

/-- The runs are at the same point, with the same behind them. -/
structure SideBySide (program extended : Program) (place : Nat) (left right : World σ) : Prop where
  same : SameHistory left right
  tasks : left.task.Parallel program extended place right.task

/-- The runs are at the same point, or the right one is still on the remark. -/
structure Close (program extended : Program) (place : Nat) (left right : World σ) : Prop where
  same : SameHistory left right
  tasks
    : left.task.Parallel program extended place right.task
      ∨ left.task.AtRemark program extended place right.task

/-- A turn that does not miss the number of the remark keeps the runs close. -/
theorem SideBySide.advance (sideBySide : SideBySide program extended place left right)
    (remarked : program.Remarked extended number place)
    (found : ¬ (left.advance host).task.Misses number)
    : Close program extended place (left.advance host) (right.advance host) := by
  obtain ⟨same, follows⟩ := sideBySide.same.advance (sideBySide.tasks.turn remarked) host
  rcases follows with parallel | atRemark | missed
  · exact ⟨same, .inl parallel⟩
  · exact ⟨same, .inr atRemark⟩
  · exact absurd missed found

/-- One more turn on the right leads past the remark. -/
theorem Close.catch_up (close : Close program extended place left right)
    (remarked : program.Remarked extended number place) (host : Responder σ)
    : SideBySide program extended place left right
      ∨ SideBySide program extended place left (right.advance host) := by
  rcases close.tasks with parallel | atRemark
  · exact .inl ⟨close.same, parallel⟩
  · obtain ⟨after, done, parallel⟩ := atRemark.turn remarked
    obtain ⟨same, task⟩ := close.same.advance_done done host
    exact .inr ⟨same, by rw [task]; exact parallel⟩

/-- Every point of the run is reached by the extended run, by induction on the turns. -/
theorem Close.forward (close : Close program extended place left right)
    (remarked : program.Remarked extended number place)
    (found : ∀ turns, ¬ (advanceBy host turns left).task.Misses number) (turns : Nat)
    : ∃ turns',
        SideBySide program extended place (advanceBy host turns left)
          (advanceBy host turns' right) := by
  induction turns with
  | zero =>
      rcases close.catch_up remarked host with level | level
      · exact ⟨0, level⟩
      · exact ⟨1, level⟩
  | succ turns ih =>
      obtain ⟨turns', level⟩ := ih
      have missed := found (turns + 1)
      rw [advanceBy_succ] at missed ⊢
      rcases (level.advance remarked missed).catch_up remarked host with level | level
      · refine ⟨turns' + 1, ?_⟩
        rw [advanceBy_succ]
        exact level
      · refine ⟨turns' + 2, ?_⟩
        rw [advanceBy_succ, advanceBy_succ]
        exact level

/-- Every point of the extended run is reached by the run, up to the turn on the remark; by
induction on the turns of the extended run.
-/
theorem Close.backward (close : Close program extended place left right)
    (remarked : program.Remarked extended number place)
    (found : ∀ turns, ¬ (advanceBy host turns left).task.Misses number) (turns' : Nat)
    : ∃ turns,
        Close program extended place (advanceBy host turns left)
          (advanceBy host turns' right) := by
  induction turns' with
  | zero => exact ⟨0, close⟩
  | succ turns' ih =>
      obtain ⟨turns, level⟩ := ih
      rw [advanceBy_succ]
      rcases level.tasks with parallel | atRemark
      · have missed := found (turns + 1)
        refine ⟨turns + 1, ?_⟩
        rw [advanceBy_succ] at missed ⊢
        exact SideBySide.advance ⟨level.same, parallel⟩ remarked missed
      · obtain ⟨after, done, parallel⟩ := atRemark.turn remarked
        obtain ⟨same, task⟩ := level.same.advance_done done host
        exact ⟨turns, same, .inl (by rw [task]; exact parallel)⟩

theorem Close.isFinished_eq (close : Close program extended place left right)
    : right.isFinished = left.isFinished :=
  close.tasks.elim Task.Parallel.isFinished_eq Task.AtRemark.isFinished_eq

end Runs

/-- Adding a remark never changes what a program does. A line with a remark, under a number that no
line of the source has, may be put anywhere in the source: for every host and all initial variables,
the two runs make the same requests in the same order, with the same transcript, at every point of
either of them, and one ends just if the other does. The only condition is that the run does not end
because it looks for the very line that has been added.
-/
theorem run_remarked (host : Responder σ) (state : σ) {source extended text : String}
    {program : Program} {number : Nat} (parsed : Program.parse source = .ok program)
    (bound : number < 2 ^ 32) (unused : ∀ raw ∈ Source.rawLines source, ¬ raw.Denotes number)
    (unbroken : '\n' ∉ text.toList)
    (inserted : Source.Inserted (Source.remark number text) source extended)
    {options : RunOptions} (brief : options.mode = .pro) (initial : List (String × Value))
    (found
      : ∀ turns,
          ¬ (advanceBy host turns
              { task := .start source options initial, host := state }).task.Misses number)
    : let plain : World σ := { task := .start source options initial, host := state }
      let remarked : World σ := { task := .start extended options initial, host := state }
      (∀ turns, ∃ turns',
        SameHistory (advanceBy host turns plain) (advanceBy host turns' remarked)
        ∧ (advanceBy host turns' remarked).isFinished = (advanceBy host turns plain).isFinished)
      ∧ ∀ turns', ∃ turns,
          SameHistory (advanceBy host turns plain) (advanceBy host turns' remarked)
          ∧ (advanceBy host turns' remarked).isFinished
            = (advanceBy host turns plain).isFinished := by
  intro plain remarked
  have free : ∀ line ∈ program.lines, line.number ≠ number := by
    intro line member same
    have table := Program.build_eq_ok_iff.mp parsed
    obtain ⟨raw, inside, denotes⟩ := (table.exists_number_iff number).mp ⟨line, member, same⟩
    exact unused raw inside denotes
  obtain ⟨program', place, parsed', placed⟩ :=
    Program.remarked_of_inserted inserted parsed bound free unbroken
  have close : Close program program' place plain remarked := by
    refine ⟨⟨rfl, rfl, rfl⟩, ?_⟩
    simp only [plain, remarked, Task.start, parsed, parsed']
    exact Task.start_follows program program' place brief initial
  constructor
  · intro turns
    obtain ⟨turns', level⟩ := close.forward placed found turns
    exact ⟨turns', level.same, level.tasks.isFinished_eq⟩
  · intro turns'
    obtain ⟨turns, level⟩ := close.backward placed found turns'
    exact ⟨turns, level.same, level.isFinished_eq⟩

/-- Witness: a remark stands between a jump and the line that it goes to. -/
theorem run_remarked_over_jump
    : let host := Script.host fun _ => none
      let plain : World Script := { task := .start "10 GOTO 20\n20 END" {} [], host := {} }
      let remarked : World Script :=
        { task := .start "10 GOTO 20\n15 REM A \"B\n20 END" {} [], host := {} }
      (∀ turns, ¬ (advanceBy host turns plain).task.Misses 15)
      ∧ ∀ turns, ∃ turns',
          SameHistory (advanceBy host turns plain) (advanceBy host turns' remarked)
          ∧ (advanceBy host turns' remarked).isFinished
            = (advanceBy host turns plain).isFinished := by
  intro host plain remarked
  let program : Program := ⟨#[⟨10, [.keyword .GOTO, .number "20"]⟩, ⟨20, [.keyword .END]⟩]⟩
  have parsed : Program.parse "10 GOTO 20\n20 END" = .ok program := by cbv
  have raw : Source.rawLines "10 GOTO 20\n20 END" = [⟨"10", "GOTO 20"⟩, ⟨"20", "END"⟩] := by
    cbv
  have unused : ∀ raw ∈ Source.rawLines "10 GOTO 20\n20 END", ¬ raw.Denotes 15 := by
    rw [raw]
    decide +kernel
  have started : Task.start "10 GOTO 20\n20 END" {} [] = .ofProgram program {} [] := by
    rw [Task.start, parsed]
  have ended : (advanceBy host 2 plain).isFinished = true := by
    simp only [plain, started]
    decide +kernel
  have found : ∀ turns, ¬ (advanceBy host turns plain).task.Misses 15 := by
    intro turns
    rcases turns with _ | _ | turns
    · simp only [plain, started]
      decide +kernel
    · simp only [plain, started]
      decide +kernel
    · have stays : advanceBy host (2 + turns) plain = advanceBy host 2 plain := by
        rw [advanceBy_add, advanceBy_of_finished ended]
      rw [Nat.add_comm turns 2, stays]
      exact Task.not_misses_of_finished ended
  have inserted : Source.Inserted (Source.remark 15 "A \"B") "10 GOTO 20\n20 END"
      "10 GOTO 20\n15 REM A \"B\n20 END" := by
    have whole : Source.WholeLines "10 GOTO 20\n".toList := .inr (by decide)
    have placed := @Source.Inserted.between (Source.remark 15 "A \"B") _ "20 END" whole
    exact placed
  exact ⟨found,
    (run_remarked host {} parsed (by decide) unused (by decide) inserted rfl [] found).1⟩

end World

end Gosub
