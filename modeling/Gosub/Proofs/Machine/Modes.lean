import Gosub.Proofs.Machine.Histories

/-! Modes differ in the final report. The mode is handed to every inner interpreter, and yet all
that reads it is the report of an error, which is the last act of a run. The runs of a source in all
modes therefore go through the same turns, side by side with the bare execution, which hands its
errors back and reports none.
-/

namespace Gosub

/-- Whether a request is the report of an error. -/
def Request.isDiagnostic : Request → Bool
  | .diagnostic _ => true
  | _ => false

-----------------------------------------------------------------------------------------
-- Interpreters in another mode
-----------------------------------------------------------------------------------------

/-- The same interpreter in another mode. -/
def Interpreter.inMode (interpreter : Interpreter) (mode : ReportMode) : Interpreter :=
  { interpreter with mode }

/-- The same progress with the interpreter in another mode. -/
def Progress.inMode (mode : ReportMode) : Progress → Progress
  | .running interpreter => .running (interpreter.inMode mode)
  | .finished interpreter result => .finished (interpreter.inMode mode) result

namespace Interpreter

theorem follow_inMode (interpreter : Interpreter) (mode : ReportMode) (line : Line)
    (transfer : Transfer)
    : (interpreter.inMode mode).follow line transfer
      = (interpreter.follow line transfer).inMode mode := by
  obtain ⟨program, roster, id, _, position, origin⟩ := interpreter
  cases transfer with
  | next | halt => rfl
  | jump number =>
      cases origin with
      | some top => rfl
      | none =>
          simp only [follow, isInner, inMode]
          cases program.indexOf? number <;> rfl
  | resume position => cases origin <;> rfl

theorem settleAt_inMode (interpreter : Interpreter) (mode : ReportMode) (id : Nat) (line : Line)
    (outcome : Outcome)
    : (interpreter.inMode mode).settleAt id line outcome
      = (interpreter.settleAt id line outcome).inMode mode := by
  obtain ⟨env, transfer⟩ := outcome
  cases transfer with
  | error fault => rfl
  | ok transfer =>
      exact follow_inMode { interpreter with roster := interpreter.roster.set id env } mode line
        transfer

/-- What a line comes down to does not depend on the mode. -/
theorem Performs.inMode {interpreter : Interpreter} {line : Line} {id : Nat} {env : Environment}
    {command : Command} (performs : interpreter.Performs line id env command) (mode : ReportMode)
    : (interpreter.inMode mode).Performs line id env command := by
  cases performs with
  | directly found read => exact .directly found read
  | inside owns read choice first found => exact .inside owns read choice first found

/-- A step in another mode is the same step, to any depth of conditionals. Witness: the line comes
down to the same command, which does not see the mode.
-/
theorem step_inMode (interpreter : Interpreter) (mode : ReportMode)
    : (interpreter.inMode mode).step = interpreter.step.map (.inMode mode) := by
  cases found : interpreter.program.line? interpreter.position with
  | none =>
      have found'
          : (interpreter.inMode mode).program.line? (interpreter.inMode mode).position = none :=
        found
      rw [step, step, found, found']
      rfl
  | some line =>
      have found'
          : (interpreter.inMode mode).program.line? (interpreter.inMode mode).position
            = some line :=
        found
      cases owns : interpreter.env? with
      | none =>
          have owns' : (interpreter.inMode mode).env? = none := owns
          rw [step_eq_perform found, step_eq_perform found', perform_missing owns,
            perform_missing owns']
          rfl
      | some own =>
          have owns' : (interpreter.inMode mode).env? = some own := owns
          rcases perform_cases owns line with ⟨_, _, _, read, choice⟩ | ⟨id, env, command, performs⟩
          · rw [step_eq_perform found, step_eq_perform found', perform_unchosen owns read choice,
              perform_unchosen owns' read choice]
            rfl
          · rw [performs.step_eq found, (performs.inMode mode).step_eq found', Turn.map_map]
            congr 1
            funext outcome
            exact settleAt_inMode interpreter mode id line outcome

/-- A step never shows a diagnostic. -/
theorem isDiagnostic_of_step {interpreter : Interpreter} {request : Request}
    {resume : request.Answer → Progress} (asked : interpreter.step = .ask request resume)
    : request.isDiagnostic = false := by
  rcases step_cases interpreter with ⟨_, _, done, _⟩ | ⟨line, id, env, command, found, performs⟩
  · cases done.symm.trans asked
  · rw [performs.step_eq found] at asked
    cases ran : command.run interpreter.topPosition env with
    | done outcome =>
        rw [ran] at asked
        cases asked
    | ask request' resume' =>
        rw [ran] at asked
        obtain ⟨rfl, _⟩ := Turn.ask.inj asked
        cases request' with
        | diagnostic text => exact absurd ran (command.run_ne_diagnostic _ _ _ _)
        | _ => rfl

end Interpreter

-----------------------------------------------------------------------------------------
-- Reports and failures
-----------------------------------------------------------------------------------------

/-- The texts report an error: without particulars they tell the error and nothing else, and with
particulars the same and more.
-/
structure Error.ReportedBy (error : Error) (text : ReportMode → String) : Prop where
  pro : text .pro = "?" ++ error.message ++ "\n"
  dev : ∃ details, text .dev = "?" ++ error.message ++ "\n" ++ details

theorem Interpreter.reportedBy_report (interpreter : Interpreter) (error : Error)
    : error.ReportedBy fun mode => (interpreter.inMode mode).report error :=
  ⟨rfl, (interpreter.inMode .dev).particulars, rfl⟩

namespace Task

/-- The diagnostic that is all that a task has left to do. -/
def lastWords? : Task → Option String
  | .rejected error => some ("?" ++ error.message ++ "\n")
  | .reporting interpreter _ error => some (interpreter.report error)
  | .executing _ _ | .finished _ _ => none

theorem isFinished_of_lastWords {task : Task} {text : String}
    (words : task.lastWords? = some text)
    : task.isFinished = false := by
  cases task with
  | rejected | reporting => rfl
  | executing | finished => cases words

/-- The bare execution: the task without its report, with every error handed back. -/
def bare : Task → Task
  | .rejected error => .finished none (.error error)
  | .executing interpreter _ => .executing interpreter .handBack
  | .reporting interpreter _ error => .finished (some interpreter) (.error error)
  | .finished interpreter result => .finished interpreter result

/-- A run of a source fails with an error: in building, because the source cannot be read; in
seeding, because an initial variable cannot be stored; or in executing, where the execution comes to
an end and hands the error back.
-/
inductive Fails {σ : Type} (host : Responder σ) (state : σ) (source : String)
    (options : RunOptions) (initial : List (String × Value))
    : Error → Prop
  | building {error : Error} (refused : Program.parse source = .error error)
    : Fails host state source options initial error
  | seeding {program : Program} {fault : Fault} (parsed : Program.parse source = .ok program)
    (full : (Environment.seed { name := options.name } initial).2 = .error fault)
    : Fails host state source options initial { fault }
  | executing {interpreter : Interpreter} {turns : Nat} {ended : Option Interpreter} {error : Error}
    (started : start source options initial = .executing interpreter .absorb)
    (failed
      : (World.advanceBy host turns
          { task := .executing interpreter .handBack, host := state }).task
        = .finished ended (.error error))
    : Fails host state source options initial error

/-- How the runs of a source start, in all modes alike: the source cannot be read, an initial
variable cannot be stored, or there is an execution.
-/
theorem start_cases (source name : String) (initial : List (String × Value))
    : (∃ error,
        Program.parse source = .error error
        ∧ ∀ mode, start source { name, mode } initial = .rejected error)
      ∨ (∃ program fault interpreter,
          Program.parse source = .ok program
          ∧ (Environment.seed { name } initial).2 = .error fault
          ∧ ∀ mode,
              start source { name, mode } initial
              = .reporting (Interpreter.inMode interpreter mode) .absorb { fault })
      ∨ ∃ interpreter,
          ∀ mode,
            start source { name, mode } initial
            = .executing (Interpreter.inMode interpreter mode) .absorb := by
  cases parsed : Program.parse source with
  | error error =>
      refine .inl ⟨error, rfl, fun mode => ?_⟩
      rw [start, parsed]
  | ok program =>
      let fresh := Interpreter.start program {} name .pro
      let seeded := Environment.seed { name } initial
      let interpreter := { fresh with roster := fresh.roster.set fresh.id seeded.1 }
      cases filled : (Environment.seed { name } initial).2 with
      | error fault =>
          refine .inr (.inl ⟨program, fault, interpreter, rfl, rfl, fun mode => ?_⟩)
          rw [start, parsed]
          simp only [ofProgram, filled]
          rfl
      | ok _ =>
          refine .inr (.inr ⟨interpreter, fun mode => ?_⟩)
          rw [start, parsed]
          simp only [ofProgram, filled]
          rfl

/-- A run fails with the errors that its bare execution hands back. -/
theorem fails_iff {σ : Type} {host : Responder σ} {state : σ} {source name : String}
    {mode : ReportMode} {initial : List (String × Value)} {error : Error}
    : Fails host state source { name, mode } initial error
      ↔ ∃ turns ended,
          (World.advanceBy host turns
            { task := (start source { name, mode } initial).bare, host := state }).task
          = .finished ended (.error error) := by
  constructor
  · intro fails
    cases fails with
    | building refused =>
        refine ⟨0, none, ?_⟩
        simp only [start, refused]
        rfl
    | @seeding program _ parsed full =>
        let fresh := Interpreter.start program {} name mode
        let seeded := Environment.seed { name } initial
        refine ⟨0, some { fresh with roster := fresh.roster.set fresh.id seeded.1 }, ?_⟩
        simp only [start, parsed, ofProgram, full]
        rfl
    | @executing _ turns ended _ started failed =>
        refine ⟨turns, ended, ?_⟩
        rw [started]
        exact failed
  · rintro ⟨turns, ended, failed⟩
    rcases start_cases source name initial with
      ⟨_, refused, started⟩ | ⟨_, _, _, parsed, full, started⟩ | ⟨_, started⟩
    · rw [started mode, bare, World.advanceBy_of_finished rfl] at failed
      cases failed
      exact .building refused
    · rw [started mode, bare, World.advanceBy_of_finished rfl] at failed
      cases failed
      exact .seeding parsed full
    · rw [started mode] at failed
      exact .executing (started mode) failed

end Task

namespace World

variable {σ : Type}

/-- No call so far has been a diagnostic. -/
def Unreported (world : World σ) : Prop :=
  ∀ call ∈ world.calls, call.request.isDiagnostic = false

/-- The run is finished; its last call was a diagnostic, and none of the calls before it was. -/
structure Reported (world : World σ) (text : String) (earlier : List Call) : Prop where
  calls : world.calls = ⟨.diagnostic text, ()⟩ :: earlier
  silent : ∀ call ∈ earlier, call.request.isDiagnostic = false
  finished : world.isFinished = true

theorem Reported.not_unreported {world : World σ} {text : String} {earlier : List Call}
    (reported : world.Reported text earlier)
    : ¬ world.Unreported := by
  intro silent
  have called : ⟨.diagnostic text, ()⟩ ∈ world.calls := by simp [reported.calls]
  cases silent _ called

/-- A task that has only its report left to do makes it and is finished. -/
theorem reported_of_lastWords {past : World σ} {task : Task} {text : String}
    (silent : past.Unreported) (words : task.lastWords? = some text) (host : Responder σ)
    : ({ past with task } : World σ).advance host |>.Reported text past.calls := by
  cases task with
  | rejected | reporting =>
      cases words
      exact ⟨rfl, silent, rfl⟩
  | executing | finished => cases words

/-- One turn of an execution is the same in all modes and under all policies, up to what becomes of
an execution that has ended.
-/
theorem advance_executing (host : Responder σ) (past : World σ) (interpreter : Interpreter)
    : ∃ (progress : Progress) (later : World σ),
        (past.Unreported → later.Unreported)
        ∧ ∀ mode policy,
            World.advance host { past with task := .executing (interpreter.inMode mode) policy }
            = { later with task := .ofProgress policy (progress.inMode mode) } := by
  cases stepped : interpreter.step with
  | done progress =>
      refine ⟨progress, past, id, fun mode policy => ?_⟩
      simp only [advance, Task.turn, interpreter.step_inMode, stepped, Turn.map]
  | ask request resume =>
      let answered := host.answer request past.host
      let later : World σ :=
        { task := past.task
          host := answered.2
          calls := ⟨request, answered.1⟩ :: past.calls
          transcript := past.transcript ++ request.transcript }
      refine ⟨resume answered.1, later, fun silent => ?_, fun mode policy => ?_⟩
      · intro call called
        rcases List.mem_cons.mp called with rfl | earlier
        · exact Interpreter.isDiagnostic_of_step stepped
        · exact silent call earlier
      · simp only [advance, Task.turn, interpreter.step_inMode, stepped, Turn.map]
        rfl

-----------------------------------------------------------------------------------------
-- Runs in all modes, side by side
-----------------------------------------------------------------------------------------

/-- The bare executions and the runs of one source, in all modes, are at the same point with the
same behind them: executing the same program, ended, about to report an error that the bare
execution has handed back, or past the report.
-/
inductive Abreast (bare run : ReportMode → World σ) : Prop
  | executing (past : World σ) (interpreter : Interpreter) (silent : past.Unreported)
    (bares
      : ∀ mode, bare mode = { past with task := .executing (interpreter.inMode mode) .handBack })
    (runs : ∀ mode, run mode = { past with task := .executing (interpreter.inMode mode) .absorb })
  | ended (past : World σ) (silent : past.Unreported)
    (bares
      : ∀ mode, ∃ ended transfer, bare mode = { past with task := .finished ended (.ok transfer) })
    (runs : ∀ mode, ∃ ended result, run mode = { past with task := .finished ended result })
  | failing (past : World σ) (error : Error) (text : ReportMode → String)
    (silent : past.Unreported) (reports : error.ReportedBy text)
    (bares : ∀ mode, ∃ ended, bare mode = { past with task := .finished ended (.error error) })
    (runs : ∀ mode, ∃ task, task.lastWords? = some (text mode) ∧ run mode = { past with task })
  | reported (earlier : List Call) (error : Error) (text : ReportMode → String)
    (reports : error.ReportedBy text)
    (bares : ∀ mode, ∃ ended, (bare mode).task = .finished ended (.error error))
    (runs : ∀ mode, (run mode).Reported (text mode) earlier)

/-- One turn keeps the runs abreast, by cases on where they are. -/
theorem Abreast.advance {bare run : ReportMode → World σ} (abreast : Abreast bare run)
    (host : Responder σ)
    : Abreast (fun mode => (bare mode).advance host) (fun mode => (run mode).advance host) := by
  cases abreast with
  | executing past interpreter silent bares runs =>
      obtain ⟨progress, later, still, turn⟩ := advance_executing host past interpreter
      simp only [bares, runs, turn]
      cases progress with
      | running next => exact .executing later next (still silent) (fun _ => rfl) (fun _ => rfl)
      | finished last result =>
          cases result with
          | ok transfer =>
              exact .ended later (still silent) (fun _ => ⟨_, _, rfl⟩) (fun _ => ⟨_, _, rfl⟩)
          | error error =>
              exact .failing later error _ (still silent) (last.reportedBy_report error)
                (fun _ => ⟨_, rfl⟩) (fun _ => ⟨_, rfl, rfl⟩)
  | ended past silent bares runs =>
      refine .ended past silent (fun mode => ?_) (fun mode => ?_)
      · obtain ⟨ended, transfer, same⟩ := bares mode
        exact ⟨ended, transfer, by rw [same]; rfl⟩
      · obtain ⟨ended, result, same⟩ := runs mode
        exact ⟨ended, result, by rw [same]; rfl⟩
  | failing past error text silent reports bares runs =>
      refine .reported past.calls error text reports (fun mode => ?_) (fun mode => ?_)
      · obtain ⟨ended, same⟩ := bares mode
        exact ⟨ended, by rw [same]; rfl⟩
      · obtain ⟨task, words, same⟩ := runs mode
        rw [same]
        exact reported_of_lastWords silent words host
  | reported earlier error text reports bares runs =>
      refine .reported earlier error text reports (fun mode => ?_) (fun mode => ?_)
      · obtain ⟨ended, handed⟩ := bares mode
        have finished : (bare mode).isFinished = true := by rw [isFinished, handed]; rfl
        exact ⟨ended, by rw [advance_of_finished finished, handed]⟩
      · rw [advance_of_finished (runs mode).finished]
        exact runs mode

/-- The runs stay abreast, by induction on the turns. -/
theorem Abreast.advanceBy {bare run : ReportMode → World σ} (abreast : Abreast bare run)
    (host : Responder σ) (turns : Nat)
    : Abreast (fun mode => World.advanceBy host turns (bare mode))
        (fun mode => World.advanceBy host turns (run mode)) := by
  induction turns with
  | zero => exact abreast
  | succ turns ih =>
      simp only [advanceBy_succ]
      exact ih.advance host

/-- The runs of a source start abreast, whether or not it can be read and seeded. -/
theorem abreast_start (state : σ) (source name : String) (initial : List (String × Value))
    : Abreast
        (fun mode => { task := (Task.start source { name, mode } initial).bare, host := state })
        (fun mode => { task := .start source { name, mode } initial, host := state }) := by
  let past : World σ := { task := .finished none (.ok .next), host := state }
  have silent : past.Unreported := nofun
  rcases Task.start_cases source name initial with
    ⟨error, _, started⟩ | ⟨_, fault, interpreter, _, _, started⟩ | ⟨interpreter, started⟩
  · simp only [started]
    exact .failing past error _ silent ⟨rfl, "", by rw [String.append_empty]⟩
      (fun _ => ⟨_, rfl⟩) (fun _ => ⟨_, rfl, rfl⟩)
  · simp only [started]
    exact .failing past { fault } _ silent (interpreter.reportedBy_report { fault })
      (fun _ => ⟨_, rfl⟩) (fun _ => ⟨_, rfl, rfl⟩)
  · simp only [started]
    exact .executing past interpreter silent (fun _ => rfl) (fun _ => rfl)

/-- Runs abreast have made the same calls, or both have ended with a report of the error that the
bare execution has handed back.
-/
theorem Abreast.compare {bare run : ReportMode → World σ} (abreast : Abreast bare run)
    : (SameHistory (run .pro) (run .dev)
        ∧ (run .pro).Unreported
        ∧ (run .dev).isFinished = (run .pro).isFinished)
      ∨ ∃ error details earlier,
          (∀ mode, ∃ ended, (bare mode).task = .finished ended (.error error))
          ∧ (run .pro).Reported ("?" ++ error.message ++ "\n") earlier
          ∧ (run .dev).Reported ("?" ++ error.message ++ "\n" ++ details) earlier := by
  cases abreast with
  | executing past interpreter silent bares runs =>
      rw [runs, runs]
      exact .inl ⟨⟨rfl, rfl, rfl⟩, silent, rfl⟩
  | ended past silent bares runs =>
      obtain ⟨_, _, pro⟩ := runs .pro
      obtain ⟨_, _, dev⟩ := runs .dev
      rw [pro, dev]
      exact .inl ⟨⟨rfl, rfl, rfl⟩, silent, rfl⟩
  | failing past error text silent reports bares runs =>
      obtain ⟨_, wordsPro, pro⟩ := runs .pro
      obtain ⟨_, wordsDev, dev⟩ := runs .dev
      have unfinished :=
        (Task.isFinished_of_lastWords wordsDev).trans (Task.isFinished_of_lastWords wordsPro).symm
      rw [pro, dev]
      exact .inl ⟨⟨rfl, rfl, rfl⟩, silent, unfinished⟩
  | reported earlier error text reports bares runs =>
      obtain ⟨details, dev⟩ := reports.dev
      exact .inr ⟨error, details, earlier, bares, reports.pro ▸ runs .pro, dev ▸ runs .dev⟩

/-- Of runs abreast, one that has made a diagnostic has done so for an error of its bare execution.
-/
theorem Abreast.failed_of_reported {bare run : ReportMode → World σ} (abreast : Abreast bare run)
    {mode : ReportMode} (shown : ¬ (run mode).Unreported)
    : ∃ ended error, (bare mode).task = .finished ended (.error error) := by
  cases abreast with
  | executing past interpreter silent bares runs =>
      rw [runs] at shown
      exact absurd silent shown
  | ended past silent bares runs =>
      obtain ⟨_, _, same⟩ := runs mode
      rw [same] at shown
      exact absurd silent shown
  | failing past error text silent reports bares runs =>
      obtain ⟨_, _, same⟩ := runs mode
      rw [same] at shown
      exact absurd silent shown
  | reported earlier error text reports bares runs =>
      obtain ⟨ended, handed⟩ := bares mode
      exact ⟨ended, error, handed⟩

/-- Of runs abreast, one whose bare execution has failed makes a diagnostic in the next turn at the
latest.
-/
theorem Abreast.reported_of_failed {bare run : ReportMode → World σ} (abreast : Abreast bare run)
    {mode : ReportMode} {ended : Option Interpreter} {error : Error}
    (failed : (bare mode).task = .finished ended (.error error)) (host : Responder σ)
    : ¬ ((run mode).advance host).Unreported := by
  cases abreast with
  | executing past interpreter silent bares runs =>
      rw [bares] at failed
      cases failed
  | ended past silent bares runs =>
      obtain ⟨_, _, same⟩ := bares mode
      rw [same] at failed
      cases failed
  | failing past error text silent reports bares runs =>
      obtain ⟨task, words, same⟩ := runs mode
      rw [same]
      exact (reported_of_lastWords silent words host).not_unreported
  | reported earlier error text reports bares runs =>
      rw [advance_of_finished (runs mode).finished]
      exact (runs mode).not_unreported

/-- A turn on a line that comes down to `END` finishes the run without a call. -/
theorem Executes.advance_of_halt {world : World σ} {policy : ErrorPolicy}
    {interpreter : Interpreter} {env : Environment} {line : Line}
    (executes : world.Executes policy interpreter env)
    (found : interpreter.program.line? interpreter.position = some line)
    (halts : env.commandOf line.tokens = .halt) (host : Responder σ)
    : (world.advance host).isFinished = true ∧ (world.advance host).calls = world.calls := by
  have turn : world.task.turn
      = .done (.ofProgress policy (interpreter.settle line ⟨env, .ok .halt⟩)) := by
    rw [executes.task, Task.turn, executes.grounded.step_eq found, halts]
    rfl
  unfold World.advance
  rw [turn]
  exact ⟨rfl, rfl⟩

/-- After such a turn there is no further call. -/
theorem Executes.calls_of_halt {world : World σ} {policy : ErrorPolicy}
    {interpreter : Interpreter} {env : Environment} {line : Line}
    (executes : world.Executes policy interpreter env)
    (found : interpreter.program.line? interpreter.position = some line)
    (halts : env.commandOf line.tokens = .halt) (host : Responder σ) (later : Nat)
    : (advanceBy host later world).calls = world.calls := by
  obtain ⟨finished, calls⟩ := executes.advance_of_halt found halts host
  cases later with
  | zero => rfl
  | succ later => rw [advanceBy, advanceBy_of_finished finished, calls]

/-- Wherever a run is executing, it works on the first environment entered under its name. -/
theorem executes_of_start (host : Responder σ) (state : σ) {source : String} {options : RunOptions}
    {initial : List (String × Value)} {policy : ErrorPolicy} {turns : Nat}
    {interpreter : Interpreter}
    (running
      : (advanceBy host turns { task := .start source options initial, host := state }).task
        = .executing interpreter policy)
    : ∃ env,
        (advanceBy host turns { task := .start source options initial, host := state }).Executes
          policy interpreter env := by
  obtain ⟨_, started⟩ := executing_of_advanceBy turns running
  obtain ⟨topLevel, store, grounded⟩ := Task.grounded_of_start started
  have executes
      : ({ task := .start source options initial, host := state } : World σ).Executes policy _ _ :=
    ⟨started, topLevel, grounded⟩
  exact executes.later turns running

/-- Modes differ in the final report and in nothing else. For every source, all initial variables
and every host, the runs in both modes make the same calls, turn by turn, up to a last diagnostic,
of which the text without particulars is the beginning of the one with particulars. In each mode a
run makes a diagnostic just if building, seeding or executing fails; it is the last call, as a
finished run goes nowhere. After an `END`, at any depth of conditionals, there is no further call.
-/
theorem run_in_modes (host : Responder σ) (state : σ) (source name : String)
    (initial : List (String × Value))
    : let run (mode : ReportMode) (turns : Nat) : World σ :=
        advanceBy host turns { task := .start source { name, mode } initial, host := state }
      (∀ turns,
        (SameHistory (run .pro turns) (run .dev turns)
          ∧ (run .pro turns).Unreported
          ∧ (run .dev turns).isFinished = (run .pro turns).isFinished)
        ∨ ∃ error details earlier,
            (∀ mode, Task.Fails host state source { name, mode } initial error)
            ∧ (run .pro turns).Reported ("?" ++ error.message ++ "\n") earlier
            ∧ (run .dev turns).Reported ("?" ++ error.message ++ "\n" ++ details) earlier)
      ∧ ∀ mode,
          ((∃ turns, ¬ (run mode turns).Unreported)
            ↔ ∃ error, Task.Fails host state source { name, mode } initial error)
          ∧ (∀ turns later,
              (run mode turns).isFinished = true → run mode (turns + later) = run mode turns)
          ∧ ∀ turns interpreter line env,
              (run mode turns).task = .executing interpreter .absorb
              → interpreter.program.line? interpreter.position = some line
              → interpreter.env? = some env
              → env.commandOf line.tokens = .halt
              → ∀ later, (run mode (turns + later)).calls = (run mode turns).calls := by
  intro run
  have abreast (turns : Nat) := (abreast_start state source name initial).advanceBy host turns
  refine ⟨fun turns => ?_, fun mode => ⟨⟨?_, ?_⟩, ?_, ?_⟩⟩
  · rcases (abreast turns).compare with same | ⟨error, details, earlier, handed, reported⟩
    · exact .inl same
    · refine .inr ⟨error, details, earlier, fun mode => ?_, reported⟩
      obtain ⟨ended, failed⟩ := handed mode
      exact Task.fails_iff.mpr ⟨turns, ended, failed⟩
  · rintro ⟨turns, shown⟩
    obtain ⟨ended, error, failed⟩ := (abreast turns).failed_of_reported shown
    exact ⟨error, Task.fails_iff.mpr ⟨turns, ended, failed⟩⟩
  · rintro ⟨error, fails⟩
    obtain ⟨turns, ended, failed⟩ := Task.fails_iff.mp fails
    refine ⟨turns + 1, ?_⟩
    simp only [run, advanceBy_succ]
    exact (abreast turns).reported_of_failed failed host
  · intro turns later finished
    simp only [run, advanceBy_add]
    exact advanceBy_of_finished finished host later
  · intro turns interpreter line env running found owns halts later
    obtain ⟨env', executes⟩ := executes_of_start host state running
    obtain rfl : env = env' := Option.some.inj (owns.symm.trans executes.grounded.found)
    simp only [run, advanceBy_add]
    exact executes.calls_of_halt found halts host later

end World

end Gosub
