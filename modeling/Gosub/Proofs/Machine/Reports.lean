import Gosub.Machine.Script
import Gosub.Proofs.Evaluation.Operands
import Gosub.Proofs.Machine.Runs
import Gosub.Proofs.Program.Listing
import Gosub.Proofs.Statement.Reports

/-! The errors that runs report. Whatever a host is shown of an error comes from a source that could
not be read, from initial variables that found no room, or from a line of the program and a cause
that can be reported for it. The causes that a run keeps itself from meeting are never reported.
-/

namespace Gosub

-----------------------------------------------------------------------------------------
-- Errors with a place in the source
-----------------------------------------------------------------------------------------

/-- The error is accounted for by a source: this could not be read, an initial variable found no
room, or the error happened on a line, for a cause that can be reported for that line.
-/
inductive Error.Accounted (source : String) : Error → Prop
  | refused {error : Error} (unread : Program.parse source = .error error)
    : Accounted source error
  | unseeded : Accounted source { fault := .tooManyVariables }
  | onLine {program : Program} {line : Line} {fault : Fault}
    (parsed : Program.parse source = .ok program) (member : line ∈ program.lines)
    (reportable : fault.Reportable line.tokens)
    : Accounted source ⟨fault, some line.number⟩

theorem Line.cut_of_read {number : Nat} {command : String} {line : Line}
    (read : Line.read number command = .ok line)
    : Lexer.Cut command.toList line.tokens := by
  unfold Line.read at read
  split at read
  · next lexed =>
    cases read
    exact Lexer.cut_of_tokens lexed
  · cases read

namespace Fault.Reportable

variable {line : List Token} {fault : Fault}

theorem kind_ne_internal (reportable : fault.Reportable line) : fault.kind ≠ .internal := by
  cases fault with
  | unknownEnvironment | missingEnvironment => exact reportable.elim
  | _ => nofun

theorem ne_unreadableNumber (reportable : fault.Reportable line) (tokens : List Token)
    : fault ≠ .unreadableNumber tokens := by
  rintro rfl
  exact reportable

/-- A typing error says what it is about. -/
theorem detail_ne_empty (reportable : fault.Reportable line) (typing : fault.kind = .typing)
    : fault.detail ≠ "" := by
  cases fault with
  | operandNotNumber => exact reportable.elim
  | nameWithoutAssign name =>
      intro empty
      exact absurd (String.append_eq_empty_iff.mp empty).2 (by decide)
  | notANumber subject text =>
      intro empty
      have inner := (String.append_eq_empty_iff.mp empty).1
      exact absurd (String.append_eq_empty_iff.mp inner).2 (by decide)
  | _ => cases typing

end Fault.Reportable

-----------------------------------------------------------------------------------------
-- Arguments that read like a missed bracket
-----------------------------------------------------------------------------------------

/-- The text of a missed bracket is itself cut into a name and a bracket. -/
theorem Lexer.tokens_expected {cs : List Char} (skipped : cs.dropWhile isGap = "EXPECTED [".toList)
    : tokens cs = .ok [.name "EXPECTED", .operator .leftBracket] := by
  have word : lexeme 'E' "XPECTED [".toList = .ok (.name "EXPECTED", " [".toList) := by
    decide +kernel
  have mark : lexeme '[' [] = .ok (.operator .leftBracket, []) := rfl
  rw [tokens_of_lexeme skipped word, tokens_of_lexeme (by rfl) mark, tokens_of_blank (by rfl)]
  rfl

/-- The arguments that an `ARRAY` lists as `EXPECTED [` are a variable of that name and a bracket:
a listing is read as the normal forms of its tokens.
-/
theorem Token.eq_of_listing_expected {name : String} {rest : List Token}
    (forced : ∀ token ∈ .name name :: rest, ∃ after, Lexer.Forced after token)
    (listed : listing (.name name :: rest) = "EXPECTED [")
    : .name name :: rest = [.name "EXPECTED", .operator .leftBracket] := by
  have cut := Lexer.tokens_of_cut (Lexer.cut_listing forced)
  rw [listed, Lexer.tokens_expected rfl, Except.ok.injEq] at cut
  have whole := throughRemark_eq_self (by rw [← cut]; decide)
  rw [whole, List.map_cons] at cut
  obtain ⟨first, later⟩ := List.cons.inj cut
  obtain ⟨last, rfl, second⟩ := List.map_eq_singleton_iff.mp later.symm
  have named : name = "EXPECTED" := by
    rw [← printed_ofWord name, show ofWord name = _ from first.symm]
    rfl
  rw [named, eq_of_normal_eq_operator second]

/-- An array error with the text `EXPECTED [` is that of an `ARRAY` which is not well formed and has
just these arguments.
-/
theorem Fault.Reportable.of_expected {cs : List Char} {line : List Token} {fault : Fault}
    (reportable : fault.Reportable line) (cut : Lexer.Cut cs line)
    (form : fault.kind = .arrayForm) (text : fault.detail = "EXPECTED [")
    : fault = .arrayForm [.name "EXPECTED", .operator .leftBracket]
      ∧ [.keyword .ARRAY, .name "EXPECTED", .operator .leftBracket] <:+: line := by
  cases fault with
  | expectedBracket => exact reportable.elim
  | missingBracket | emptyIndex | zeroDimension | unnamedArray => exact absurd text (by decide)
  | invalidDimension value =>
      have first : ("INVALID DIMENSION " ++ value.printed).toList.head? = some 'E' :=
        congrArg (·.toList.head?) text
      have begins : "INVALID DIMENSION ".toList.head? = some 'I' := by decide
      rw [String.toList_append, List.head?_append, begins] at first
      cases first
  | arrayForm arguments =>
      obtain ⟨⟨name, rest, rfl⟩, inside⟩ := reportable
      have forced : ∀ token ∈ .name name :: rest, ∃ after, Lexer.Forced after token :=
        fun token member => cut.forced_of_mem (inside.mem (List.mem_cons_of_mem _ member))
      have same := Token.eq_of_listing_expected forced text
      rw [same] at inside ⊢
      exact ⟨rfl, inside⟩
  | _ => cases form

namespace Error.Accounted

variable {source : String} {error : Error}

theorem kind_ne_internal (accounted : error.Accounted source) : error.fault.kind ≠ .internal := by
  cases accounted with
  | refused unread =>
      rw [Program.kind_of_build unread]
      decide
  | unseeded => decide
  | onLine _ _ reportable => exact reportable.kind_ne_internal

theorem detail_ne_empty (accounted : error.Accounted source) (typing : error.fault.kind = .typing)
    : error.fault.detail ≠ "" := by
  cases accounted with
  | refused unread =>
      rw [Program.kind_of_build unread] at typing
      cases typing
  | unseeded => cases typing
  | onLine _ _ reportable => exact reportable.detail_ne_empty typing

theorem ne_unreadableNumber (accounted : error.Accounted source) (tokens : List Token)
    : error.fault ≠ .unreadableNumber tokens := by
  cases accounted with
  | refused unread =>
      intro unreadable
      have lexical := Program.kind_of_build unread
      rw [unreadable] at lexical
      cases lexical
  | unseeded => nofun
  | onLine _ _ reportable => exact reportable.ne_unreadableNumber tokens

theorem of_expected (accounted : error.Accounted source) (form : error.fault.kind = .arrayForm)
    (text : error.fault.detail = "EXPECTED [")
    : ∃ program line,
        Program.parse source = .ok program
        ∧ line ∈ program.lines
        ∧ error = ⟨.arrayForm [.name "EXPECTED", .operator .leftBracket], some line.number⟩
        ∧ [.keyword .ARRAY, .name "EXPECTED", .operator .leftBracket] <:+: line.tokens := by
  cases accounted with
  | refused unread =>
      rw [Program.kind_of_build unread] at form
      cases form
  | unseeded => cases form
  | @onLine program line fault parsed member reportable =>
      obtain ⟨_, cs, _, cut⟩ := Program.cut_of_parse parsed member
      obtain ⟨rfl, inside⟩ := reportable.of_expected cut form text
      exact ⟨program, line, parsed, member, rfl, inside⟩

end Error.Accounted

-----------------------------------------------------------------------------------------
-- Tasks that report accounted errors
-----------------------------------------------------------------------------------------

namespace Task

variable {source : String} {task after : Task}

/-- The error that the next turn of a task reports. -/
def reported? : Task → Option Error
  | .rejected error | .reporting _ _ error => some error
  | .executing _ _ | .finished _ _ => none

/-- The task belongs to a run of the source. It executes the program at the top level, on an
environment that can be found again under its name, and every error that it has to report is
accounted for.
-/
inductive Sound (source : String) : Task → Prop
  | rejected {error : Error} (accounted : error.Accounted source)
    : Sound source (.rejected error)
  | executing {interpreter : Interpreter} {env : Environment} {policy : ErrorPolicy}
    (parsed : Program.parse source = .ok interpreter.program)
    (topLevel : interpreter.isInner = false) (grounded : interpreter.Grounded env)
    : Sound source (.executing interpreter policy)
  | reporting {interpreter : Interpreter} {policy : ErrorPolicy} {error : Error}
    (accounted : error.Accounted source)
    : Sound source (.reporting interpreter policy error)
  | finished (interpreter : Option Interpreter) (result : Except Error Transfer)
    : Sound source (.finished interpreter result)

theorem Sound.accounted {error : Error} (sound : task.Sound source)
    (reported : task.reported? = some error)
    : error.Accounted source := by
  cases sound with
  | rejected accounted | reporting accounted =>
      cases reported
      exact accounted
  | executing | finished => cases reported

theorem Sound.conclude_error {error : Error} (accounted : error.Accounted source)
    (interpreter : Interpreter) (policy : ErrorPolicy)
    : (conclude interpreter policy (.error error)).Sound source := by
  unfold conclude
  dsimp only
  split
  · exact .reporting accounted
  · exact .finished _ _

/-- A run of a source starts with a sound task. -/
theorem sound_start (source : String) (options : RunOptions) (initial : List (String × Value))
    : (start source options initial).Sound source := by
  unfold start
  cases parsed : Program.parse source with
  | error error => exact .rejected (.refused parsed)
  | ok program =>
      obtain ⟨roster, store, grounded, starts⟩ := ofProgram_eq options initial
      dsimp only
      rcases starts with executing | reporting
      · rw [executing]
        exact .executing parsed rfl (grounded program)
      · rw [reporting]
        exact .reporting .unseeded

/-- A line of a source that is read fails only for causes that can be reported for it. -/
theorem reports_of_line {program : Program} {line : Line} {position : Nat} {env : Environment}
    {outcome : Outcome} (parsed : Program.parse source = .ok program)
    (member : line ∈ program.lines)
    (ran : ((env.commandOf line.tokens).run position env).Yields outcome)
    : Reports line.tokens outcome.transfer := by
  obtain ⟨_, cs, _, cut⟩ := Program.cut_of_parse parsed member
  have whole : PartOf line.tokens line.tokens := ⟨List.infix_rfl, cut.bracketed⟩
  exact Command.run_reports cut.readable (env.within_commandOf whole) ran

/-- A turn of a sound task leaves a sound task behind, by cases on how the command of the line
settles.
-/
theorem Sound.turn (sound : task.Sound source) (yields : task.turn.Yields after)
    : after.Sound source := by
  cases sound with
  | rejected | reporting | finished =>
      cases yields
      exact .finished _ _
  | @executing interpreter env policy parsed topLevel grounded =>
      obtain ⟨progress, stepped, rfl⟩ := yields.of_map
      cases found : interpreter.program.line? interpreter.position with
      | none =>
          rw [Interpreter.step, found] at stepped
          cases stepped
          exact .finished _ _
      | some line =>
          have member : line ∈ interpreter.program.lines := Array.mem_of_getElem? found
          obtain ⟨outcome, ran, settles⟩ := grounded.step_run topLevel found stepped
          have reports := reports_of_line parsed member ran
          cases settles with
          | @running transfer position done lands =>
              have named := (Command.run_effect ran).name_eq
              exact .executing parsed topLevel (grounded.updated named position)
          | halted => exact .finished _ _
          | failed fails =>
              exact .conclude_error (.onLine parsed member (reports.of_error fails)) _ _
          | @lost number =>
              have reportable : (Fault.undefinedLine (toString number)).Reportable line.tokens :=
                trivial
              exact .conclude_error (.onLine parsed member reportable) _ _

end Task

/-- What a sound task shows as a diagnostic begins with the message of the error that it reports. -/
theorem Task.Sound.reported_of_diagnostic {source : String} {task : Task} {text : String}
    {resume : (Request.diagnostic text).Answer → Task} (sound : task.Sound source)
    (asked : task.turn = .ask (.diagnostic text) resume)
    : ∃ error details,
        task.reported? = some error ∧ text = "?" ++ error.message ++ "\n" ++ details := by
  cases sound with
  | @rejected error =>
      cases asked
      exact ⟨error, "", rfl, by rw [String.append_empty]⟩
  | @reporting interpreter policy error =>
      cases asked
      refine ⟨error, ?_⟩
      unfold Interpreter.report
      cases interpreter.mode with
      | dev => exact ⟨interpreter.particulars, rfl, rfl⟩
      | pro => exact ⟨"", rfl, by rw [String.append_empty]⟩
  | finished => cases asked
  | @executing interpreter env policy parsed topLevel grounded =>
      cases found : interpreter.program.line? interpreter.position with
      | none =>
          rw [Task.turn, Interpreter.step, found] at asked
          cases asked
      | some line =>
          rw [Task.turn, grounded.step_eq found] at asked
          cases ran : (env.commandOf line.tokens).run interpreter.topPosition env with
          | done outcome =>
              rw [ran] at asked
              cases asked
          | ask request answer =>
              rw [ran] at asked
              obtain ⟨rfl, _⟩ := Turn.ask.inj asked
              exact absurd ran (Command.run_ne_diagnostic _ _ _ _ _)

-----------------------------------------------------------------------------------------
-- What runs report
-----------------------------------------------------------------------------------------

namespace World

variable {σ : Type}

/-- Every task of a run is sound, by induction on the turns. -/
theorem sound_advanceBy {source : String} {world : World σ} (sound : world.task.Sound source)
    (host : Responder σ) (turns : Nat)
    : (advanceBy host turns world).task.Sound source := by
  induction turns with
  | zero => exact sound
  | succ turns ih =>
      rw [advanceBy_succ]
      exact ih.turn (advance_yields host _)

/-- A turn adds no call but that of its own request. -/
theorem call_of_advance {host : Responder σ} {world : World σ} {call : Call}
    (called : call ∈ (world.advance host).calls)
    : call ∈ world.calls ∨ ∃ resume, world.task.turn = .ask call.request resume := by
  unfold advance at called
  cases turn : world.task.turn with
  | done after =>
      rw [turn] at called
      exact .inl called
  | ask request resume =>
      rw [turn] at called
      rcases List.mem_cons.mp called with rfl | earlier
      · exact .inr ⟨resume, rfl⟩
      · exact .inl earlier

/-- What the host is shown as a diagnostic is what a task of the run has reported before, by
induction on the turns.
-/
theorem reported_of_call {source : String} {world : World σ} (sound : world.task.Sound source)
    (fresh : world.calls = []) (host : Responder σ) {turns : Nat} {call : Call} {text : String}
    (called : call ∈ (advanceBy host turns world).calls) (shown : call.request = .diagnostic text)
    : ∃ earlier error details,
        earlier < turns
        ∧ (advanceBy host earlier world).task.reported? = some error
        ∧ text = "?" ++ error.message ++ "\n" ++ details := by
  induction turns with
  | zero =>
      rw [show (advanceBy host 0 world).calls = [] from fresh] at called
      cases called
  | succ turns ih =>
      rw [advanceBy_succ] at called
      rcases call_of_advance called with earlier | ⟨resume, asked⟩
      · obtain ⟨earlier, error, details, sooner, reported, same⟩ := ih earlier
        exact ⟨earlier, error, details, Nat.lt_succ_of_lt sooner, reported, same⟩
      · obtain ⟨request, answer⟩ := call
        obtain rfl : request = .diagnostic text := shown
        obtain ⟨error, details, reported, same⟩ :=
          (sound_advanceBy sound host turns).reported_of_diagnostic asked
        exact ⟨turns, error, details, Nat.lt_succ_self turns, reported, same⟩

/-- Runs never report the errors that they keep themselves from making. For every source, all
options, all initial variables and every host, no task of the run reports an internal error, a
typing error without a detail, or a number that cannot be read; an array error with the text
`EXPECTED [` is reported for nothing but an `ARRAY` that is not well formed and has just these
arguments. Whatever is shown as a diagnostic is such a report. On every part of a line an expression
fails only with the kinds of errors of expressions, and no operand of its arithmetic is a text.
-/
theorem reports_no_internal_cause (host : Responder σ) (state : σ) (source : String)
    (options : RunOptions) (initial : List (String × Value))
    : let world : World σ := { task := .start source options initial, host := state }
      (∀ turns error,
        (advanceBy host turns world).task.reported? = some error
        → error.fault.kind ≠ .internal
          ∧ (error.fault.kind = .typing → error.fault.detail ≠ "")
          ∧ (∀ tokens, error.fault ≠ .unreadableNumber tokens)
          ∧ (error.fault.kind = .arrayForm
            → error.fault.detail = "EXPECTED ["
            → ∃ program line,
                Program.parse source = .ok program
                ∧ line ∈ program.lines
                ∧ error = ⟨.arrayForm [.name "EXPECTED", .operator .leftBracket], some line.number⟩
                ∧ [.keyword .ARRAY, .name "EXPECTED", .operator .leftBracket] <:+: line.tokens))
      ∧ (∀ turns call text,
          call ∈ (advanceBy host turns world).calls
          → call.request = .diagnostic text
          → ∃ earlier error details,
              earlier < turns
              ∧ (advanceBy host earlier world).task.reported? = some error
              ∧ text = "?" ++ error.message ++ "\n" ++ details)
      ∧ (∀ number command line part env fault,
          Line.read number command = .ok line
          → part <:+: line.tokens
          → Environment.evaluate env part = .error fault
          → fault.kind ∈ Kind.ofExpression ∧ ∀ tokens, fault ≠ .unreadableNumber tokens)
      ∧ ∀ tokens,
          Arithmetic.evaluateOnValues tokens = (Arithmetic.evaluate tokens).map .number := by
  intro world
  have sound : world.task.Sound source := Task.sound_start source options initial
  refine ⟨fun turns error reported => ?_, fun turns call text called shown => ?_, ?_,
    Arithmetic.evaluateOnValues_eq⟩
  · have accounted := (sound_advanceBy sound host turns).accounted reported
    exact ⟨accounted.kind_ne_internal, accounted.detail_ne_empty, accounted.ne_unreadableNumber,
      accounted.of_expected⟩
  · exact reported_of_call sound rfl host called shown
  · intro number command line part env fault read inside failed
    have cut := Line.cut_of_read read
    rcases env.fault_of_evaluate cut inside failed with ofExpression | rfl
    · exact ⟨ofExpression.kind_mem, fun tokens same => by cases ofExpression <;> cases same⟩
    · exact ⟨by decide, nofun⟩

/-- An array may be called `EXPECTED`, and its declaration may go wrong before a bracket. -/
theorem reports_expected_bracket
    : let host := Script.host fun _ => none
      let world : World Script := { task := .start "10 ARRAY EXPECTED [" {} [], host := {} }
      (∃ error,
        (advanceBy host 1 world).task.reported? = some error
        ∧ error.fault.kind = .arrayForm
        ∧ error.fault.detail = "EXPECTED [")
      ∧ (advanceBy host 2 world).transcript = "?ARRAY SYNTAX ERROR IN 10; EXPECTED [\n" := by
  intro host world
  let program : Program :=
    ⟨#[⟨10, [.keyword .ARRAY, .name "EXPECTED", .operator .leftBracket]⟩]⟩
  have raw : Source.rawLines "10 ARRAY EXPECTED [" = [⟨"10", "ARRAY EXPECTED ["⟩] := by cbv
  have number : lineNumber? "10" = some 10 := by decide +kernel
  have word : Lexer.lexeme 'A' "RRAY EXPECTED [".toList
      = .ok (.keyword .ARRAY, " EXPECTED [".toList) := by
    decide +kernel
  have read : Lexer.tokens "ARRAY EXPECTED [".toList
      = .ok [.keyword .ARRAY, .name "EXPECTED", .operator .leftBracket] := by
    rw [Lexer.tokens_of_lexeme (by rfl) word, if_neg (by decide), Lexer.tokens_expected (by rfl)]
    rfl
  have parsed : Program.parse "10 ARRAY EXPECTED [" = .ok program := by
    rw [Program.parse, raw, Program.build]
    simp only [List.foldlM_cons, List.foldlM_nil, Program.enter, number, Line.read, read]
    rfl
  have started : Task.start "10 ARRAY EXPECTED [" {} [] = .ofProgram program {} [] := by
    rw [Task.start, parsed]
  let error : Error := ⟨.arrayForm [.name "EXPECTED", .operator .leftBracket], some 10⟩
  have reported : (advanceBy host 1 world).task.reported? = some error := by
    simp only [world, started]
    decide +kernel
  have shown : (advanceBy host 2 world).transcript = "?ARRAY SYNTAX ERROR IN 10; EXPECTED [\n" := by
    simp only [world, started]
    decide +kernel
  exact ⟨⟨error, reported, rfl, by decide +kernel⟩, shown⟩

end World

end Gosub
