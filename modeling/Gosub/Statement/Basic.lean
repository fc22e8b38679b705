import Gosub.Evaluation.Indices

/-!
Statements. The tokens of a line make one statement: a command, or a choice between two bodies,
which stay token lists until one of them is chosen. A line that is not well formed is a command
too, one that fails when it is reached, so that a branch not taken can do no harm.
-/

namespace Gosub

/-- The readings of the clock that a program can load, each into the variable of its name. -/
inductive Reading where
  | NOW | MS | SEC
deriving DecidableEq, Repr

namespace Reading

/-- The variable that a reading is loaded into. -/
def name : Reading → String
  | .NOW => "NOW"
  | .MS => "MS"
  | .SEC => "SEC"

/-- The reading of a name. -/
def ofName? (s : String) : Option Reading :=
  [NOW, MS, SEC].find? fun reading => reading.name == s

/-- What a reading makes of the time in milliseconds; seconds are rounded down. -/
def ofMillis (reading : Reading) (millis : Int) : Int :=
  match reading with
  | .NOW | .MS => millis
  | .SEC => millis.fdiv 1000

end Reading

/-- A command of a program. Expressions stay token lists until they are evaluated. -/
inductive Command where
  | skip
  /-- Fails with the fault that was found in the line. -/
  | refuse (fault : Fault)
  | print (expression : List Token)
  | assign (name : String) (expression : List Token)
  | assignCell (name : String) (indices : List (List Token)) (expression : List Token)
  | declare (name : String) (dimension : Option (List Token))
  | input (prompt : List Token) (name : String)
  | halt
  | goto (target : List Token)
  | gosub (target : List Token)
  | goBack
  | setScope (expression : List Token)
  | readClock (reading : Reading)
  | load (path : List Token) (name : String)
  | publish (name : String)
  | pause (seconds : List Token)
  | openLoop (name : String) (start goal : List Token) (step : Option (List Token))
  | closeLoop (name : Option String)
deriving DecidableEq, Repr

/-- A statement: a command, or one of two bodies by a condition. The second body may be missing.
-/
inductive Statement where
  | command (command : Command)
  | branch (condition body : List Token) (otherwise : Option (List Token))
deriving DecidableEq, Repr

/-- Divides a token list at the first token equal to `mark`. -/
def cutAt? (mark : Token) (tokens : List Token) : Option (List Token × List Token) :=
  match tokens.dropWhile (· != mark) with
  | [] => none
  | _ :: after => some (tokens.takeWhile (· != mark), after)

/-- Both parts of a divided list are shorter than the whole. -/
theorem length_lt_of_cutAt? {mark : Token} {tokens before after : List Token}
    (cut : cutAt? mark tokens = some (before, after))
    : before.length < tokens.length ∧ after.length < tokens.length := by
  unfold cutAt? at cut
  split at cut
  · cases cut
  · rename_i dropped
    cases cut
    have whole := List.takeWhile_append_dropWhile (p := (· != mark)) (l := tokens)
    have length := congrArg List.length whole
    rw [List.length_append, dropped, List.length_cons] at length
    omega

namespace Command

/-- An assignment to an array cell, from what follows the name of the array. -/
def ofCell (name : String) (arguments : List Token) : Command :=
  match Indices.split arguments with
  | .error fault => .refuse fault
  | .ok (indices, rest) =>
    match rest with
    | .operator .assign :: expression => .assignCell name indices expression
    | _ => .refuse (.cellWithoutAssign name)

/-- The command after `LET`. -/
def ofLet (arguments : List Token) : Command :=
  match arguments with
  | .name name :: .operator .assign :: expression => .assign name expression
  | .indexed name :: rest => ofCell name rest
  | _ => .refuse (.letForm arguments)

/-- The command after `ARRAY`: a name, and the dimension after a comma. -/
def ofArray (arguments : List Token) : Command :=
  match arguments with
  | .name name :: rest =>
    match rest with
    | [] => .declare name none
    | .operator .comma :: dimension => .declare name (some dimension)
    | _ => .refuse (.arrayForm arguments)
  | _ => .refuse .unnamedArray

/-- The command after `INPUT`: a prompt and a semicolon, which may be left out, and a name. -/
def ofInput (arguments : List Token) : Command :=
  let (prompt, target) := (cutAt? (.operator .semicolon) arguments).getD ([], arguments)
  match target with
  | [.name name] => .input prompt name
  | _ => .refuse .inputForm

/-- The command after `LOAD`. A name that is no reading of the clock is passed over. -/
def ofLoad (arguments : List Token) : Command :=
  match arguments with
  | [.name name] =>
    match Reading.ofName? name with
    | some reading => .readClock reading
    | none => .skip
  | _ => .refuse .loadForm

/-- The command after `IMPORT`: a path, `AS` and a name. -/
def ofImport (arguments : List Token) : Command :=
  match cutAt? (.keyword .AS) arguments with
  | none => .refuse .importWithoutAs
  | some (path, target) =>
    match target with
    | [.name name] => .load path name
    | _ => .refuse .importForm

/-- The command after `EXPORT`. -/
def ofExport (arguments : List Token) : Command :=
  match arguments with
  | [.name name] => .publish name
  | _ => .refuse .exportForm

/-- The command after `FOR`: a name, `=`, the start, `TO`, the goal and, if given, `STEP` and the
step. -/
def ofFor (arguments : List Token) : Command :=
  match arguments with
  | .name name :: .operator .assign :: rest =>
    match cutAt? (.keyword .TO) rest with
    | none => .refuse .forWithoutTo
    | some (start, rest) =>
      if start.contains (.keyword .STEP) then .refuse .stepBeforeTo
      else
        match cutAt? (.keyword .STEP) rest with
        | none => .openLoop name start rest none
        | some (goal, step) => .openLoop name start goal (some step)
  | _ => .refuse (.forForm arguments)

/-- The command after `NEXT`: nothing, or the name of the loop variable. -/
def ofNext (arguments : List Token) : Command :=
  match arguments with
  | [] => .closeLoop none
  | [.name name] => .closeLoop (some name)
  | _ => .refuse (.nextForm arguments)

/-- The command that a reserved word opens. -/
def ofKeyword (keyword : Keyword) (arguments : List Token) : Command :=
  match keyword with
  | .REM => .skip
  | .PRINT => .print arguments
  | .LET => ofLet arguments
  | .ARRAY => ofArray arguments
  | .INPUT => ofInput arguments
  | .END => .halt
  | .GOTO => .goto arguments
  | .GOSUB => .gosub arguments
  | .RETURN => .goBack
  | .NAMESPACE => .setScope arguments
  | .LOAD => ofLoad arguments
  | .IMPORT => ofImport arguments
  | .EXPORT => ofExport arguments
  | .PAUSE => .pause arguments
  | .FOR => ofFor arguments
  | .NEXT => ofNext arguments
  | _ => .refuse (.undefinedKeyword keyword)

/-- The command of a token list that does not begin with `IF`. -/
def ofTokens (tokens : List Token) : Command :=
  match tokens with
  | [] => .refuse .emptyLine
  | .keyword keyword :: arguments => ofKeyword keyword arguments
  | .indexed name :: arguments => ofCell name arguments
  | .name name :: arguments =>
    match arguments with
    | .operator .assign :: expression => .assign name expression
    | _ => .refuse (.nameWithoutAssign name)
  | token :: _ => .refuse (.unexpectedToken token)

end Command

namespace Statement

/-- The statement of a token list. A condition ends at the first `THEN`, and the body of the `IF`
at the first `ELSE` after that. -/
def ofTokens (tokens : List Token) : Statement :=
  match tokens with
  | .keyword .IF :: arguments =>
    match cutAt? (.keyword .THEN) arguments with
    | none => .command (.refuse .ifWithoutThen)
    | some (condition, bodies) =>
      match cutAt? (.keyword .ELSE) bodies with
      | none => .branch condition bodies none
      | some (body, otherwise) => .branch condition body (some otherwise)
  | tokens => .command (Command.ofTokens tokens)

/-- Both bodies of a conditional statement are shorter than the whole. -/
theorem length_lt_of_ofTokens {tokens condition body : List Token}
    {otherwise : Option (List Token)}
    (read : ofTokens tokens = .branch condition body otherwise)
    : body.length < tokens.length ∧ ∀ other ∈ otherwise, other.length < tokens.length := by
  unfold ofTokens at read
  split at read
  · split at read
    · cases read
    · rename_i opened
      have outer := length_lt_of_cutAt? opened
      split at read
      · cases read
        simp only [List.length_cons]
        exact ⟨by omega, by simp⟩
      · rename_i divided
        have inner := length_lt_of_cutAt? divided
        cases read
        simp only [Option.mem_def, Option.some.injEq, forall_eq', List.length_cons]
        omega
  · cases read

end Statement

end Gosub
