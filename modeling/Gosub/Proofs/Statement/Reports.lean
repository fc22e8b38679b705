import Gosub.Proofs.Evaluation.Faults
import Gosub.Proofs.Machine.Conditionals
import Gosub.Proofs.Statement.Effects

/-! What commands can fail for. The expressions of a command are parts of its line, cut out at words
and marks that are no brackets, so that no array name loses its indices; a command fails for what
its expressions fail for, or for a cause of its own.
-/

namespace Gosub

-----------------------------------------------------------------------------------------
-- Parts of a line
-----------------------------------------------------------------------------------------

/-- The tokens stand together in the line, and every array name among them with its bracket. -/
structure PartOf (line part : List Token) : Prop where
  inside : part <:+: line
  bracketed : Bracketed part

namespace PartOf

variable {line part : List Token}

theorem nil (line : List Token) : PartOf line [] :=
  ⟨List.nil_infix, fun before name after whole => by simp at whole⟩

theorem of_append {before after : List Token} (whole : PartOf line (before ++ after))
    : PartOf line after :=
  ⟨(List.suffix_append before after).isInfix.trans whole.inside, whole.bracketed.of_append⟩

theorem tail {token : Token} (whole : PartOf line (token :: part)) : PartOf line part :=
  ⟨(List.suffix_cons token part).isInfix.trans whole.inside, whole.bracketed.tail⟩

theorem before_mark {before after : List Token} {mark : Token}
    (whole : PartOf line (before ++ mark :: after)) (other : mark ≠ Indices.opening)
    : PartOf line before :=
  ⟨(List.prefix_append before (mark :: after)).isInfix.trans whole.inside,
    whole.bracketed.before_mark other⟩

theorem readable (whole : PartOf line part) (readable : Readable line) : Readable part :=
  readable.mono fun _ member => whole.inside.mem member

/-- A part that is cut at another token than an opening bracket falls into two parts. -/
theorem of_cutAt? {mark : Token} {before after : List Token} (whole : PartOf line part)
    (cut : cutAt? mark part = some (before, after)) (other : mark ≠ Indices.opening)
    : PartOf line before ∧ PartOf line after := by
  have text : part = before ++ mark :: after := by
    have spanned := List.takeWhile_append_dropWhile (p := (· != mark)) (l := part)
    unfold cutAt? at cut
    split at cut
    · cases cut
    · next found rest dropped =>
      cases cut
      have same : found = mark := by
        have ends := List.head?_dropWhile_not (· != mark) part
        rw [dropped] at ends
        simpa using ends
      rw [dropped, same] at spanned
      exact spanned.symm
  subst text
  exact ⟨whole.before_mark other, whole.of_append.tail⟩

/-- The index groups of a cell and what follows them are parts. -/
theorem of_split {groups : List (List Token)} {after : List Token} (whole : PartOf line part)
    (divided : Indices.split part = .ok (groups, after))
    : (∀ group ∈ groups, PartOf line group) ∧ PartOf line after := by
  obtain ⟨parts, front, ended⟩ := Indices.parts_of_split divided
  constructor
  · intro group member
    obtain ⟨before, behind, text⟩ := parts group member
    rw [text] at whole
    exact whole.of_append.before_mark (by decide)
  · rw [ended] at whole
    exact whole.of_append

end PartOf

-----------------------------------------------------------------------------------------
-- Commands made of parts of a line
-----------------------------------------------------------------------------------------

/-- The cause can be reported for a line. It is no cause of an environment that cannot be found, of
an operand that is no number, of a number that cannot be read, or of a missed bracket. An `ARRAY`
that is not well formed lists its arguments, and these stand in the line.
-/
def Fault.Reportable (line : List Token) : Fault → Prop
  | .unknownEnvironment _ | .missingEnvironment _ | .operandNotNumber | .unreadableNumber _
  | .expectedBracket => False
  | .arrayForm arguments =>
    (∃ name rest, arguments = .name name :: rest) ∧ .keyword .ARRAY :: arguments <:+: line
  | _ => True

theorem Fault.OfExpression.reportable {fault : Fault} (ofExpression : fault.OfExpression)
    (line : List Token)
    : fault.Reportable line := by
  cases ofExpression <;> trivial

/-- The expressions of the command are parts of the line, and the fault of a refused line can be
reported for it.
-/
def Command.Within (line : List Token) : Command → Prop
  | .skip | .halt | .goBack | .readClock _ | .publish _ | .closeLoop _ => True
  | .refuse fault => fault.Reportable line
  | .print expression | .assign _ expression | .input expression _ | .goto expression
  | .gosub expression | .setScope expression | .load expression _ | .pause expression =>
    PartOf line expression
  | .assignCell _ indices expression =>
    (∀ group ∈ indices, PartOf line group) ∧ PartOf line expression
  | .declare _ dimension => ∀ expression ∈ dimension, PartOf line expression
  | .openLoop _ start goal step =>
    PartOf line start ∧ PartOf line goal ∧ ∀ expression ∈ step, PartOf line expression

namespace Command

variable {line arguments : List Token}

/-- The bracket of an array name is never missed, because the name stands before it. -/
theorem within_ofCell {name : String} (whole : PartOf line (.indexed name :: arguments))
    : (ofCell name arguments).Within line := by
  obtain ⟨rest, opened⟩ := whole.bracketed [] name arguments rfl
  unfold ofCell
  split
  · next fault failed =>
    have meets : Meets (Fault.Reportable line) (fun _ => True) (Indices.split arguments) :=
      Indices.split_meets (fun _ cause => cause.reportable line) (.inr ⟨rest, opened⟩)
    exact meets.of_error failed
  · next groups after divided =>
    obtain ⟨parts, behind⟩ := whole.tail.of_split divided
    split
    · exact ⟨parts, behind.tail⟩
    · trivial

theorem within_ofLet (whole : PartOf line arguments) : (ofLet arguments).Within line := by
  unfold ofLet
  split
  · exact whole.tail.tail
  · exact within_ofCell whole
  · trivial

theorem within_ofArray (whole : PartOf line (.keyword .ARRAY :: arguments))
    : (ofArray arguments).Within line := by
  unfold ofArray
  split
  · next name rest =>
    split
    · exact nofun
    · rintro _ ⟨⟩
      exact whole.tail.tail.tail
    · exact ⟨⟨name, rest, rfl⟩, whole.inside⟩
  · trivial

theorem within_ofInput (whole : PartOf line arguments) : (ofInput arguments).Within line := by
  unfold ofInput
  cases cut : cutAt? (.operator .semicolon) arguments with
  | none =>
      dsimp only [Option.getD_none]
      split
      · exact .nil line
      · trivial
  | some parts =>
      obtain ⟨prompt, target⟩ := parts
      dsimp only [Option.getD_some]
      split
      · exact (whole.of_cutAt? cut (by decide)).1
      · trivial

theorem within_ofLoad : (ofLoad arguments).Within line := by
  unfold ofLoad
  split
  · split <;> trivial
  · trivial

theorem within_ofImport (whole : PartOf line arguments) : (ofImport arguments).Within line := by
  unfold ofImport
  split
  · trivial
  · next cut =>
    split
    · exact (whole.of_cutAt? cut (by decide)).1
    · trivial

theorem within_ofExport : (ofExport arguments).Within line := by
  unfold ofExport
  split <;> trivial

theorem within_ofFor (whole : PartOf line arguments) : (ofFor arguments).Within line := by
  unfold ofFor
  split
  · split
    · trivial
    · next cut =>
      obtain ⟨start, rest⟩ := whole.tail.tail.of_cutAt? cut (by decide)
      split
      · trivial
      · split
        · exact ⟨start, rest, nofun⟩
        · next cut' =>
          obtain ⟨goal, step⟩ := rest.of_cutAt? cut' (by decide)
          exact ⟨start, goal, fun _ same => Option.some.inj same ▸ step⟩
  · trivial

theorem within_ofNext : (ofNext arguments).Within line := by
  unfold ofNext
  split <;> trivial

theorem within_ofKeyword {keyword : Keyword} (whole : PartOf line (.keyword keyword :: arguments))
    : (ofKeyword keyword arguments).Within line := by
  unfold ofKeyword
  split
  case h_1 | h_6 | h_9 => trivial
  case h_2 | h_7 | h_8 | h_10 | h_14 => exact whole.tail
  case h_3 => exact within_ofLet whole.tail
  case h_4 => exact within_ofArray whole
  case h_5 => exact within_ofInput whole.tail
  case h_11 => exact within_ofLoad
  case h_12 => exact within_ofImport whole.tail
  case h_13 => exact within_ofExport
  case h_15 => exact within_ofFor whole.tail
  case h_16 => exact within_ofNext
  case h_17 => trivial

theorem within_ofTokens {tokens : List Token} (whole : PartOf line tokens)
    : (Command.ofTokens tokens).Within line := by
  unfold Command.ofTokens
  split
  · trivial
  · exact within_ofKeyword whole
  · exact within_ofCell whole
  · split
    · exact whole.tail.tail
    · trivial
  · trivial

end Command

/-- The bodies of a conditional are parts of the line. -/
theorem Statement.parts_of_branch {line tokens condition body : List Token}
    {otherwise : Option (List Token)} (whole : PartOf line tokens)
    (read : ofTokens tokens = .branch condition body otherwise)
    : PartOf line body ∧ ∀ other ∈ otherwise, PartOf line other := by
  unfold ofTokens at read
  split at read
  · split at read
    · cases read
    · next opened =>
      obtain ⟨_, bodies⟩ := whole.tail.of_cutAt? opened (by decide)
      split at read
      · cases read
        exact ⟨bodies, nofun⟩
      · next divided =>
        cases read
        obtain ⟨first, second⟩ := bodies.of_cutAt? divided (by decide)
        exact ⟨first, fun _ same => Option.some.inj same ▸ second⟩
  · cases read

/-- A line comes down to a command that is made of its parts, by induction along the chosen bodies.
-/
theorem Environment.within_commandOf {line tokens : List Token} (env : Environment)
    (whole : PartOf line tokens)
    : (env.commandOf tokens).Within line := by
  fun_induction env.commandOf tokens with
  | case1 tokens command read =>
      unfold Statement.ofTokens at read
      split at read
      · split at read
        · cases read
          trivial
        · split at read <;> cases read
      · cases read
        exact Command.within_ofTokens whole
  | case2 => trivial
  | case3 tokens condition body otherwise read chosen choice _ ih =>
      obtain ⟨first, second⟩ := Statement.parts_of_branch whole read
      unfold Environment.choose at choice
      split at choice
      · cases choice
        exact ih first
      · exact ih (second chosen choice)

-----------------------------------------------------------------------------------------
-- Commands in execution
-----------------------------------------------------------------------------------------

/-- The computation fails only for causes that can be reported for the line. -/
def Reports {α : Type} (line : List Token) (outcome : Except Fault α) : Prop :=
  Meets (Fault.Reportable line) (fun _ => True) outcome

namespace Environment

variable {line : List Token} (env : Environment)

theorem evaluate_reports {part : List Token} (readable : Readable line) (whole : PartOf line part)
    : Reports line (env.evaluate part) :=
  evaluate_meets (fun _ cause => cause.reportable line) env (whole.readable readable)
    (.inr whole.bracketed)

theorem evaluateAll_reports {groups : List (List Token)} (readable : Readable line)
    (parts : ∀ group ∈ groups, PartOf line group)
    : Reports line (env.evaluateAll groups) :=
  Meets.mapM fun group member => env.evaluate_reports readable (parts group member)

theorem evaluateNumber_reports {part : List Token} (readable : Readable line)
    (whole : PartOf line part) (subject : String)
    : Reports line (env.evaluateNumber part subject) := by
  refine (env.evaluate_reports readable whole).bind fun value _ => ?_
  cases value <;> trivial

theorem lineTarget_reports {part : List Token} (readable : Readable line)
    (whole : PartOf line part)
    : Reports line (env.lineTarget part) := by
  refine (env.evaluate_reports readable whole).bind fun value _ => ?_
  unfold Value.lineTarget
  dsimp only
  split <;> trivial

theorem fetch_reports (name : String) : Reports line (env.fetch name) :=
  fetch_meets (fun _ cause => cause.reportable line) env name

theorem assign_reports (name : String) (value : Value) : Reports line (env.assign name value) := by
  unfold assign Store.assign
  split <;> trivial

theorem declare_reports (name : String) (dimension : Nat)
    : Reports line (env.declare name dimension) := by
  unfold declare Store.declare
  split <;> trivial

theorem assignCell_reports (name : String) (indices : List Value) (value : Value)
    : Reports line (env.assignCell name indices value) := by
  have located := locate_meets (fun _ cause => cause.reportable line) env (env.qualify name) indices
  have stored : Reports line (env.store.assignCell (env.qualify name) indices value.typed) :=
    located.bind fun _ _ => trivial
  exact stored.map fun _ _ => trivial

theorem openLoop_reports {position : Nat} {name : String} {start goal : List Token}
    {step : Option (List Token)} (readable : Readable line)
    (within : (Command.openLoop name start goal step).Within line)
    : Reports line (env.openLoop position name start goal step).transfer := by
  obtain ⟨fromStart, toGoal, byStep⟩ := within
  have seeded : Reports line (do env.assign name (← env.evaluate start)) :=
    (env.evaluate_reports readable fromStart).bind fun value _ => env.assign_reports name value
  unfold openLoop
  split
  · next failed => exact seeded.of_error failed
  · next env _ =>
    have bounds : Reports line (env.loopBounds goal step) := by
      refine (env.evaluateNumber_reports readable toGoal _).bind fun x _ => ?_
      cases step with
      | none => trivial
      | some step =>
          exact (env.evaluateNumber_reports readable (byStep step rfl) _).bind fun _ _ => trivial
    split
    · next failed => exact bounds.of_error failed
    · unfold enterLoop pushLoop BoundedStack.check
      dsimp only
      split <;> trivial

theorem closeLoop_reports (name : Option String) : Reports line (env.closeLoop name).transfer := by
  have iterated (loop : Loop) : Reports line (env.iterate loop).transfer := by
    unfold iterate countIteration Loop.check
    dsimp only
    split
    · next failed =>
      split at failed <;> cases failed
      trivial
    · generalize ({ env with loops := env.loops.replaceTop loop.counted } : Environment) = env
      have value : Reports line (env.loopValue loop) := by
        refine (env.fetch_reports loop.name).bind fun value _ => ?_
        cases value <;> trivial
      unfold advanceLoop
      split
      · next failed => exact value.of_error failed
      · split
        · trivial
        · split
          · next failed => exact (env.assign_reports _ _).of_error failed
          · trivial
  unfold closeLoop
  split
  · trivial
  · split
    · exact iterated _
    · split
      · exact iterated _
      · trivial

end Environment

theorem Outcome.ofChange_reports {line : List Token} {change : Except Fault Environment}
    (reports : Reports line change) (env : Environment)
    : Reports line (Outcome.ofChange env change).transfer := by
  cases change with
  | ok changed => trivial
  | error fault => exact reports

/-- A command that is made of parts of a line fails only for causes that can be reported for the
line, by cases on the command.
-/
theorem Command.run_reports {line : List Token} {command : Command} {position : Nat}
    {env : Environment} {outcome : Outcome} (readable : Readable line)
    (within : command.Within line) (yields : (command.run position env).Yields outcome)
    : Reports line outcome.transfer := by
  have evaluated {part : List Token} (whole : PartOf line part)
      : Reports line (env.evaluate part) :=
    env.evaluate_reports readable whole
  cases command with
  | skip | halt =>
      cases yields
      trivial
  | refuse fault =>
      cases yields
      exact within
  | print expression =>
      simp only [run] at yields
      split at yields
      · next failed =>
        cases yields
        exact (evaluated within).of_error failed
      · cases yields
        trivial
  | assign name expression =>
      cases yields
      refine Outcome.ofChange_reports ?_ env
      exact (evaluated within).bind fun value _ => env.assign_reports name value
  | assignCell name indices expression =>
      cases yields
      refine Outcome.ofChange_reports ?_ env
      refine (env.evaluateAll_reports readable within.1).bind fun values _ => ?_
      exact (evaluated within.2).bind fun value _ => env.assignCell_reports name values value
  | declare name dimension =>
      cases yields
      refine Outcome.ofChange_reports ?_ env
      cases dimension with
      | none => exact env.declare_reports name 1
      | some expression =>
          refine (evaluated (within expression rfl)).bind fun value _ => ?_
          have dimension : Reports line value.dimension := by
            unfold Value.dimension
            split
            · split
              · split <;> trivial
              · trivial
            · trivial
          exact dimension.bind fun n _ => env.declare_reports name n
  | input prompt name =>
      simp only [run] at yields
      split at yields
      · next failed =>
        cases yields
        exact (evaluated within).of_error failed
      · cases yields
        exact Outcome.ofChange_reports (env.assign_reports name _) env
  | goto target =>
      cases yields
      exact (env.lineTarget_reports readable within).map fun _ _ => trivial
  | gosub target =>
      simp only [run] at yields
      split at yields
      · next failed =>
        cases yields
        exact (env.lineTarget_reports readable within).of_error failed
      · cases yields
        unfold Environment.enterSubroutine Environment.pushCall BoundedStack.check
        dsimp only
        split <;> trivial
  | goBack =>
      cases yields
      unfold Environment.leaveSubroutine
      split <;> trivial
  | setScope expression =>
      cases yields
      refine Outcome.ofChange_reports ?_ env
      exact (evaluated within).bind fun _ _ => trivial
  | readClock reading =>
      cases yields
      exact Outcome.ofChange_reports (env.assign_reports _ _) env
  | load path name =>
      simp only [run] at yields
      split at yields
      · next failed =>
        cases yields
        exact (evaluated within).of_error failed
      · cases yields with
        | ask _ answer =>
            cases answer with
            | ok loaded => exact Outcome.ofChange_reports (env.assign_reports name loaded) env
            | error reason => trivial
  | publish name =>
      simp only [run] at yields
      split at yields
      · next failed =>
        cases yields
        exact (env.fetch_reports name).of_error failed
      · cases yields
        trivial
  | pause seconds =>
      simp only [run] at yields
      split at yields
      · next failed =>
        cases yields
        exact (env.evaluateNumber_reports readable within _).of_error failed
      · cases yields
        trivial
  | openLoop name start goal step =>
      cases yields
      exact env.openLoop_reports readable within
  | closeLoop name =>
      cases yields
      exact env.closeLoop_reports name

end Gosub
