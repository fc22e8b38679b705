import Gosub.Machine.Script
import Gosub.Proofs.Machine.LoopVariables
import Gosub.Proofs.Machine.Views

/-! Variables that a program does not mention. A namespace can give a name any front part, but it
cannot make one name out of another. So an initial variable without a mark, whose name stands in no
line of the program, is never looked up: with it or without it, the run is the same.
-/

namespace Gosub

/-- All variables but one, and all arrays. -/
def View.allBut (name : String) : View where
  values key := key ≠ name
  arrays _ := True

/-- No namespace makes another name stand for a name without a mark. -/
theorem Environment.qualify_ne {name other : String} (env : Environment)
    (unmarked : '@' ∉ name.toList) (differs : other ≠ name)
    : env.qualify other ≠ name := by
  intro same
  by_cases unscoped : env.scope = ""
  · rw [qualify_of_unscoped unscoped] at same
    exact differs same
  · have marked := mark_mem_qualify unscoped other
    rw [same] at marked
    exact unmarked marked

theorem Environment.showsAll_of_unmentioned {name : String} (env : Environment)
    (unmarked : '@' ∉ name.toList) {tokens : List Token} (unmentioned : .name name ∉ tokens)
    : env.ShowsAll (.allBut name) tokens := by
  intro token member
  cases token with
  | name other =>
      refine ⟨env.qualify_ne unmarked ?_, trivial⟩
      rintro rfl
      exact unmentioned member
  | _ => trivial

-----------------------------------------------------------------------------------------
-- Starting with one variable more
-----------------------------------------------------------------------------------------

namespace Environment

variable {env left right : Environment} {view : View}

/-- Assigns variables one after another, and fails with the first that fails. -/
def assignAll (env : Environment) (entries : List (String × Value)) : Except Fault Environment :=
  entries.foldlM (fun env entry => env.assign entry.1 entry.2) env

/-- Initial variables are all assigned, or one of them fails. -/
theorem seed_cases (env : Environment) (entries : List (String × Value))
    : (∃ seeded, env.assignAll entries = .ok seeded ∧ env.seed entries = (seeded, .ok ()))
      ∨ ∃ fault, env.assignAll entries = .error fault ∧ (env.seed entries).2 = .error fault := by
  induction entries generalizing env with
  | nil => exact .inl ⟨env, rfl, rfl⟩
  | cons entry entries ih =>
      obtain ⟨name, value⟩ := entry
      rw [assignAll, List.foldlM_cons, seed]
      cases assigned : env.assign name value with
      | error fault => exact .inr ⟨fault, rfl, rfl⟩
      | ok changed => exact ih changed

/-- Assigning variables leaves the namespace alone. -/
theorem scope_of_assignAll {entries : List (String × Value)} {seeded : Environment}
    (done : env.assignAll entries = .ok seeded)
    : seeded.scope = env.scope := by
  obtain ⟨store, filled⟩ := env.seed_frame entries
  rcases env.seed_cases entries with ⟨_, done', seeds⟩ | ⟨fault, failed, _⟩
  · cases done.symm.trans done'
    rw [seeds] at filled
    have scope := congrArg Environment.scope filled
    exact scope
  · cases done.symm.trans failed

/-- Variables may be assigned to environments that agree, by induction on the entries. -/
theorem AgreeOn.assignAll (agree : left.AgreeOn view right) (entries : List (String × Value))
    : ChangesAlike view (left.assignAll entries) (right.assignAll entries) := by
  induction entries generalizing left right with
  | nil => exact .done agree
  | cons entry entries ih =>
      simp only [Environment.assignAll, List.foldlM_cons]
      exact (agree.assign entry.1 entry.2).andThen fun _ _ => ih

/-- A variable out of view may be assigned on one side. -/
theorem agreeOn_of_assign {name : String} {value : Value} {changed : Environment}
    (hidden : ¬ view.values (env.qualify name)) (done : env.assign name value = .ok changed)
    : env.AgreeOn view changed := by
  obtain ⟨store, stored, rfl⟩ := assign_eq_ok done
  obtain rfl := Store.assign_eq_ok stored
  refine ⟨rfl, rfl, rfl, rfl, fun key shown => ?_, fun key _ => ?_⟩
  · rw [Std.TreeMap.getElem?_insert, if_neg]
    exact fun same => hidden (Std.LawfulEqCmp.eq_of_compare same ▸ shown)
  · cases env.store.arrays[key]? with
    | none => exact .none
    | some table => exact .some ⟨rfl, fun _ => rfl⟩

theorem assignAll_append (env : Environment) (before after : List (String × Value))
    : env.assignAll (before ++ after) = env.assignAll before >>= (·.assignAll after) :=
  List.foldlM_append

theorem assignAll_cons (env : Environment) (name : String) (value : Value)
    (entries : List (String × Value))
    : env.assignAll ((name, value) :: entries) = env.assign name value >>= (·.assignAll entries) :=
  List.foldlM_cons

/-- One variable more, at any place, makes no difference to the others. -/
theorem assignAll_insert {name : String} (unscoped : env.scope = "")
    (before after : List (String × Value)) (value : Value)
    : ChangesAlike (.allBut name) (env.assignAll (before ++ after))
        (env.assignAll (before ++ (name, value) :: after)) := by
  rw [assignAll_append, assignAll_append]
  cases done : env.assignAll before with
  | error fault => exact .failed fault
  | ok middle =>
      have hidden : ¬ (View.allBut name).values (middle.qualify name) := by
        rw [qualify_of_unscoped ((scope_of_assignAll done).trans unscoped)]
        exact fun differs => differs rfl
      change ChangesAlike _ (middle.assignAll after) (middle.assignAll ((name, value) :: after))
      rw [assignAll_cons]
      cases assigned : middle.assign name value with
      | error fault =>
          obtain rfl := assign_eq_error assigned
          exact .crowded (.inr rfl)
      | ok changed => exact (agreeOn_of_assign hidden assigned).assignAll after

end Environment

/-- The run of a program starts on an environment to which the initial variables are assigned, or it
has no room for one of them.
-/
theorem Task.ofProgram_cases (program : Program) (options : RunOptions)
    (initial : List (String × Value))
    : (∃ seeded,
        Environment.assignAll { name := options.name } initial = .ok seeded
        ∧ ofProgram program options initial
          = .executing { program, roster := ⟨#[seeded]⟩, id := 0, mode := options.mode } .absorb)
      ∨ (ofProgram program options initial).Crowded := by
  rcases Environment.seed_cases { name := options.name } initial with
    ⟨seeded, done, seeds⟩ | ⟨fault, _, failed⟩
  · refine .inl ⟨seeded, done, ?_⟩
    simp only [ofProgram, seeds]
    rfl
  · obtain rfl := Environment.seed_fault failed
    refine .inr ?_
    simp only [ofProgram, failed]
    rfl

/-- With one variable more, a run starts alike, unless there is no room. -/
theorem Task.alike_ofProgram (program : Program) (options : RunOptions)
    (before after : List (String × Value)) (name : String) (value : Value)
    : (ofProgram program options (before ++ after)).Alike (.allBut name)
        (ofProgram program options (before ++ (name, value) :: after))
      ∨ (ofProgram program options (before ++ after)).Crowded
      ∨ (ofProgram program options (before ++ (name, value) :: after)).Crowded := by
  rcases ofProgram_cases program options (before ++ after) with ⟨seeded, done, starts⟩ | crowded
  · rcases ofProgram_cases program options (before ++ (name, value) :: after) with
      ⟨seeded', done', starts'⟩ | crowded'
    · have alike :=
        @Environment.assignAll_insert { name := options.name } name rfl before after value
      rw [done, done'] at alike
      refine .inl ?_
      rw [starts, starts']
      cases alike with
      | done agree =>
          refine .executing (@Interpreter.Alike.differ _ ⟨_, _, _, _, _, _⟩ _ fun id => ?_) _
          cases id with
          | zero => exact .some agree
          | succ id => exact .none
      | crowded full => rcases full with full | full <;> cases full
    · exact .inr (.inr crowded')
  · exact .inr (.inl crowded)

-----------------------------------------------------------------------------------------
-- What a run looks up
-----------------------------------------------------------------------------------------

namespace World

variable {σ : Type}

/-- The variable of a running loop stands in a line of the program. Witness: the loop goes back to a
`FOR` of the run, and a command is made of the tokens of its line.
-/
theorem mem_program_of_loop {host : Responder σ} {state : σ} {program : Program}
    {options : RunOptions} {initial : List (String × Value)} {turns : Nat}
    {interpreter : Interpreter} {env : Environment} {policy : ErrorPolicy}
    (executes
      : (advanceBy host turns
          { task := .ofProgram program options initial, host := state }).Executes policy
          interpreter env)
    {loop : Loop} (running : loop ∈ env.loops.items)
    : ∃ line ∈ program.lines, .name loop.name ∈ line.tokens := by
  obtain ⟨_, _, _, start, store, started⟩ := executes_of_ofProgram executes.task
  obtain ⟨inner, outer, items⟩ := List.append_of_mem running
  obtain ⟨opener, earlier, opened⟩ :=
    exists_openedBy started rfl turns executes (⟨inner, items.symm⟩ : loop :: outer <:+ _)
  obtain ⟨before, line, first, goal, step, _, _, _, executes', found, isOpen, _⟩ :=
    opened.starts.opens
  obtain ⟨_, onProgram, _⟩ := executes_of_ofProgram executes'.task
  refine ⟨line, ?_, opener.tokens_commandOf line.tokens ?_⟩
  · rw [Program.line?, onProgram] at found
    exact Array.mem_of_getElem? found
  · rw [isOpen]
    exact List.mem_cons_self

/-- A run never looks up a variable without a mark that its program does not mention. -/
theorem inView_of_unmentioned {host : Responder σ} {state : σ} {program : Program}
    {name : String} (unmarked : '@' ∉ name.toList)
    (unmentioned : ∀ line ∈ program.lines, .name name ∉ line.tokens) (options : RunOptions)
    (initial : List (String × Value)) (turns : Nat)
    : (advanceBy host turns
        { task := .ofProgram program options initial, host := state }).task.InView
        (.allBut name) := by
  intro interpreter policy running line env found works
  obtain ⟨_, onProgram, ⟨here, executes⟩, _⟩ := executes_of_ofProgram running
  obtain rfl := executes.grounded.eq_of_worksOn works
  constructor
  · rw [Program.line?, onProgram] at found
    exact env.showsAll_of_unmentioned unmarked (unmentioned line (Array.mem_of_getElem? found))
  · intro loop member
    refine env.qualify_ne unmarked ?_
    rintro rfl
    obtain ⟨line, inside, mentioned⟩ := mem_program_of_loop executes member
    exact unmentioned line inside mentioned

/-- Unmentioned variables are irrelevant. For every source, all options, every host and any initial
variables, take one variable more, at any place among the others, whose name has no mark and is the
name of no variable in any line of the program. It changes nothing of what passes between the run
and its host, at any point of the run, and the run ends at the same point, whatever namespaces it
goes through, as long as neither run finds the store full.
-/
theorem unmentioned_is_irrelevant (host : Responder σ) (state : σ) {source : String}
    (options : RunOptions) (before after : List (String × Value)) {name : String} (value : Value)
    (unmarked : '@' ∉ name.toList)
    (unmentioned
      : ∀ program,
          Program.parse source = .ok program
          → ∀ line ∈ program.lines, .name name ∉ line.tokens)
    (turns : Nat)
    (room
      : ∀ earlier ≤ turns,
          ¬ (advanceBy host earlier
              { task := .start source options (before ++ after), host := state }).task.Crowded
          ∧ ¬ (advanceBy host earlier
              { task := .start source options (before ++ (name, value) :: after),
                host := state }).task.Crowded)
    : let without :=
        advanceBy host turns { task := .start source options (before ++ after), host := state }
      let extended :=
        advanceBy host turns
          { task := .start source options (before ++ (name, value) :: after), host := state }
      SameHistory without extended ∧ extended.isFinished = without.isFinished := by
  intro without extended
  have alike : without.Alike (.allBut name) extended := by
    cases parsed : Program.parse source with
    | error error =>
        have rejected (initial : List (String × Value))
            : Task.start source options initial = .rejected error := by
          rw [Task.start, parsed]
        simp only [rejected] at room
        simp only [without, extended, rejected]
        refine Alike.later ⟨⟨rfl, rfl, rfl⟩, .rejected error⟩ host turns ?_ room
        intro earlier _ interpreter policy running
        obtain ⟨_, starting⟩ := executing_of_advanceBy earlier running
        cases starting
    | ok program =>
        have started (initial : List (String × Value))
            : Task.start source options initial = .ofProgram program options initial := by
          rw [Task.start, parsed]
        simp only [started] at room
        simp only [without, extended, started]
        obtain ⟨roomAtStart, roomAtStart'⟩ := room 0 (Nat.zero_le turns)
        have starts :=
          (Task.alike_ofProgram program options before after name value).resolve_right
            fun crowded => crowded.elim roomAtStart roomAtStart'
        have alike
            : Alike (.allBut name)
                { task := .ofProgram program options (before ++ after), host := state }
                { task := .ofProgram program options (before ++ (name, value) :: after),
                  host := state } :=
          ⟨⟨rfl, rfl, rfl⟩, starts⟩
        refine alike.later host turns (fun earlier _ => ?_) room
        exact inView_of_unmentioned unmarked (unmentioned program parsed) options _ earlier
  exact ⟨alike.history, alike.task.isFinished_eq⟩

/-- A program that goes to the namespace that a variable names, where it has a variable of its own,
does not see an initial variable `X`.
-/
theorem unmentioned_is_irrelevant_in_namespace
    : let host : Responder Script := Script.host fun _ => none
      let source := "10 NAMESPACE A\n20 LET A = 2\n30 PRINT A"
      let world (initial : List (String × Value)) : World Script :=
        { task := .start source {} initial, host := {} }
      let given : String × Value := ("A", .text "N")
      let extra : String × Value := ("X", .number 5.0)
      (∀ program,
        Program.parse source = .ok program → ∀ line ∈ program.lines, .name "X" ∉ line.tokens)
      ∧ SameHistory (advanceBy host 4 (world [given])) (advanceBy host 4 (world [given, extra]))
      ∧ (advanceBy host 4 (world [given, extra])).isFinished = true
      ∧ (advanceBy host 4 (world [given, extra])).transcript = "2\n" := by
  intro host source world given extra
  let program : Program :=
    ⟨#[
      ⟨10, [.keyword .NAMESPACE, .name "A"]⟩,
      ⟨20, [.keyword .LET, .name "A", .operator .assign, .number "2"]⟩,
      ⟨30, [.keyword .PRINT, .name "A"]⟩]⟩
  have parsed : Program.parse source = .ok program := by decide +kernel
  have started (initial : List (String × Value))
      : Task.start source {} initial = .ofProgram program {} initial := by
    rw [Task.start, parsed]
  have unmentioned
      : ∀ program,
          Program.parse source = .ok program
          → ∀ line ∈ program.lines, .name "X" ∉ line.tokens := by
    intro program' parsed'
    cases parsed.symm.trans parsed'
    decide
  have room
      : ∀ earlier ≤ 4,
          ¬ (advanceBy host earlier (world [given])).task.Crowded
          ∧ ¬ (advanceBy host earlier (world [given, extra])).task.Crowded := by
    simp only [world, started]
    decide +kernel
  obtain ⟨history, finished⟩ :=
    unmentioned_is_irrelevant host {} {} [given] [] (.number 5.0) (by decide) unmentioned 4 room
  refine ⟨unmentioned, history, ?_, ?_⟩
  · simp only [world, started]
    decide +kernel
  · simp only [world, started]
    decide +kernel

end World

end Gosub
