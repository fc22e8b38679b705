import Gosub.Proofs.Machine.Rosters
import Gosub.Proofs.Statement.Views

/-! Executions in view. Two executions of one program on environments that agree on a view go side
by side, as long as all that they look up is in view and neither finds the store full: they make the
same calls, and what is in view stays the same.
-/

namespace Gosub

variable {view : View}

-----------------------------------------------------------------------------------------
-- Rosters and interpreters
-----------------------------------------------------------------------------------------

namespace Roster

/-- Under every number there are environments that agree on the view, or none. -/
def AgreeOn (view : View) (left right : Roster) : Prop :=
  ∀ id, Option.Rel (Environment.AgreeOn view) (left.get? id) (right.get? id)

namespace AgreeOn

variable {left right : Roster}

theorem exists_env (agree : left.AgreeOn view right) {id : Nat} {env : Environment}
    (found : left.get? id = some env)
    : ∃ env', right.get? id = some env' ∧ env.AgreeOn view env' := by
  have related := agree id
  rw [found] at related
  generalize right.get? id = found' at related
  cases related with
  | some agree => exact ⟨_, rfl, agree⟩

theorem get?_eq_none (agree : left.AgreeOn view right) {id : Nat} (missing : left.get? id = none)
    : right.get? id = none := by
  have related := agree id
  rw [missing] at related
  generalize right.get? id = found' at related
  cases related
  rfl

/-- Every name stands for the same number. Witness: the list of names is the same. -/
theorem lookup?_eq (agree : left.AgreeOn view right) (name : String)
    : right.lookup? name = left.lookup? name := by
  have names
      : right.environments.map Environment.name = left.environments.map Environment.name := by
    apply Array.ext_getElem?
    intro id
    rw [Array.getElem?_map, Array.getElem?_map]
    have related := agree id
    unfold get? at related
    generalize left.environments[id]? = found at related
    generalize right.environments[id]? = found' at related
    cases related with
    | none => rfl
    | some agree => rw [Option.map_some, Option.map_some, agree.name]
  rw [lookup?_eq_names, lookup?_eq_names, names]

theorem set (agree : left.AgreeOn view right) {id : Nat} {env : Environment}
    (found : left.get? id = some env) {changed changed' : Environment}
    (same : changed.AgreeOn view changed')
    : (left.set id changed).AgreeOn view (right.set id changed') := by
  intro other
  by_cases here : id = other
  · subst here
    obtain ⟨env', found', _⟩ := agree.exists_env found
    rw [get?_set_self found, get?_set_self found']
    exact .some same
  · simp only [get?, Roster.set, Array.getElem?_setIfInBounds_ne here]
    exact agree other

end AgreeOn

/-- Under every number there is the same as before, as far as it is not in view. -/
def SameBeyond (view : View) (before after : Roster) : Prop :=
  ∀ id env,
    before.get? id = some env
    → ∃ env', after.get? id = some env' ∧ env.store.SameBeyond view env'.store

namespace SameBeyond

variable {before middle after : Roster}

theorem refl (view : View) (roster : Roster) : roster.SameBeyond view roster :=
  fun _ env found => ⟨env, found, .refl view env.store⟩

theorem trans (first : before.SameBeyond view middle) (second : middle.SameBeyond view after)
    : before.SameBeyond view after := by
  intro id env found
  obtain ⟨env', found', same⟩ := first id env found
  obtain ⟨env'', found'', same'⟩ := second id env' found'
  exact ⟨env'', found'', same.trans same'⟩

theorem set {id : Nat} {env changed : Environment} (found : before.get? id = some env)
    (same : env.store.SameBeyond view changed.store)
    : before.SameBeyond view (before.set id changed) := by
  intro other env' found'
  by_cases here : id = other
  · subst here
    cases found.symm.trans found'
    exact ⟨changed, get?_set_self found changed, same⟩
  · refine ⟨env', ?_, .refl view env'.store⟩
    simp only [get?, Roster.set, Array.getElem?_setIfInBounds_ne here]
    exact found'

end SameBeyond

end Roster

namespace Interpreter

/-- The interpreters differ at most in their rosters, and these agree on the view. -/
inductive Alike (view : View) (left : Interpreter) : Interpreter → Prop
  | differ {roster : Roster} (agree : left.roster.AgreeOn view roster)
    : Alike view left { left with roster }

/-- The line works on the environment: it is the interpreter's own one, which tells what a
conditional comes down to, or the one that the command of the line is executed on.
-/
def WorksOn (interpreter : Interpreter) (line : Line) (env : Environment) : Prop :=
  interpreter.env? = some env ∨ ∃ id command, interpreter.Performs line id env command

/-- An interpreter on the first environment of its name works on no other. -/
theorem Grounded.eq_of_worksOn {interpreter : Interpreter} {env other : Environment} {line : Line}
    (grounded : interpreter.Grounded env) (works : interpreter.WorksOn line other)
    : other = env := by
  rcases works with owns | ⟨id, command, performs⟩
  · exact Option.some.inj (owns.symm.trans grounded.found)
  · obtain ⟨reached, held⟩ := performs.reaches ⟨env, grounded.found, rfl⟩
    obtain rfl : id = interpreter.id := by
      rcases reached with here | first
      · exact here
      · exact Option.some.inj (first.symm.trans grounded.first)
    exact Option.some.inj (held.symm.trans grounded.found)

/-- All that the next line may look up is in view: its names and the variables of the loops, in
every environment that the line works on.
-/
def InView (interpreter : Interpreter) (view : View) : Prop :=
  ∀ line env,
    interpreter.program.line? interpreter.position = some line
    → interpreter.WorksOn line env
    → env.ShowsAll view line.tokens
      ∧ ∀ loop ∈ env.loops.items, view.values (env.qualify loop.name)

end Interpreter

/-- The step ended because there was no room for a variable. -/
def Progress.Crowded : Progress → Prop
  | .finished _ (.error error) => error.fault = .tooManyVariables
  | _ => False

/-- The interpreters are still running or at the same end, and they are alike, unless one of them
has found no room for a variable.
-/
inductive Progress.Alike (view : View) : Progress → Progress → Prop
  | running {left right : Interpreter} (alike : left.Alike view right)
    : Alike view (.running left) (.running right)
  | finished {left right : Interpreter} (alike : left.Alike view right)
    (result : Except Error Transfer)
    : Alike view (.finished left result) (.finished right result)
  | crowded {left right : Progress} (full : left.Crowded ∨ right.Crowded) : Alike view left right

namespace Interpreter

variable {left right : Interpreter}

/-- Control moves by the program and not by the roster. -/
theorem Alike.follow (alike : left.Alike view right) (line : Line) (transfer : Transfer)
    : Progress.Alike view (left.follow line transfer) (right.follow line transfer) := by
  obtain ⟨agree⟩ := alike
  obtain ⟨program, _, id, mode, position, origin⟩ := left
  cases transfer with
  | next => exact .running (.differ agree)
  | halt => exact .finished (.differ agree) _
  | jump number =>
      cases origin with
      | some top => exact .finished (.differ agree) _
      | none =>
          simp only [Interpreter.follow, isInner, Option.isSome_none, Bool.false_eq_true, if_false]
          cases program.indexOf? number with
          | some position => exact .running (.differ agree)
          | none => exact .finished (.differ agree) _
  | resume position =>
      cases origin with
      | some top => exact .finished (.differ agree) _
      | none => exact .running (.differ agree)

theorem Alike.settleAt (alike : left.Alike view right) {id : Nat} {env : Environment}
    (found : left.roster.get? id = some env) (line : Line) {outcome outcome' : Outcome}
    (same : outcome.Alike view outcome')
    : Progress.Alike view (left.settleAt id line outcome) (right.settleAt id line outcome') := by
  obtain ⟨agree⟩ := alike
  cases same with
  | agreed env transfer =>
      have settled := agree.set found env
      unfold Interpreter.settleAt
      rw [transfer]
      cases outcome.transfer with
      | ok transfer => exact Alike.follow (.differ settled) line transfer
      | error fault => exact .finished (.differ settled) _
  | crowded full =>
      refine .crowded (full.imp (fun full => ?_) fun full => ?_)
      all_goals
        unfold Interpreter.settleAt
        rw [full]
        rfl

theorem Performs.get? {interpreter : Interpreter} {line : Line} {id : Nat} {env : Environment}
    {command : Command} (performs : interpreter.Performs line id env command)
    : interpreter.roster.get? id = some env := by
  cases performs with
  | directly owns => exact owns
  | inside _ _ _ _ held => exact held

/-- A line comes down to the same command in both. -/
theorem Alike.performs (alike : left.Alike view right) (inView : left.InView view) {line : Line}
    (found : left.program.line? left.position = some line) {id : Nat} {env : Environment}
    {command : Command} (performs : left.Performs line id env command)
    : ∃ env', right.Performs line id env' command ∧ env.AgreeOn view env' := by
  obtain @⟨roster, agree⟩ := alike
  cases performs with
  | directly owns read =>
      obtain ⟨env', owns', same⟩ := agree.exists_env owns
      exact ⟨env', .directly owns' read, same⟩
  | inside owns read choice first held =>
      obtain ⟨own', owns', same⟩ := agree.exists_env owns
      obtain ⟨env', held', same'⟩ := agree.exists_env held
      have ownShown := (inView line _ found (.inl owns)).1
      have shown :=
        (inView line env found (.inr ⟨id, _, .inside owns read choice first held⟩)).1
      have within := Environment.subset_of_choose read choice
      rw [← same.choose_eq ownShown read] at choice
      have first' : roster.lookup? own'.name = some id := by
        rw [agree.lookup?_eq, same.name]
        exact first
      rw [← same'.commandOf_eq (shown.mono within)]
      exact ⟨env', .inside owns' read choice first' held', same'⟩

/-- A step makes the same request in both, and they are alike after it. Witness: the line comes down
to the same command, whose names are names of the line.
-/
theorem Alike.step (alike : left.Alike view right) (inView : left.InView view)
    : Turn.Related (Progress.Alike view) left.step right.step := by
  have same := alike
  obtain @⟨roster, agree⟩ := alike
  let other : Interpreter := { left with roster }
  cases found : left.program.line? left.position with
  | none =>
      simp only [Interpreter.step, found]
      exact .done (.finished same _)
  | some line =>
      cases owns : left.env? with
      | none =>
          have owns' : other.env? = none := agree.get?_eq_none owns
          have found' : other.program.line? other.position = some line := found
          rw [step_eq_perform found, step_eq_perform found', perform_missing owns,
            perform_missing owns']
          exact .done (.finished same _)
      | some own =>
          rcases perform_cases owns line with
            ⟨_, _, _, read, choice⟩ | ⟨id, env, command, performs⟩
          · obtain ⟨own', owns', agreeOwn⟩ := agree.exists_env owns
            have shown := (inView line own found (.inl owns)).1
            have owns' : other.env? = some own' := owns'
            have found' : other.program.line? other.position = some line := found
            have choice' := (agreeOwn.choose_eq shown read).trans choice
            rw [step_eq_perform found, step_eq_perform found', perform_unchosen owns read choice,
              perform_unchosen owns' read choice']
            exact .done (same.follow line .next)
          · obtain ⟨env', performs', agreeEnv⟩ := same.performs inView found performs
            obtain ⟨shown, loops⟩ := inView line env found (.inr ⟨id, command, performs⟩)
            rw [performs.step_eq found, performs'.step_eq found]
            refine Turn.Related.map ?_ fun _ _ => same.settleAt performs.get? line
            refine Command.run_alike agreeEnv (shown.mono performs.tokens_subset) ?_ _
            exact fun loop top => loops loop (List.mem_of_head? top)

/-- A step writes nothing out of view. -/
theorem InView.sameBeyond {interpreter : Interpreter} (inView : interpreter.InView view)
    {progress : Progress} (yields : interpreter.step.Yields progress)
    : interpreter.roster.SameBeyond view progress.interpreter.roster := by
  rcases step_cases interpreter with
    ⟨idle, position, done, same⟩ | ⟨line, id, env, command, found, performs⟩
  · rw [done] at yields
    cases yields
    rw [same]
    exact .refl view interpreter.roster
  · rw [performs.step_eq found] at yields
    obtain ⟨outcome, ran, rfl⟩ := yields.of_map
    obtain ⟨position, settled⟩ := settleAt_interpreter interpreter id line outcome
    obtain ⟨shown, loops⟩ := inView line env found (.inr ⟨id, command, performs⟩)
    rw [settled]
    refine .set performs.get? ?_
    refine (Command.run_writes ran).sameBeyond (shown.mono performs.tokens_subset) ?_
    exact fun loop top => loops loop (List.mem_of_head? top)

/-- A report tells nothing of the store. -/
theorem Alike.report_eq (alike : left.Alike view right) (error : Error)
    : right.report error = left.report error := by
  obtain @⟨roster, agree⟩ := alike
  have told : { left with roster }.particulars = left.particulars := by
    unfold particulars env?
    have related := agree left.id
    dsimp only
    generalize left.roster.get? left.id = found at related
    generalize roster.get? left.id = found' at related
    cases related with
    | none => rfl
    | some agree => simp only [agree.name, agree.scope, agree.loops, agree.calls]
  rw [report, report, told]

end Interpreter

-----------------------------------------------------------------------------------------
-- Executions
-----------------------------------------------------------------------------------------

namespace Task

/-- The execution has just ended because there was no room for a variable. -/
def Crowded : Task → Prop
  | .reporting _ _ error => error.fault = .tooManyVariables
  | .finished _ (.error error) => error.fault = .tooManyVariables
  | _ => False

instance (task : Task) : Decidable task.Crowded :=
  match task with
  | .reporting _ _ error => inferInstanceAs (Decidable (error.fault = _))
  | .finished _ (.error error) => inferInstanceAs (Decidable (error.fault = _))
  | .rejected _ | .executing _ _ | .finished _ (.ok _) => isFalse id

/-- The tasks are in the same phase, and their interpreters are alike. -/
inductive Alike (view : View) : Task → Task → Prop
  | rejected (error : Error) : Alike view (.rejected error) (.rejected error)
  | executing {left right : Interpreter} (alike : left.Alike view right) (policy : ErrorPolicy)
    : Alike view (.executing left policy) (.executing right policy)
  | reporting {left right : Interpreter} (alike : left.Alike view right) (policy : ErrorPolicy)
    (error : Error)
    : Alike view (.reporting left policy error) (.reporting right policy error)
  | finished {left right : Interpreter} (alike : left.Alike view right)
    (result : Except Error Transfer)
    : Alike view (.finished (some left) result) (.finished (some right) result)
  | unread (result : Except Error Transfer)
    : Alike view (.finished none result) (.finished none result)

theorem Alike.isFinished_eq {left right : Task} (alike : left.Alike view right)
    : right.isFinished = left.isFinished := by
  cases alike <;> rfl

/-- What has no room for a variable is crowded under every policy. -/
theorem crowded_ofProgress {progress : Progress} (crowded : progress.Crowded)
    (policy : ErrorPolicy)
    : (ofProgress policy progress).Crowded := by
  cases progress with
  | running interpreter => exact crowded.elim
  | finished interpreter result =>
      cases result with
      | ok transfer => exact crowded.elim
      | error error => cases policy <;> exact crowded

theorem alike_ofProgress {left right : Progress} (alike : left.Alike view right)
    (policy : ErrorPolicy)
    : (ofProgress policy left).Alike view (ofProgress policy right)
      ∨ (ofProgress policy left).Crowded
      ∨ (ofProgress policy right).Crowded := by
  cases alike with
  | running alike => exact .inl (.executing alike policy)
  | finished alike result =>
      refine .inl ?_
      cases result with
      | ok transfer => exact .finished alike _
      | error error =>
          simp only [ofProgress, conclude]
          split
          · exact .reporting alike policy error
          · exact .finished alike _
  | crowded full =>
      exact .inr (full.imp (crowded_ofProgress · policy) (crowded_ofProgress · policy))

/-- All that the next line may look up is in view, if there is a next line. -/
def InView (task : Task) (view : View) : Prop :=
  ∀ interpreter policy, task = .executing interpreter policy → interpreter.InView view

/-- A turn makes the same request in both tasks, and they are alike after it, or crowded. -/
theorem Alike.turn {left right : Task} (alike : left.Alike view right) (inView : left.InView view)
    : Turn.Related
        (fun left right => left.Alike view right ∨ left.Crowded ∨ right.Crowded)
        left.turn right.turn := by
  cases alike with
  | rejected error => exact .ask fun _ => .inl (.unread _)
  | executing alike policy =>
      refine (alike.step (inView _ policy rfl)).map fun _ _ alike => ?_
      exact alike_ofProgress alike policy
  | reporting alike policy error =>
      simp only [Task.turn]
      rw [alike.report_eq]
      exact .ask fun _ => .inl (.finished alike _)
  | finished alike result => exact .done (.inl (.finished alike result))
  | unread result => exact .done (.inl (.unread result))

end Task

namespace World

variable {σ : Type} {left right : World σ}

/-- The same has passed between the tasks and their hosts, and the tasks are alike. -/
structure Alike (view : View) (left right : World σ) : Prop where
  history : SameHistory left right
  task : left.task.Alike view right.task

/-- Executions that are alike stay alike, by induction on the turns, as long as all that they look
up is in view and there is room for every variable.
-/
theorem Alike.later (alike : left.Alike view right) (host : Responder σ) (turns : Nat)
    (inView : ∀ earlier < turns, (advanceBy host earlier left).task.InView view)
    (room
      : ∀ earlier ≤ turns,
          ¬ (advanceBy host earlier left).task.Crowded
          ∧ ¬ (advanceBy host earlier right).task.Crowded)
    : (advanceBy host turns left).Alike view (advanceBy host turns right) := by
  induction turns with
  | zero => exact alike
  | succ turns ih =>
      have before :=
        ih (fun earlier bound => inView earlier (by omega))
          fun earlier bound => room earlier (by omega)
      have turn := before.task.turn (inView turns (Nat.lt_succ_self turns))
      obtain ⟨history, related⟩ := before.history.advance turn host
      obtain ⟨room, room'⟩ := room (turns + 1) (Nat.le_refl _)
      rw [advanceBy_succ] at room room' ⊢
      rw [advanceBy_succ]
      rcases related with alike | crowded | crowded
      · exact ⟨history, alike⟩
      · exact absurd crowded room
      · exact absurd crowded room'

/-- An execution writes nothing out of view, by induction on the turns. -/
theorem sameBeyond_advanceBy {start : Interpreter} {policy : ErrorPolicy} {world : World σ}
    (task : world.task = .executing start policy) (host : Responder σ) (turns : Nat)
    (inView : ∀ earlier < turns, (advanceBy host earlier world).task.InView view)
    : ∃ after,
        (advanceBy host turns world).task.interpreter? = some after
        ∧ start.roster.SameBeyond view after.roster := by
  induction turns with
  | zero =>
      refine ⟨start, ?_, .refl view start.roster⟩
      rw [advanceBy, task]
      rfl
  | succ turns ih =>
      obtain ⟨before, reached, same⟩ := ih fun earlier bound => inView earlier (by omega)
      have inView := inView turns (Nat.lt_succ_self turns)
      have yields := advance_yields host (advanceBy host turns world)
      rw [advanceBy_succ]
      generalize (advanceBy host turns world).task = task at reached inView yields
      generalize (World.advance host _).task = later at yields
      cases task with
      | rejected error => cases reached
      | executing interpreter policy =>
          cases reached
          obtain ⟨progress, stepped, rfl⟩ := yields.of_map
          refine ⟨progress.interpreter, Task.interpreter?_ofProgress policy progress, ?_⟩
          exact same.trans ((inView before policy rfl).sameBeyond stepped)
      | reporting interpreter policy error =>
          cases yields
          exact ⟨before, reached, same⟩
      | finished interpreter result =>
          cases yields
          exact ⟨before, reached, same⟩

end World

end Gosub
