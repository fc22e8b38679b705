import Gosub.Proofs.Environment.Views
import Gosub.Proofs.Machine.Histories

/-! Commands in view. A command whose names are all in view makes the same request and comes to the
same end in environments that agree on the view, and they agree on it afterwards. What is not in
view takes part in one thing only: it counts for the limit of the variables.
-/

namespace Gosub

variable {view : View}

-----------------------------------------------------------------------------------------
-- Changes and outcomes side by side
-----------------------------------------------------------------------------------------

/-- The changes lead to environments that agree, or fail with the same fault, unless one of them
finds no room for a variable.
-/
inductive Environment.ChangesAlike (view : View)
    : Except Fault Environment → Except Fault Environment → Prop
  | done {left right : Environment} (agree : left.AgreeOn view right)
    : ChangesAlike view (.ok left) (.ok right)
  | failed (fault : Fault) : ChangesAlike view (.error fault) (.error fault)
  | crowded {left right : Except Fault Environment}
    (full : left = .error .tooManyVariables ∨ right = .error .tooManyVariables)
    : ChangesAlike view left right

/-- The outcomes leave environments that agree, and go on or fail in the same way, unless one of
them finds no room for a variable.
-/
inductive Outcome.Alike (view : View) (left right : Outcome) : Prop
  | agreed (env : left.env.AgreeOn view right.env) (transfer : right.transfer = left.transfer)
  | crowded
    (full
      : left.transfer = .error .tooManyVariables ∨ right.transfer = .error .tooManyVariables)

namespace Environment

/-- Changes that are alike may be followed by such changes. -/
theorem ChangesAlike.andThen {change change' : Except Fault Environment}
    {next next' : Environment → Except Fault Environment} (alike : ChangesAlike view change change')
    (follows
      : ∀ left right : Environment,
          left.AgreeOn view right → ChangesAlike view (next left) (next' right))
    : ChangesAlike view (change >>= next) (change' >>= next') := by
  cases alike with
  | done agree => exact follows _ _ agree
  | failed fault => exact .failed fault
  | crowded full => exact .crowded (full.imp (by rintro rfl; rfl) (by rintro rfl; rfl))

/-- What is computed from the view is the same for both changes. -/
theorem ChangesAlike.bind {α : Type} {computed computed' : Except Fault α}
    {next next' : α → Except Fault Environment} (same : computed' = computed)
    (alike : ∀ value, ChangesAlike view (next value) (next' value))
    : ChangesAlike view (computed >>= next) (computed' >>= next') := by
  subst same
  cases computed' with
  | error fault => exact .failed fault
  | ok value => exact alike value

namespace AgreeOn

variable {left right : Environment}

/-- Stores that agree keep their environments in agreement. -/
theorem withStore (agree : left.AgreeOn view right) {store store' : Store}
    (same : store.AgreeOn view store')
    : AgreeOn view { left with store } { right with store := store' } :=
  ⟨agree.name, agree.scope, agree.calls, agree.loops, same⟩

/-- Any variable may be assigned, be it in view or not. -/
theorem assign (agree : left.AgreeOn view right) (name : String) (value : Value)
    : ChangesAlike view (left.assign name value) (right.assign name value) := by
  unfold Environment.assign
  rw [agree.qualify_eq]
  cases stored : left.store.assign (left.qualify name) value.typed with
  | error fault =>
      obtain rfl := Store.assign_eq_error stored
      exact .crowded (.inl rfl)
  | ok store =>
      cases stored' : right.store.assign (left.qualify name) value.typed with
      | error fault =>
          obtain rfl := Store.assign_eq_error stored'
          exact .crowded (.inr rfl)
      | ok store' =>
          obtain rfl := Store.assign_eq_ok stored
          obtain rfl := Store.assign_eq_ok stored'
          exact .done (agree.withStore (agree.store.insert _ _))

theorem erase (agree : left.AgreeOn view right) (name : String)
    : (left.erase name).AgreeOn view (right.erase name) := by
  unfold Environment.erase
  rw [agree.qualify_eq]
  exact agree.withStore (agree.store.erase _)

/-- Any array may be declared, be it in view or not. -/
theorem declare (agree : left.AgreeOn view right) (name : String) (dimension : Nat)
    : ChangesAlike view (left.declare name dimension) (right.declare name dimension) := by
  unfold Environment.declare Store.declare
  rw [agree.qualify_eq]
  split
  · exact .failed _
  · exact .done (agree.withStore (agree.store.insertArray _ ⟨rfl, fun _ => rfl⟩))

theorem assignCell (agree : left.AgreeOn view right) {name : String}
    (shown : view.arrays (left.qualify name)) (indices : List Value) (value : Value)
    : ChangesAlike view (left.assignCell name indices value)
        (right.assignCell name indices value) := by
  unfold Environment.assignCell Store.assignCell
  rw [agree.qualify_eq]
  rcases agree.store.locate_cases shown indices with
    ⟨fault, failed, failed'⟩ | ⟨table, table', place, located, located', same⟩
  · rw [failed, failed']
    exact .failed fault
  · rw [located, located']
    refine .done (agree.withStore (agree.store.insertArray _ ⟨same.dimension, fun other => ?_⟩))
    rw [Std.TreeMap.getElem?_insert, Std.TreeMap.getElem?_insert, same.cells]

end AgreeOn

end Environment

namespace Outcome.Alike

variable {left right : Environment}

theorem fail (agree : left.AgreeOn view right) (fault : Fault)
    : Alike view (.fail left fault) (.fail right fault) :=
  .agreed agree rfl

theorem next (agree : left.AgreeOn view right) : Alike view (.next left) (.next right) :=
  .agreed agree rfl

/-- A change that fails leaves the environments as they were; otherwise the outcome is that of what
follows.
-/
theorem afterChange (agree : left.AgreeOn view right) (change change' : Except Fault Environment)
    (next next' : Environment → Outcome)
    : Environment.ChangesAlike view change change'
      → (∀ env env', change = .ok env → env.AgreeOn view env' → Alike view (next env) (next' env'))
      → Alike view
          (match change with
            | .error fault => .fail left fault
            | .ok env => next env)
          (match change' with
            | .error fault => .fail right fault
            | .ok env => next' env) := by
  intro alike follows
  cases alike with
  | done agree => exact follows _ _ rfl agree
  | failed fault => exact .fail agree fault
  | crowded full => exact .crowded (full.imp (by rintro rfl; rfl) (by rintro rfl; rfl))

theorem ofChange (agree : left.AgreeOn view right) {change change' : Except Fault Environment}
    (alike : Environment.ChangesAlike view change change')
    : Alike view (.ofChange left change) (.ofChange right change') := by
  cases alike with
  | done agree => exact .next agree
  | failed fault => exact .fail agree fault
  | crowded full => exact .crowded (full.imp (by rintro rfl; rfl) (by rintro rfl; rfl))

end Outcome.Alike

-----------------------------------------------------------------------------------------
-- Stacks
-----------------------------------------------------------------------------------------

namespace Environment.AgreeOn

variable {left right : Environment}

theorem withCalls (agree : left.AgreeOn view right) (change : BoundedStack Nat → BoundedStack Nat)
    : AgreeOn view { left with calls := change left.calls }
        { right with calls := change right.calls } :=
  ⟨agree.name, agree.scope, congrArg change agree.calls, agree.loops, agree.store⟩

theorem withLoops (agree : left.AgreeOn view right)
    (change : BoundedStack Loop → BoundedStack Loop)
    : AgreeOn view { left with loops := change left.loops }
        { right with loops := change right.loops } :=
  ⟨agree.name, agree.scope, agree.calls, congrArg change agree.loops, agree.store⟩

theorem enterSubroutine (agree : left.AgreeOn view right) (position number : Nat)
    : Outcome.Alike view (left.enterSubroutine position number)
        (right.enterSubroutine position number) := by
  refine .agreed (agree.withCalls (·.push position)) ?_
  simp only [Environment.enterSubroutine, pushCall, agree.calls]

theorem leaveSubroutine (agree : left.AgreeOn view right)
    : Outcome.Alike view left.leaveSubroutine right.leaveSubroutine := by
  have popped := agree.withCalls BoundedStack.pop
  unfold Environment.leaveSubroutine
  rw [agree.calls] at popped ⊢
  cases left.calls.top? with
  | none => exact .next agree
  | some position => exact .agreed popped rfl

theorem enterLoop (agree : left.AgreeOn view right) (loop : Loop)
    : Outcome.Alike view (left.enterLoop loop) (right.enterLoop loop) := by
  refine .agreed (agree.withLoops (·.push loop)) ?_
  simp only [Environment.enterLoop, pushLoop, agree.loops]

theorem openLoop (agree : left.AgreeOn view right) (position : Nat) (name : String)
    {start goal : List Token} {step : Option (List Token)}
    (shown : left.ShowsAll view (start ++ (goal ++ step.getD [])))
    : Outcome.Alike view (left.openLoop position name start goal step)
        (right.openLoop position name start goal step) := by
  obtain ⟨inStart, inBounds⟩ := List.forall_mem_append.mp shown
  have seeds
      : ChangesAlike view (left.evaluate start >>= left.assign name)
          (right.evaluate start >>= right.assign name) :=
    .bind (agree.evaluate_eq inStart) (agree.assign name)
  refine .afterChange agree _ _ _ _ seeds fun env env' seeded agree' => ?_
  obtain ⟨_, _, assigned⟩ := bind_eq_ok seeded
  obtain ⟨store, _, rfl⟩ := assign_eq_ok assigned
  rw [agree'.loopBounds_eq inBounds]
  split
  · exact .fail agree' _
  · exact agree'.enterLoop _

/-- Going through a loop once more, or leaving it, reads only the variable of the loop. -/
theorem advanceLoop (agree : left.AgreeOn view right) {loop : Loop}
    (shown : view.values (left.qualify loop.name))
    : Outcome.Alike view (left.advanceLoop loop) (right.advanceLoop loop) := by
  have value : right.loopValue loop = left.loopValue loop := by
    rw [loopValue, loopValue, agree.fetch_eq shown]
  unfold Environment.advanceLoop
  rw [value]
  cases left.loopValue loop with
  | error fault => exact .fail agree fault
  | ok x =>
      dsimp only
      split
      · exact .next ((agree.withLoops BoundedStack.pop).erase loop.name)
      · refine .afterChange agree _ _ _ _ (agree.assign loop.name _) fun _ _ _ agree' => ?_
        exact .agreed agree' rfl

theorem closeLoop (agree : left.AgreeOn view right) (written : Option String)
    (shown : ∀ loop ∈ left.loops.top?, view.values (left.qualify loop.name))
    : Outcome.Alike view (left.closeLoop written) (right.closeLoop written) := by
  have iterate {loop : Loop} (shown : view.values (left.qualify loop.name))
      : Outcome.Alike view (left.iterate loop) (right.iterate loop) := by
    have counting := agree.withLoops (·.replaceTop loop.counted)
    unfold Environment.iterate countIteration
    cases loop.counted.check with
    | error fault => exact .fail counting fault
    | ok => exact counting.advanceLoop shown
  unfold Environment.closeLoop
  rw [agree.loops]
  cases top : left.loops.top? with
  | none => exact .fail agree _
  | some loop =>
      have shown := shown loop top
      cases written with
      | none => exact iterate shown
      | some name =>
          dsimp only
          split
          · exact iterate shown
          · exact .fail agree _

end Environment.AgreeOn

-----------------------------------------------------------------------------------------
-- Commands
-----------------------------------------------------------------------------------------

/-- A command whose names are in view, and the variable of the innermost loop with them, takes the
same turn in both environments. By cases on the command.
-/
theorem Command.run_alike {left right : Environment} (agree : left.AgreeOn view right)
    {command : Command} (shown : left.ShowsAll view command.tokens)
    (looping : ∀ loop ∈ left.loops.top?, view.values (left.qualify loop.name)) (position : Nat)
    : Turn.Related (Outcome.Alike view) (command.run position left) (command.run position right)
    := by
  cases command with
  | skip => exact .done (.next agree)
  | refuse fault => exact .done (.fail agree fault)
  | halt => exact .done (.agreed agree rfl)
  | print expression =>
      have inside : left.ShowsAll view expression := shown
      simp only [run, agree.evaluate_eq inside]
      cases left.evaluate expression with
      | error fault => exact .done (.fail agree fault)
      | ok value => exact .ask fun _ => .next agree
  | assign name expression =>
      have inside := agree.evaluate_eq (List.forall_mem_cons.mp shown).2
      exact .done (.ofChange agree (.bind inside (agree.assign name)))
  | assignCell name indices expression =>
      obtain ⟨array, inside⟩ := List.forall_mem_cons.mp shown
      obtain ⟨inIndices, inExpression⟩ := List.forall_mem_append.mp inside
      refine .done (.ofChange agree (.bind (agree.evaluateAll_eq inIndices) fun values => ?_))
      exact .bind (agree.evaluate_eq inExpression) (agree.assignCell array values)
  | declare name dimension =>
      refine .done (.ofChange agree ?_)
      cases dimension with
      | none => exact agree.declare name 1
      | some expression =>
          have inside := agree.evaluate_eq (List.forall_mem_cons.mp shown).2
          exact .bind inside fun value => .bind rfl (agree.declare name)
  | input prompt name =>
      simp only [run, agree.evaluate_eq (List.forall_mem_cons.mp shown).2]
      cases left.evaluate prompt with
      | error fault => exact .done (.fail agree fault)
      | ok value => exact .ask fun reply => .ofChange agree (agree.assign name (.text reply))
  | goto target =>
      have inside : left.ShowsAll view target := shown
      simp only [run, agree.lineTarget_eq inside]
      exact .done (.agreed agree rfl)
  | gosub target =>
      have inside : left.ShowsAll view target := shown
      simp only [run, agree.lineTarget_eq inside]
      cases left.lineTarget target with
      | error fault => exact .done (.fail agree fault)
      | ok number => exact .done (agree.enterSubroutine position number)
  | goBack => exact .done agree.leaveSubroutine
  | setScope expression =>
      refine .done (.ofChange agree (.bind (agree.evaluate_eq shown) fun value => ?_))
      exact .done ⟨agree.name, rfl, agree.calls, agree.loops, agree.store⟩
  | readClock reading => exact .ask fun millis => .ofChange agree (agree.assign _ _)
  | load path name =>
      simp only [run, agree.evaluate_eq (List.forall_mem_cons.mp shown).2]
      cases left.evaluate path with
      | error fault => exact .done (.fail agree fault)
      | ok value =>
          refine .ask fun answer => ?_
          cases answer with
          | error reason => exact .next agree
          | ok loaded => exact .ofChange agree (agree.assign name loaded)
  | publish name =>
      have inView : left.Shows view (.name name) := shown _ List.mem_cons_self
      simp only [run, agree.fetch_eq inView.1]
      cases left.fetch name with
      | error fault => exact .done (.fail agree fault)
      | ok value =>
          dsimp only
          rw [agree.qualify_eq]
          exact .ask fun _ => .next agree
  | pause seconds =>
      have inside : left.ShowsAll view seconds := shown
      simp only [run, agree.evaluateNumber_eq inside]
      cases left.evaluateNumber seconds "PAUSE" with
      | error fault => exact .done (.fail agree fault)
      | ok x => exact .ask fun _ => .next agree
  | openLoop name start goal step =>
      exact .done (agree.openLoop position name (List.forall_mem_cons.mp shown).2)
  | closeLoop written => exact .done (agree.closeLoop written looping)

-----------------------------------------------------------------------------------------
-- What is out of view
-----------------------------------------------------------------------------------------

theorem Command.assigned?_mem_tokens {command : Command} {name : String}
    (target : command.assigned? = some name)
    : .name name ∈ command.tokens := by
  cases command with
  | assign | input | load | openLoop | readClock =>
      cases target
      exact List.mem_cons_self
  | _ => cases target

theorem Command.declared?_mem_tokens {command : Command} {name : String}
    (target : command.declared? = some name)
    : .name name ∈ command.tokens := by
  cases command with
  | declare =>
      cases target
      exact List.mem_cons_self
  | _ => cases target

/-- A command whose names are in view writes nothing out of view. -/
theorem Command.Writes.sameBeyond {command : Command} {env : Environment} {store : Store}
    (writes : command.Writes env store) (shown : env.ShowsAll view command.tokens)
    (looping : ∀ loop ∈ env.loops.top?, view.values (env.qualify loop.name))
    : env.store.SameBeyond view store := by
  cases writes with
  | nothing => exact .refl view env.store
  | assigned target done =>
      obtain rfl := Store.assign_eq_ok done
      have inView : env.Shows view (.name _) := shown _ (assigned?_mem_tokens target)
      exact .insert inView.1 _
  | declared target done =>
      obtain rfl := Store.declare_eq_ok done
      have inView : env.Shows view (.name _) := shown _ (declared?_mem_tokens target)
      exact .insertArray inView.2 _
  | cell done =>
      obtain ⟨_, after, _, rfl⟩ := Store.assignCell_eq_ok done
      have inView : env.Shows view (.indexed _) := shown _ List.mem_cons_self
      exact .insertArray inView after
  | advanced top _ done =>
      obtain rfl := Store.assign_eq_ok done
      exact .insert (looping _ top) _
  | forgotten top => exact .erase (looping _ top)

end Gosub
