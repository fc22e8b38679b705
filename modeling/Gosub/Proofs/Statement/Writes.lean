import Gosub.Proofs.Environment.Memory

/-! What commands write. A command leaves the store as it is, or it writes under one name: it gives
a value to a variable, declares an array, or gives a value to a cell. A `NEXT` writes to the
variable of the innermost loop, under the name that it has at that time.
-/

namespace Gosub

-----------------------------------------------------------------------------------------
-- Writing to a store
-----------------------------------------------------------------------------------------

namespace Store

variable {store changed : Store} {name : String}

theorem assign_eq_ok {value : Value} (done : store.assign name value = .ok changed)
    : changed = { store with values := store.values.insert name value } := by
  unfold assign at done
  split at done
  · cases done
  · exact (Except.ok.inj done).symm

/-- An assignment fails only where there is no room for a new variable. -/
theorem assign_eq_error {value : Value} {fault : Fault}
    (failed : store.assign name value = .error fault)
    : fault = .tooManyVariables := by
  unfold assign at failed
  split at failed
  · exact (Except.error.inj failed).symm
  · cases failed

theorem declare_eq_ok {dimension : Nat} (done : store.declare name dimension = .ok changed)
    : changed = { store with arrays := store.arrays.insert name { dimension, cells := ∅ } } := by
  unfold declare at done
  split at done
  · cases done
  · exact (Except.ok.inj done).symm

/-- A cell is written only in an array that is declared. -/
theorem assignCell_eq_ok {indices : List Value} {value : Value}
    (done : store.assignCell name indices value = .ok changed)
    : ∃ table after : Table,
        store.arrays[name]? = some table
        ∧ changed = { store with arrays := store.arrays.insert name after } := by
  obtain ⟨⟨table, key⟩, located, done⟩ := bind_eq_ok done
  exact ⟨table, _, array_of_locate located, (Except.ok.inj done).symm⟩

end Store

-----------------------------------------------------------------------------------------
-- Loops that are opened and closed with success
-----------------------------------------------------------------------------------------

namespace Environment

variable {env : Environment}

theorem assign_eq_error {name : String} {value : Value} {fault : Fault}
    (failed : env.assign name value = .error fault)
    : fault = .tooManyVariables := by
  unfold assign at failed
  cases stored : env.store.assign (env.qualify name) value.typed with
  | error fault' =>
      rw [stored] at failed
      cases failed
      exact Store.assign_eq_error stored
  | ok store =>
      rw [stored] at failed
      cases failed

/-- A `FOR` that succeeds stores its start value and puts the loop on the stack, under the name as
it is written.
-/
theorem openLoop_eq_ok {position : Nat} {name : String} {start goal : List Token}
    {step : Option (List Token)} {transfer : Transfer}
    (done : (env.openLoop position name start goal step).transfer = .ok transfer)
    : ∃ value seeded last increment,
        env.evaluate start = .ok value
        ∧ env.assign name value = .ok seeded
        ∧ env.openLoop position name start goal step
          = .next
              { seeded with loops := seeded.loops.push ⟨name, last, increment, position, 0⟩ } := by
  unfold openLoop at done ⊢
  split at done
  · cases done
  · rename_i seeded stored
    obtain ⟨value, evaluated, assigned⟩ := bind_eq_ok stored
    split at done
    · cases done
    · rename_i last increment bounded
      refine ⟨value, seeded, last, increment, evaluated, assigned, ?_⟩
      simp only [enterLoop, pushLoop, BoundedStack.check] at done ⊢
      split at done
      · cases done
      · rename_i room
        rw [if_neg room]
        rfl

/-- Going through a loop once more, or leaving it, works on the variable that its name stands for.
-/
theorem advanceLoop_eq_ok {loop : Loop} {transfer : Transfer}
    (done : (env.advanceLoop loop).transfer = .ok transfer)
    : ∃ x,
        env.store.values[env.qualify loop.name]? = some (.number x)
        ∧ ((loop.overshoots x = true
            ∧ env.advanceLoop loop
              = .next ({ env with loops := env.loops.pop }.erase loop.name))
          ∨ (loop.overshoots x = false
            ∧ ∃ changed,
                env.assign loop.name (.number (x + loop.step)) = .ok changed
                ∧ env.advanceLoop loop = ⟨changed, .ok (.resume loop.anchor)⟩)) := by
  unfold advanceLoop at done ⊢
  split at done
  · cases done
  · rename_i x valued
    obtain ⟨held, fetched, numbered⟩ := bind_eq_ok valued
    cases held with
    | text s => cases numbered
    | number y =>
        cases numbered
        refine ⟨x, Store.fetch_eq_ok.mp fetched, ?_⟩
        cases beyond : loop.overshoots x with
        | true => exact .inl ⟨rfl, if_pos rfl⟩
        | false =>
            refine .inr ⟨rfl, ?_⟩
            simp only [beyond, Bool.false_eq_true, if_false] at done ⊢
            split at done
            · cases done
            · rename_i changed assigned
              exact ⟨changed, assigned, rfl⟩

/-- A `NEXT` that succeeds has counted an iteration of the innermost loop and goes through it once
more, or leaves it.
-/
theorem closeLoop_eq_ok {written : Option String} {transfer : Transfer}
    (done : (env.closeLoop written).transfer = .ok transfer)
    : ∃ loop,
        env.loops.top? = some loop
        ∧ env.closeLoop written = (env.counting loop).advanceLoop loop := by
  have iterated {loop : Loop} (done : (env.iterate loop).transfer = .ok transfer)
      : env.iterate loop = (env.counting loop).advanceLoop loop := by
    rcases Nat.lt_or_ge maxIterations (loop.count + 1) with spent | room
    · rw [env.iterate_of_spent spent] at done
      cases done
    · exact env.iterate_of_room room
  unfold closeLoop at done ⊢
  split at done
  · cases done
  · rename_i loop top
    refine ⟨loop, top, ?_⟩
    cases written with
    | none => exact iterated done
    | some given =>
        dsimp only at done ⊢
        split at done
        · rename_i same
          rw [if_pos same]
          exact iterated done
        · cases done

end Environment

-----------------------------------------------------------------------------------------
-- What a command leaves of the store
-----------------------------------------------------------------------------------------

namespace Command

/-- The variable that a command gives a value. The variable of a `NEXT` is told by its loop and not
by the command.
-/
def assigned? : Command → Option String
  | .assign name _ | .input _ name | .load _ name | .openLoop name _ _ _ => some name
  | .readClock reading => some reading.name
  | _ => none

/-- The array that a command declares. -/
def declared? : Command → Option String
  | .declare name _ => some name
  | _ => none

/-- The store that a command can leave behind, whether it succeeds or fails: the store as it was, or
with one thing written under one name.
-/
inductive Writes (env : Environment) : Command → Store → Prop
  | nothing {command : Command} : Writes env command env.store
  | assigned {command : Command} {name : String} {value : Value} {store : Store}
    (target : command.assigned? = some name)
    (done : env.store.assign (env.qualify name) value = .ok store)
    : Writes env command store
  | declared {command : Command} {name : String} {dimension : Nat} {store : Store}
    (target : command.declared? = some name)
    (done : env.store.declare (env.qualify name) dimension = .ok store)
    : Writes env command store
  | cell {name : String} {groups : List (List Token)} {expression : List Token}
    {indices : List Value} {value : Value} {store : Store}
    (done : env.store.assignCell (env.qualify name) indices value = .ok store)
    : Writes env (.assignCell name groups expression) store
  | advanced {written : Option String} {loop : Loop} {value : Value} {store : Store}
    (top : env.loops.top? = some loop) (held : env.qualify loop.name ∈ env.store.values)
    (done : env.store.assign (env.qualify loop.name) value = .ok store)
    : Writes env (.closeLoop written) store
  | forgotten {written : Option String} {loop : Loop} (top : env.loops.top? = some loop)
    : Writes env (.closeLoop written) (env.store.erase (env.qualify loop.name))

namespace Writes

variable {env : Environment} {command : Command}

/-- A change that may fail writes only where it does not. -/
theorem ofChange {change : Except Fault Environment}
    (writes : ∀ changed, change = .ok changed → command.Writes env changed.store)
    : command.Writes env (Outcome.ofChange env change).env.store := by
  cases result : change with
  | error fault => exact .nothing
  | ok changed => exact writes changed result

theorem ofAssign {name : String} {value : Value} {changed : Environment}
    (target : command.assigned? = some name) (done : env.assign name value = .ok changed)
    : command.Writes env changed.store := by
  obtain ⟨store, stored, rfl⟩ := Environment.assign_eq_ok done
  exact .assigned target stored

/-- A `FOR` writes its start value, even where it fails for its bounds or for want of room. -/
theorem ofOpen (position : Nat) (name : String) (start goal : List Token)
    (step : Option (List Token))
    : (Command.openLoop name start goal step).Writes env
        (env.openLoop position name start goal step).env.store := by
  unfold Environment.openLoop
  split
  · exact .nothing
  · rename_i seeded stored
    obtain ⟨_, _, assigned⟩ := bind_eq_ok stored
    have written : (Command.openLoop name start goal step).Writes env seeded.store :=
      ofAssign rfl assigned
    split
    · exact written
    · exact written

/-- A `NEXT` that fails writes nothing. -/
theorem ofClose (written : Option String)
    : (Command.closeLoop written).Writes env (env.closeLoop written).env.store := by
  cases result : (env.closeLoop written).transfer with
  | error fault =>
      have effect : (Command.closeLoop written).Effect 0 env (env.closeLoop written) :=
        .ofClose written
      generalize env.closeLoop written = outcome at effect result ⊢
      cases effect with
      | failed | runaway | stalled => exact .nothing
      | idle plain | change plain => cases plain
      | finished | repeated => cases result
  | ok transfer =>
      obtain ⟨loop, top, same⟩ := Environment.closeLoop_eq_ok result
      rw [same] at result ⊢
      obtain ⟨x, held, ⟨_, left⟩ | ⟨_, changed, assigned, again⟩⟩ :=
        Environment.advanceLoop_eq_ok result
      · rw [left]
        exact .forgotten top
      · rw [again]
        obtain ⟨store, stored, rfl⟩ := Environment.assign_eq_ok assigned
        have held : env.store.values[env.qualify loop.name]? = some (.number x) := held
        exact .advanced top (Std.TreeMap.mem_iff_isSome_getElem?.mpr (by rw [held]; rfl)) stored

end Writes

/-- Every outcome of a command leaves one of these stores, by cases on the command. -/
theorem run_writes {command : Command} {position : Nat} {env : Environment} {outcome : Outcome}
    (yields : (command.run position env).Yields outcome)
    : command.Writes env outcome.env.store := by
  cases command with
  | skip | refuse | halt | goto =>
      cases yields
      exact .nothing
  | print | publish | pause =>
      simp only [run] at yields
      split at yields <;> cases yields <;> exact .nothing
  | assign name expression =>
      cases yields
      refine .ofChange fun changed done => ?_
      obtain ⟨_, _, done⟩ := bind_eq_ok done
      exact .ofAssign rfl done
  | assignCell name indices expression =>
      cases yields
      refine .ofChange fun changed done => ?_
      obtain ⟨_, _, done⟩ := bind_eq_ok done
      obtain ⟨_, _, done⟩ := bind_eq_ok done
      obtain ⟨store, stored, rfl⟩ := map_eq_ok done
      exact .cell stored
  | declare name dimension =>
      cases yields
      refine .ofChange fun changed done => ?_
      obtain ⟨size, done⟩ : ∃ size, env.declare name size = .ok changed := by
        cases dimension with
        | none => exact ⟨1, done⟩
        | some expression =>
            obtain ⟨_, _, done⟩ := bind_eq_ok done
            obtain ⟨size, _, done⟩ := bind_eq_ok done
            exact ⟨size, done⟩
      obtain ⟨store, stored, rfl⟩ := map_eq_ok done
      exact .declared rfl stored
  | input prompt name =>
      simp only [run] at yields
      split at yields
      · cases yields
        exact .nothing
      · cases yields
        exact .ofChange fun _ done => .ofAssign rfl done
  | gosub target =>
      simp only [run] at yields
      split at yields <;> cases yields <;> exact .nothing
  | goBack =>
      cases yields
      unfold Environment.leaveSubroutine
      split <;> exact .nothing
  | setScope expression =>
      cases yields
      refine .ofChange fun changed done => ?_
      obtain ⟨_, _, done⟩ := bind_eq_ok done
      cases done
      exact .nothing
  | readClock reading =>
      cases yields
      exact .ofChange fun _ done => .ofAssign rfl done
  | load path name =>
      simp only [run] at yields
      split at yields
      · cases yields
        exact .nothing
      · cases yields with
        | ask _ answer =>
            dsimp only
            split
            · exact .ofChange fun _ done => .ofAssign rfl done
            · exact .nothing
  | openLoop name start goal step =>
      cases yields
      exact .ofOpen position name start goal step
  | closeLoop written =>
      cases yields
      exact .ofClose written

end Command

end Gosub
