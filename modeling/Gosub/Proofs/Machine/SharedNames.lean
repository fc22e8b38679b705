import Gosub.Machine.Script
import Gosub.Proofs.Environment.Names
import Gosub.Proofs.Machine.Rosters
import Gosub.Proofs.Statement.Writes

/-! Names that are shared. Variables and arrays are kept in two tables that know nothing of each
other, so that one name may come to stand for a variable and for an array. It takes a command that
writes to one table under a name that the other one holds; a program whose variables and arrays have
different names never comes to it.
-/

namespace Gosub

-----------------------------------------------------------------------------------------
-- Commands that write under a name of the other table
-----------------------------------------------------------------------------------------

/-- The name stands for a variable and for an array. -/
def Store.Shares (store : Store) (key : String) : Prop :=
  key ∈ store.values ∧ key ∈ store.arrays

namespace Command

variable {command : Command} {env : Environment} {store : Store} {key : String}

/-- The command gives a value to a variable with the full name of an array, or declares an array
with the full name of a variable, and leaves the store with both.
-/
def Clashes (command : Command) (env : Environment) (store : Store) (key : String) : Prop :=
  (∃ name value,
    command.assigned? = some name
    ∧ env.qualify name = key
    ∧ key ∈ env.store.arrays
    ∧ env.store.assign key value = .ok store)
  ∨ ∃ name dimension,
      command.declared? = some name
      ∧ env.qualify name = key
      ∧ key ∈ env.store.values
      ∧ env.store.declare key dimension = .ok store

theorem Clashes.shares (clashes : command.Clashes env store key) : store.Shares key := by
  rcases clashes with ⟨_, _, _, _, held, done⟩ | ⟨_, _, _, _, held, done⟩
  · obtain rfl := Store.assign_eq_ok done
    exact ⟨Std.TreeMap.mem_insert_self, held⟩
  · obtain rfl := Store.declare_eq_ok done
    exact ⟨held, Std.TreeMap.mem_insert_self⟩

/-- A variable that is there after a command was there before, or the command gave it its value. -/
theorem Writes.values_cases (writes : command.Writes env store) (held : key ∈ store.values)
    : key ∈ env.store.values
      ∨ ∃ name value,
          command.assigned? = some name
          ∧ env.qualify name = key
          ∧ env.store.assign key value = .ok store := by
  cases writes with
  | nothing => exact .inl held
  | @assigned _ name value _ target done =>
      have after := Store.assign_eq_ok done
      rw [after] at held
      rcases Std.TreeMap.mem_insert.mp held with same | held
      · obtain rfl := Std.LawfulEqCmp.eq_of_compare same
        exact .inr ⟨name, value, target, rfl, done⟩
      · exact .inl held
  | declared _ done =>
      obtain rfl := Store.declare_eq_ok done
      exact .inl held
  | cell done =>
      obtain ⟨_, _, _, rfl⟩ := Store.assignCell_eq_ok done
      exact .inl held
  | advanced _ already done =>
      obtain rfl := Store.assign_eq_ok done
      rcases Std.TreeMap.mem_insert.mp held with same | held
      · rw [← Std.LawfulEqCmp.eq_of_compare same]
        exact .inl already
      · exact .inl held
  | forgotten => exact .inl (Std.TreeMap.mem_of_mem_erase held)

/-- An array that is there after a command was there before, or the command declared it. -/
theorem Writes.arrays_cases (writes : command.Writes env store) (held : key ∈ store.arrays)
    : key ∈ env.store.arrays
      ∨ ∃ name dimension,
          command.declared? = some name
          ∧ env.qualify name = key
          ∧ env.store.declare key dimension = .ok store := by
  cases writes with
  | nothing | forgotten => exact .inl held
  | assigned _ done | advanced _ _ done =>
      obtain rfl := Store.assign_eq_ok done
      exact .inl held
  | @declared _ name dimension _ target done =>
      have after := Store.declare_eq_ok done
      rw [after] at held
      rcases Std.TreeMap.mem_insert.mp held with same | held
      · obtain rfl := Std.LawfulEqCmp.eq_of_compare same
        exact .inr ⟨name, dimension, target, rfl, done⟩
      · exact .inl held
  | cell done =>
      obtain ⟨_, _, already, rfl⟩ := Store.assignCell_eq_ok done
      rcases Std.TreeMap.mem_insert.mp held with same | held
      · rw [← Std.LawfulEqCmp.eq_of_compare same]
        exact .inl (Std.TreeMap.mem_iff_isSome_getElem?.mpr (by rw [already]; rfl))
      · exact .inl held

/-- No command both gives a value to a variable and declares an array. -/
theorem declared?_eq_none {name : String} (target : command.assigned? = some name)
    : command.declared? = none := by
  cases command <;> first | rfl | cases target

/-- A name comes to be shared only by a command that clashes on it. -/
theorem Writes.clashes (writes : command.Writes env store) (shared : store.Shares key)
    (apart : ¬ env.store.Shares key)
    : command.Clashes env store key := by
  rcases writes.values_cases shared.1 with held | ⟨name, value, assigned, same, done⟩
  · rcases writes.arrays_cases shared.2 with held' | ⟨name, dimension, declared, same, done⟩
    · exact absurd ⟨held, held'⟩ apart
    · exact .inr ⟨name, dimension, declared, same, held, done⟩
  · rcases writes.arrays_cases shared.2 with held' | ⟨_, _, declared, _⟩
    · exact .inl ⟨name, value, assigned, same, held', done⟩
    · rw [declared?_eq_none assigned] at declared
      cases declared

end Command

-----------------------------------------------------------------------------------------
-- Names that a program gives out
-----------------------------------------------------------------------------------------

/-- A line of the program may come down to the command. -/
def Program.Offers (program : Program) (command : Command) : Prop :=
  ∃ line ∈ program.lines, ∃ env : Environment, env.commandOf line.tokens = command

/-- The name of a variable that the program may give a value, or of an initial one. -/
def Program.GivesVariable (program : Program) (initial : List (String × Value)) (name : String)
    : Prop :=
  (∃ command, program.Offers command ∧ command.assigned? = some name)
  ∨ name ∈ initial.map Prod.fst

/-- The name of an array that the program may declare. -/
def Program.GivesArray (program : Program) (name : String) : Prop :=
  ∃ command, program.Offers command ∧ command.declared? = some name

/-- No variable has the last part of its name in common with an array. -/
def Program.KeepsApart (program : Program) (initial : List (String × Value)) : Prop :=
  ∀ name array,
    program.GivesVariable initial name
    → program.GivesArray array
    → localPart name ≠ localPart array

/-- Every variable and every array has its name from the program or from the initial variables, up
to the namespace.
-/
structure Environment.NamedBy (env : Environment) (program : Program)
    (initial : List (String × Value))
    : Prop where
  values
    : ∀ key ∈ env.store.values,
        ∃ name, program.GivesVariable initial name ∧ localPart key = localPart name
  arrays
    : ∀ key ∈ env.store.arrays,
        ∃ name, program.GivesArray name ∧ localPart key = localPart name

namespace Environment

variable {env : Environment} {program : Program} {initial : List (String × Value)}

/-- Initial variables are stored under their names, and there are no initial arrays. -/
theorem seed_names (env : Environment) (initial : List (String × Value))
    : (∀ key ∈ (env.seed initial).1.store.values,
        key ∈ env.store.values ∨ ∃ name ∈ initial.map Prod.fst, env.qualify name = key)
      ∧ (env.seed initial).1.store.arrays = env.store.arrays := by
  induction initial generalizing env with
  | nil => exact ⟨fun key held => .inl held, rfl⟩
  | cons entry rest ih =>
      obtain ⟨name, value⟩ := entry
      rw [seed]
      cases assigned : env.assign name value with
      | error fault => exact ⟨fun key held => .inl held, rfl⟩
      | ok changed =>
          obtain ⟨store, stored, rfl⟩ := assign_eq_ok assigned
          obtain rfl := Store.assign_eq_ok stored
          obtain ⟨values, arrays⟩ := ih { env with store := _ }
          refine ⟨fun key held => ?_, arrays⟩
          rcases values key held with held | ⟨later, member, same⟩
          · rcases Std.TreeMap.mem_insert.mp held with same | held
            · exact .inr ⟨name, List.mem_cons_self, Std.LawfulEqCmp.eq_of_compare same⟩
            · exact .inl held
          · exact .inr ⟨later, List.mem_cons_of_mem _ member, same⟩

theorem namedBy_seed (program : Program) (name : String) (initial : List (String × Value))
    : (seed { name } initial).1.NamedBy program initial := by
  obtain ⟨values, arrays⟩ := seed_names { name } initial
  constructor
  · intro key held
    rcases values key held with held | ⟨name, member, rfl⟩
    · simp at held
    · exact ⟨name, .inr member, localPart_qualify _ name⟩
  · intro key held
    rw [arrays] at held
    simp at held

theorem NamedBy.run {line : Line} {position : Nat} {outcome : Outcome}
    (named : env.NamedBy program initial) (inside : line ∈ program.lines)
    (yields : ((env.commandOf line.tokens).run position env).Yields outcome)
    : outcome.env.NamedBy program initial := by
  have writes := Command.run_writes yields
  have offers : program.Offers (env.commandOf line.tokens) := ⟨line, inside, env, rfl⟩
  constructor
  · intro key held
    rcases writes.values_cases held with held | ⟨name, _, assigned, rfl, _⟩
    · exact named.values key held
    · exact ⟨name, .inl ⟨_, offers, assigned⟩, env.localPart_qualify name⟩
  · intro key held
    rcases writes.arrays_cases held with held | ⟨name, _, declared, rfl, _⟩
    · exact named.arrays key held
    · exact ⟨name, ⟨_, offers, declared⟩, env.localPart_qualify name⟩

theorem NamedBy.not_shares (named : env.NamedBy program initial)
    (apart : program.KeepsApart initial) (key : String)
    : ¬ env.store.Shares key := by
  rintro ⟨held, held'⟩
  obtain ⟨name, given, same⟩ := named.values key held
  obtain ⟨array, declared, same'⟩ := named.arrays key held'
  exact apart name array given declared (same.symm.trans same')

end Environment

namespace World

variable {σ : Type}

/-- The next turn executes a line that clashes on the name, be it inside conditionals. -/
def Clashes (world : World σ) (host : Responder σ) (key : String) : Prop :=
  ∃ interpreter env line after,
    world.Executes .absorb interpreter env
    ∧ interpreter.program.line? interpreter.position = some line
    ∧ (world.advance host).task.env? = some after
    ∧ (env.commandOf line.tokens).Clashes env after.store key

/-- Names are shared exactly by clashes. A run of a program comes to a state in which a name stands
for a variable and for an array at once just if one of its turns before has given a value to a
variable with the full name of an array, or declared an array with the full name of a variable;
nothing stands against that. A program whose variables and arrays have different names, up to
namespaces, never comes to it.
-/
theorem shared_iff_clash (host : Responder σ) (state : σ) (program : Program)
    (options : RunOptions) (initial : List (String × Value)) (turns : Nat) (key : String)
    : ((∃ point ≤ turns, ∃ env,
        (advanceBy host point
          { task := .ofProgram program options initial, host := state }).task.env? = some env
        ∧ env.store.Shares key)
        ↔ ∃ earlier < turns,
            (advanceBy host earlier
              { task := .ofProgram program options initial, host := state }).Clashes host key)
      ∧ (program.KeepsApart initial
        → ∀ env,
            (advanceBy host turns
              { task := .ofProgram program options initial, host := state }).task.env? = some env
            → ¬ env.store.Shares key) := by
  refine ⟨⟨?_, ?_⟩, ?_⟩
  · rintro ⟨point, upTo, env, reached, shared⟩
    have accounted
        : env.store.Shares key → ∃ earlier < point,
            (advanceBy host earlier
              { task := .ofProgram program options initial, host := state }).Clashes host key := by
      refine env_induction (P := fun turns env =>
        env.store.Shares key → ∃ earlier < turns,
          (advanceBy host earlier
            { task := .ofProgram program options initial, host := state }).Clashes host key)
        ?_ ?_ ?_ point reached
      · intro shared
        have arrays := (Environment.seed_names { name := options.name } initial).2
        rw [Store.Shares, arrays] at shared
        simp at shared
      · intro turns env accounted shared
        obtain ⟨earlier, before, clashes⟩ := accounted shared
        exact ⟨earlier, Nat.lt_succ_of_lt before, clashes⟩
      · intro turns interpreter env line outcome executes _ found ran ended accounted shared
        by_cases already : env.store.Shares key
        · obtain ⟨earlier, before, clashes⟩ := accounted already
          exact ⟨earlier, Nat.lt_succ_of_lt before, clashes⟩
        · rw [advanceBy_succ] at ended
          exact ⟨turns, Nat.lt_succ_self turns, interpreter, env, line, outcome.env, executes,
            found, ended, (Command.run_writes ran).clashes shared already⟩
    obtain ⟨earlier, before, clashes⟩ := accounted shared
    exact ⟨earlier, Nat.lt_of_lt_of_le before upTo, clashes⟩
  · rintro ⟨earlier, before, interpreter, env, line, after, _, _, ended, clashes⟩
    rw [← advanceBy_succ] at ended
    exact ⟨earlier + 1, before, after, ended, clashes.shares⟩
  · intro apart env reached
    have named : env.NamedBy program initial := by
      refine env_induction (P := fun _ env => env.NamedBy program initial) ?_ ?_ ?_ turns reached
      · exact Environment.namedBy_seed program options.name initial
      · exact fun _ _ named => named
      · intro turns interpreter env line outcome _ onProgram found ran _ named
        rw [Program.line?, onProgram] at found
        exact named.run (Array.mem_of_getElem? found) ran
    exact named.not_shares apart key

/-- A variable `A` and an array `B` never come to share a name. -/
theorem shared_iff_clash_apart
    : let program : Program :=
        ⟨#[
          ⟨10, [.keyword .LET, .name "A", .operator .assign, .number "1"]⟩,
          ⟨20, [.keyword .ARRAY, .name "B"]⟩]⟩
      program.KeepsApart []
      ∧ ∀ turns key env,
          (advanceBy (Script.host fun _ => none) turns
            { task := .ofProgram program {} [], host := {} }).task.env? = some env
          → ¬ env.store.Shares key := by
  intro program
  have offered {command : Command} (offers : program.Offers command)
      : command = .assign "A" [.number "1"] ∨ command = .declare "B" none := by
    obtain ⟨line, inside, env, rfl⟩ := offers
    have lines : line ∈ program.lines.toList := Array.mem_toList_iff.mpr inside
    simp only [program, List.mem_cons, List.not_mem_nil, or_false] at lines
    rcases lines with rfl | rfl
    · exact .inl (Environment.commandOf_command rfl)
    · exact .inr (Environment.commandOf_command rfl)
  have apart : program.KeepsApart [] := by
    rintro name array (⟨command, offers, assigned⟩ | absent) ⟨command', offers', declared⟩
    · rcases offered offers with rfl | rfl <;> cases assigned
      rcases offered offers' with rfl | rfl <;> cases declared
      decide
    · cases absent
  refine ⟨apart, fun turns key env reached => ?_⟩
  exact (shared_iff_clash _ _ program {} [] turns key).2 apart env reached

/-- A variable and an array of one name live side by side at the end of a run without errors. -/
theorem variable_and_array_share_name
    : let host := Script.host fun _ => none
      let world : World Script := { task := .start "10 LET A = 1\n20 ARRAY A" {} [], host := {} }
      (advanceBy host 3 world).isFinished = true
      ∧ (advanceBy host 3 world).transcript = ""
      ∧ ((advanceBy host 3 world).task.env?.map fun env =>
          (env.store.values.contains "A", env.store.arrays.contains "A")) = some (true, true) := by
  decide +kernel

end World

end Gosub
