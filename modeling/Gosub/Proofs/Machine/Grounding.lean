import Gosub.Machine.Interpreter

/-! The environment that an interpreter works on. As long as an environment keeps its name, every
name stands for the same place in the roster.
-/

namespace Gosub

namespace Roster

theorem get?_set_self {roster : Roster} {id : Nat} {env : Environment}
    (found : roster.get? id = some env) (changed : Environment)
    : (roster.set id changed).get? id = some changed := by
  obtain ⟨bound, _⟩ := Array.getElem?_eq_some_iff.mp found
  exact Array.getElem?_setIfInBounds_self_of_lt bound

private theorem setIfInBounds_self {α : Type} {items : Array α} {place : Nat} {item : α}
    (found : items[place]? = some item)
    : items.setIfInBounds place item = items := by
  obtain ⟨bound, same⟩ := Array.getElem?_eq_some_iff.mp found
  rw [Array.setIfInBounds_def, dif_pos bound, ← same, Array.set_getElem_self]

theorem set_self {roster : Roster} {id : Nat} {env : Environment}
    (found : roster.get? id = some env)
    : roster.set id env = roster :=
  congrArg Roster.mk (setIfInBounds_self found)

theorem name_of_lookup? {roster : Roster} {id : Nat} {env : Environment} {name : String}
    (first : roster.lookup? name = some id) (found : roster.get? id = some env)
    : env.name = name := by
  obtain ⟨bound, named, _⟩ := Array.findIdx?_eq_some_iff_getElem.mp first
  have same : roster.environments[id] = env := (Array.getElem?_eq_some_iff.mp found).2
  rw [same] at named
  exact beq_iff_eq.mp named

/-- The name of an environment in the roster can be looked up. -/
theorem exists_lookup? {roster : Roster} {id : Nat} {env : Environment}
    (found : roster.get? id = some env)
    : ∃ first env', roster.lookup? env.name = some first ∧ roster.get? first = some env' := by
  cases first : roster.lookup? env.name with
  | none =>
      have unnamed := Array.findIdx?_eq_none_iff.mp first env (Array.mem_of_getElem? found)
      simp at unnamed
  | some place =>
      obtain ⟨bound, _⟩ := Array.findIdx?_eq_some_iff_getElem.mp first
      exact ⟨place, _, rfl, Array.getElem?_eq_getElem bound⟩

theorem lookup?_eq_names (roster : Roster) (name : String)
    : roster.lookup? name
      = (roster.environments.map Environment.name).findIdx? (· == name) := by
  simp [lookup?, Array.findIdx?_map, Function.comp_def]

/-- A changed environment with its old name is looked up as before. Witness: the list of names is
the same.
-/
theorem lookup?_set {roster : Roster} {id : Nat} {env changed : Environment}
    (found : roster.get? id = some env) (named : changed.name = env.name) (name : String)
    : (roster.set id changed).lookup? name = roster.lookup? name := by
  have names
      : (roster.set id changed).environments.map Environment.name
        = roster.environments.map Environment.name := by
    simp only [set, Array.map_setIfInBounds]
    apply setIfInBounds_self
    rw [Array.getElem?_map, show roster.environments[id]? = some env from found, named]
    rfl
  rw [lookup?_eq_names, names, lookup?_eq_names]

end Roster

namespace Interpreter

/-- The interpreter works on `env`, which is the first environment entered under its name. -/
structure Grounded (interpreter : Interpreter) (env : Environment) : Prop where
  found : interpreter.roster.get? interpreter.id = some env
  first : interpreter.roster.lookup? env.name = some interpreter.id

/-- Grounding reads only the roster and the number of the environment. -/
theorem Grounded.congr {interpreter other : Interpreter} {env : Environment}
    (grounded : interpreter.Grounded env) (roster : other.roster = interpreter.roster)
    (id : other.id = interpreter.id)
    : other.Grounded env :=
  ⟨by rw [roster, id, grounded.found], by rw [roster, id, grounded.first]⟩

/-- An interpreter stays grounded when its environment changes under the same name. -/
theorem Grounded.change {interpreter other : Interpreter} {env changed : Environment}
    (grounded : interpreter.Grounded env) (named : changed.name = env.name)
    (roster : other.roster = interpreter.roster.set interpreter.id changed)
    (id : other.id = interpreter.id)
    : other.Grounded changed := by
  constructor
  · rw [roster, id]
    exact Roster.get?_set_self grounded.found changed
  · rw [roster, id, Roster.lookup?_set grounded.found named, named]
    exact grounded.first

end Interpreter

end Gosub
