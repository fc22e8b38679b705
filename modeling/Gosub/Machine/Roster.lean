import Gosub.Environment.Basic

/-!
The roster of environments. An environment is known by its place in the roster; a name stands for
the first environment entered under it.
-/

namespace Gosub

/-- The environments in the order in which they were entered. -/
structure Roster where
  environments : Array Environment := #[]

namespace Roster

/-- The number of environments. -/
def size (roster : Roster) : Nat :=
  roster.environments.size

/-- Enters an environment, under the number that is the size so far. -/
def enter (roster : Roster) (env : Environment) : Roster where
  environments := roster.environments.push env

/-- The number of the first environment entered under a name. -/
def lookup? (roster : Roster) (name : String) : Option Nat :=
  roster.environments.findIdx? fun env => env.name == name

/-- The environment with a number. -/
def get? (roster : Roster) (id : Nat) : Option Environment :=
  roster.environments[id]?

/-- Puts an environment in the place of the one with its number. -/
def set (roster : Roster) (id : Nat) (env : Environment) : Roster where
  environments := roster.environments.setIfInBounds id env

/-- The first environment entered under a name. -/
def find? (roster : Roster) (name : String) : Option Environment :=
  (roster.lookup? name).bind roster.get?

end Roster

end Gosub
