import Gosub.Environment.Loop
import Gosub.Environment.BoundedStack
import Gosub.Environment.Store

/-!
Environments. An environment is the state that programs run on: its memory, the namespace that
qualifies names, the positions to return to and the loops that are running.
-/

namespace Gosub

/-- The state that a program runs on. -/
structure Environment where
  /-- The name under which the environment is found. -/
  name : String
  /-- The active namespace; empty for none. -/
  scope : String := ""
  store : Store := {}
  /-- The positions of the `GOSUB` lines still open. -/
  calls : BoundedStack Nat := .empty
  /-- The loops still running, the innermost on top. -/
  loops : BoundedStack Loop := .empty

namespace Environment

/-- The full name that a name stands for. A name with `@` is already full. -/
def qualify (env : Environment) (name : String) : String :=
  if name.toList.contains '@' || env.scope.isEmpty then name else env.scope ++ "@" ++ name

/-- The value of a variable. -/
def fetch (env : Environment) (name : String) : Except Fault Value :=
  env.store.fetch (env.qualify name)

/-- Gives a variable a value, typed by its shape. -/
def assign (env : Environment) (name : String) (value : Value) : Except Fault Environment :=
  (env.store.assign (env.qualify name) value.typed).map fun store => { env with store }

/-- Forgets a variable. -/
def erase (env : Environment) (name : String) : Environment :=
  { env with store := env.store.erase (env.qualify name) }

/-- The array of a name. -/
def array (env : Environment) (name : String) : Except Fault Table :=
  env.store.array (env.qualify name)

/-- Declares an array. -/
def declare (env : Environment) (name : String) (dimension : Nat) : Except Fault Environment :=
  (env.store.declare (env.qualify name) dimension).map fun store => { env with store }

/-- The value of an array cell. -/
def fetchCell (env : Environment) (name : String) (indices : List Value) : Except Fault Value :=
  env.store.fetchCell (env.qualify name) indices

/-- Gives an array cell a value, typed by its shape. -/
def assignCell (env : Environment) (name : String) (indices : List Value) (value : Value)
    : Except Fault Environment :=
  (env.store.assignCell (env.qualify name) indices value.typed).map fun store => { env with store }

/-- The value that a bare name reads. The name of an array has none, whether or not a variable has
the same name: the array is short of indices. -/
def read (env : Environment) (name : String) : Except Fault Value := do
  if env.store.arrays.contains (env.qualify name) then
    let _ ← env.fetchCell name []
  env.fetch name

/-- Puts a position on the call stack. It stays there even where there is no room for it. -/
def pushCall (env : Environment) (position : Nat) : Environment × Except Fault Unit :=
  let env := { env with calls := env.calls.push position }
  (env, env.calls.check "CALL STACK OVERFLOW")

/-- Puts a loop on the loop stack. It stays there even where there is no room for it. -/
def pushLoop (env : Environment) (loop : Loop) : Environment × Except Fault Unit :=
  let env := { env with loops := env.loops.push loop }
  (env, env.loops.check "LOOP STACK OVERFLOW")

/-- Counts an iteration of the innermost loop, which is `loop`. It stays counted even where it is
one too many. -/
def countIteration (env : Environment) (loop : Loop) : Environment × Except Fault Unit :=
  ({ env with loops := env.loops.replaceTop loop.counted }, loop.counted.check)

end Environment

end Gosub
