import Gosub.Fault
import Std.Data.TreeMap

/-!
Variable memory: named values and named arrays, two tables that know nothing of each other. Names
arrive here already qualified.
-/

namespace Gosub

/-- An array: the number of indices that every access must give, and the cells assigned so far,
under the printed forms of their indices. -/
structure Table where
  dimension : Nat
  cells : Std.TreeMap String Value

/-- The memory of an environment. -/
structure Store where
  values : Std.TreeMap String Value := ∅
  arrays : Std.TreeMap String Table := ∅

/-- The most variables that a store can hold. -/
def maxVariables : Nat := 65536

namespace Store

/-- The value of a variable. -/
def fetch (store : Store) (name : String) : Except Fault Value :=
  match store.values[name]? with
  | some value => .ok value
  | none => .error (.undeclaredVariable name)

/-- Gives a variable a value. Only a new variable can find the store full. -/
def assign (store : Store) (name : String) (value : Value) : Except Fault Store :=
  if !store.values.contains name && maxVariables ≤ store.values.size then .error .tooManyVariables
  else .ok { store with values := store.values.insert name value }

/-- Forgets a variable. -/
def erase (store : Store) (name : String) : Store :=
  { store with values := store.values.erase name }

/-- The array of a name. -/
def array (store : Store) (name : String) : Except Fault Table :=
  match store.arrays[name]? with
  | some table => .ok table
  | none => .error (.undeclaredArray name)

/-- Declares an array without cells, in place of an earlier one. -/
def declare (store : Store) (name : String) (dimension : Nat) : Except Fault Store :=
  if dimension = 0 then .error .zeroDimension
  else .ok { store with arrays := store.arrays.insert name { dimension, cells := ∅ } }

/-- The key of a cell: the printed indices with commas between them. -/
def cellKey (indices : List Value) : String :=
  ",".intercalate (indices.map Value.printed)

/-- The array of a name and the key of one of its cells, for as many indices as the array has
dimensions. -/
def locate (store : Store) (name : String) (indices : List Value)
    : Except Fault (Table × String) := do
  let table ← store.array name
  if table.dimension < indices.length then .error .tooManyIndices
  else if indices.length < table.dimension then .error .tooFewIndices
  else .ok (table, cellKey indices)

/-- The value of an array cell. -/
def fetchCell (store : Store) (name : String) (indices : List Value) : Except Fault Value := do
  let (table, key) ← store.locate name indices
  match table.cells[key]? with
  | some value => .ok value
  | none => .error (.undeclaredCell name key)

/-- Gives an array cell a value. -/
def assignCell (store : Store) (name : String) (indices : List Value) (value : Value)
    : Except Fault Store := do
  let (table, key) ← store.locate name indices
  let table := { table with cells := table.cells.insert key value }
  .ok { store with arrays := store.arrays.insert name table }

end Store

end Gosub
