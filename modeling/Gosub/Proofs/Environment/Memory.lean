import Gosub.Proofs.Statement.Effects

/-! Sound memory. A store keeps to its limit, every declared array has a dimension, and no stored
text looks like a natural number, whatever is assigned, declared and forgotten. A variable holds
what it was assigned until it is forgotten.
-/

namespace Gosub

/-- The value is no text that looks like a natural number. -/
def Value.IsTyped : Value → Prop
  | .number _ => True
  | .text s => ¬ (s ≠ "" ∧ ∀ c ∈ s.toList, c.isDigit = true)

theorem Value.isTyped_typed (value : Value) : value.typed.IsTyped := by
  cases value with
  | number x => trivial
  | text s =>
      simp only [typed, ofShape]
      split
      · trivial
      · rename_i mixed
        rintro ⟨nonempty, digits⟩
        apply mixed
        have filled : s.toList ≠ [] := fun empty => nonempty (String.toList_eq_nil_iff.mp empty)
        simp [Decimal.isDigits, List.isEmpty_eq_false_iff.mpr filled, List.all_eq_true.mpr digits]

namespace Store

/-- There is room for all variables, every array has a dimension, and every value is typed. -/
structure Sound (store : Store) : Prop where
  room : store.values.size ≤ maxVariables
  typed : ∀ (name : String) value, store.values[name]? = some value → value.IsTyped
  dimension : ∀ (name : String) table, store.arrays[name]? = some table → 1 ≤ table.dimension
  typedCells
    : ∀ (name : String) table (key : String) value,
        store.arrays[name]? = some table → table.cells[key]? = some value → value.IsTyped

variable {store changed : Store} {name : String}

theorem Sound.empty : ({} : Store).Sound where
  room := by decide
  typed := by simp
  dimension := by simp
  typedCells := by simp

/-- A new variable is only let in while there is room. -/
theorem Sound.assign {value : Value} (sound : store.Sound) (typed : value.IsTyped)
    (done : store.assign name value = .ok changed)
    : changed.Sound := by
  unfold Store.assign at done
  split at done
  · cases done
  · rename_i admitted
    cases done
    refine { sound with room := ?_, typed := ?_ }
    · have room := sound.room
      simp only [Std.TreeMap.size_insert]
      split
      · exact room
      · rename_i new
        simp only [Bool.not_eq_true] at new
        simp only [new, Bool.not_false, Bool.true_and, decide_eq_true_eq] at admitted
        omega
    · intro other found stored
      rw [Std.TreeMap.getElem?_insert] at stored
      split at stored
      · cases stored
        exact typed
      · exact sound.typed other found stored

theorem Sound.erase (sound : store.Sound) (name : String) : (store.erase name).Sound := by
  refine { sound with room := ?_, typed := ?_ }
  · exact Nat.le_trans Std.TreeMap.size_erase_le sound.room
  · intro other found stored
    simp only [Store.erase, Std.TreeMap.getElem?_erase] at stored
    split at stored
    · cases stored
    · exact sound.typed other found stored

theorem Sound.declare {dimension : Nat} (sound : store.Sound)
    (done : store.declare name dimension = .ok changed)
    : changed.Sound := by
  unfold Store.declare at done
  split at done
  · cases done
  · rename_i positive
    cases done
    refine { sound with dimension := ?_, typedCells := ?_ }
    · intro other table stored
      rw [Std.TreeMap.getElem?_insert] at stored
      split at stored
      · cases stored
        exact Nat.one_le_iff_ne_zero.mpr positive
      · exact sound.dimension other table stored
    · intro other table key value stored cell
      rw [Std.TreeMap.getElem?_insert] at stored
      split at stored
      · cases stored
        simp at cell
      · exact sound.typedCells other table key value stored cell

/-- A cell is only found in an array that is declared. -/
theorem array_of_locate {indices : List Value} {table : Table} {key : String}
    (located : store.locate name indices = .ok (table, key))
    : store.arrays[name]? = some table := by
  obtain ⟨found, array, located⟩ := bind_eq_ok located
  split at located
  · cases located
  · split at located
    · cases located
    · cases located
      unfold Store.array at array
      split at array
      · rename_i stored
        cases array
        exact stored
      · cases array

theorem Sound.assignCell {indices : List Value} {value : Value} (sound : store.Sound)
    (typed : value.IsTyped) (done : store.assignCell name indices value = .ok changed)
    : changed.Sound := by
  obtain ⟨⟨table, key⟩, located, done⟩ := bind_eq_ok done
  have declared := array_of_locate located
  cases done
  refine { sound with dimension := ?_, typedCells := ?_ }
  · intro other found stored
    simp only [Std.TreeMap.getElem?_insert] at stored
    split at stored
    · cases stored
      exact sound.dimension name table declared
    · exact sound.dimension other found stored
  · intro other found place cell stored inside
    simp only [Std.TreeMap.getElem?_insert] at stored
    split at stored
    · cases stored
      simp only [Std.TreeMap.getElem?_insert] at inside
      split at inside
      · cases inside
        exact typed
      · exact sound.typedCells name table place cell declared inside
    · exact sound.typedCells other found place cell stored inside

theorem fetch_eq_ok {value : Value}
    : store.fetch name = .ok value ↔ store.values[name]? = some value := by
  unfold fetch
  split <;> simp_all

end Store

-----------------------------------------------------------------------------------------
-- Variables
-----------------------------------------------------------------------------------------

namespace Environment

variable {env changed : Environment} {name : String}

/-- An assigned variable holds its value, typed. -/
theorem fetch_of_assign {value : Value} (done : env.assign name value = .ok changed)
    : changed.fetch name = .ok value.typed := by
  obtain ⟨store, stored, rfl⟩ := assign_eq_ok done
  unfold Store.assign at stored
  split at stored
  · cases stored
  · cases stored
    exact Store.fetch_eq_ok.mpr Std.TreeMap.getElem?_insert_self

/-- A variable that exists can be assigned, whether or not there is room for another. -/
theorem assign_of_fetch {old : Value} (found : env.fetch name = .ok old) (value : Value)
    : ∃ changed, env.assign name value = .ok changed := by
  have present : env.store.values.contains (env.qualify name) = true := by
    rw [Std.TreeMap.contains_eq_isSome_getElem?, Store.fetch_eq_ok.mp found]
    rfl
  simp [assign, Store.assign, present, Except.map]

theorem qualify_notMem_erase (env : Environment) (name : String)
    : (env.erase name).qualify name ∉ (env.erase name).store.values := by
  change env.qualify name ∉ env.store.values.erase (env.qualify name)
  simp [Std.TreeMap.mem_erase]

end Environment

end Gosub
