import Gosub.Proofs.Environment.Memory
import Gosub.Proofs.Number.ReadBack

/-! Array cells. A cell is kept under the printed forms of its indices with commas between them, so
what is written to a cell is read back from it, and from no other cell with another key. Keys tell
indices with different printed forms apart as long as only one side of the comparison has texts with
commas of their own.
-/

namespace Gosub

-----------------------------------------------------------------------------------------
-- Commas in printed values
-----------------------------------------------------------------------------------------

theorem Decimal.comma_not_mem_positional (d : Decimal) : ',' ∉ d.positional [] := by
  intro member
  rcases Int.lt_or_le d.exponent 0 with fraction | whole
  · obtain ⟨before, after, text, _, digit, _⟩ := positional_point fraction
    rw [text, List.mem_append, List.mem_cons] at member
    rcases member with member | same | member
    · cases digit _ (List.mem_append_left after member)
    · cases same
    · cases digit _ (List.mem_append_right before member)
  · obtain ⟨digits, text, _, digit, _⟩ := positional_whole whole
    rw [text] at member
    cases digit _ member

theorem Decimal.comma_not_mem_toString (n : Int) : ',' ∉ (toString n).toList := by
  have plain (count : Nat) : ',' ∉ count.repr.toList := by
    rw [Nat.repr_eq_ofList_toDigits, String.toList_ofList]
    intro member
    cases isDigit_of_mem_digitChars member
  rw [Int.toString_eq_repr, Int.repr_eq_if]
  split
  · exact plain _
  · rw [String.toList_append, List.mem_append]
    rintro (sign | digit)
    · exact absurd sign (by decide)
    · exact plain _ digit

theorem Layout.comma_not_mem_write (x : Float) : ',' ∉ (plain.write x).toList := by
  unfold write
  split
  · decide
  · split <;> decide
  · next decimal =>
    rw [String.toList_ofList]
    split
    · rw [List.mem_cons]
      rintro (sign | digit)
      · cases sign
      · exact Decimal.comma_not_mem_positional _ digit
    · exact Decimal.comma_not_mem_positional _

namespace Value

/-- A number is printed without a comma: as an integer, or with digits and at most one point. -/
theorem comma_not_mem_printNumber (x : Float) : ',' ∉ (printNumber x).toList := by
  unfold printNumber
  split
  · split
    · exact Decimal.comma_not_mem_toString _
    · exact Layout.comma_not_mem_write x
  · exact Layout.comma_not_mem_write x

/-- Whether the printed form of the value holds a comma. Only a text can. -/
def holdsComma : Value → Bool
  | .number _ => false
  | .text s => s.toList.contains ','

theorem comma_mem_printed {value : Value}
    : ',' ∈ value.printed.toList ↔ value.holdsComma = true := by
  cases value with
  | number x => simpa [printed, holdsComma] using comma_not_mem_printNumber x
  | text s => simp [printed, holdsComma]

end Value

-----------------------------------------------------------------------------------------
-- Keys of cells
-----------------------------------------------------------------------------------------

namespace Store

variable {store : Store} {name : String} {table : Table} {indices others : List Value}

theorem toList_cellKey (indices : List Value)
    : (cellKey indices).toList = [','].intercalate (indices.map (·.printed.toList)) := by
  rw [cellKey, String.toList_intercalate, List.map_map]
  rfl

/-- The commas of a key are those of the printed indices and those between them, by induction on the
indices.
-/
theorem count_cellKey (indices : List Value)
    : (cellKey indices).toList.count ','
      = (indices.map (·.printed.toList.count ',')).sum + (indices.length - 1) := by
  rw [toList_cellKey]
  induction indices with
  | nil => rfl
  | cons first rest ih =>
      cases rest with
      | nil => simp
      | cons second rest =>
          simp only [List.map_cons] at ih ⊢
          rw [List.intercalate_cons_cons, List.count_append, List.count_append, ih]
          simp
          omega

theorem sum_count_eq_zero
    : (indices.map (·.printed.toList.count ',')).sum = 0
      ↔ ∀ index ∈ indices, index.holdsComma = false := by
  simp only [List.sum_eq_zero_iff, List.forall_mem_map, List.count_eq_zero, Value.comma_mem_printed,
    Bool.not_eq_true]

/-- The key of indices without commas is split into their printed forms. -/
theorem splitOn_cellKey (filled : indices ≠ [])
    (plain : ∀ index ∈ indices, index.holdsComma = false)
    : (cellKey indices).toList.splitOn ',' = indices.map (·.printed.toList) := by
  rw [toList_cellKey]
  refine List.splitOn_intercalate ',' ?_ (by simpa using filled)
  rw [List.forall_mem_map]
  intro index member
  rw [Value.comma_mem_printed, plain index member]
  decide

/-- Indices without commas are told apart by their keys from all others of the same number. Witness:
the others have no commas either, since both keys have as many of them. So both keys are split into
the printed indices.
-/
theorem printed_eq_of_cellKey (length : others.length = indices.length)
    (plain : ∀ index ∈ indices, index.holdsComma = false) (same : cellKey others = cellKey indices)
    : others.map Value.printed = indices.map Value.printed := by
  -- Splitting alone does not do: commas inside the others would shift their parts.
  have counted := count_cellKey others
  rw [same, count_cellKey indices, length, sum_count_eq_zero.mpr plain] at counted
  have plain' : ∀ index ∈ others, index.holdsComma = false := sum_count_eq_zero.mp (by omega)
  by_cases filled : indices = []
  · rw [filled, List.length_nil, List.length_eq_zero_iff] at length
    rw [filled, length]
  · have filled' : others ≠ [] := by
      rwa [ne_eq, ← List.length_eq_zero_iff, length, List.length_eq_zero_iff]
    have split := splitOn_cellKey filled' plain'
    rw [same, splitOn_cellKey filled plain] at split
    have texts
        : (others.map Value.printed).map String.toList
          = (indices.map Value.printed).map String.toList := by
      rw [List.map_map, List.map_map]
      exact split.symm
    exact List.map_injective_iff.mpr (fun _ _ => String.toList_inj.mp) texts

/-- Indices whose printed forms differ somewhere have different keys, where there is one index, or
where one of the two sides has no comma.
-/
theorem cellKey_ne (length : others.length = indices.length)
    (differ : others.map Value.printed ≠ indices.map Value.printed)
    (clear
      : indices.length = 1
        ∨ (∀ index ∈ indices, index.holdsComma = false)
        ∨ ∀ index ∈ others, index.holdsComma = false)
    : cellKey others ≠ cellKey indices := by
  intro same
  rcases clear with one | plain | plain
  · obtain ⟨index, rfl⟩ := List.length_eq_one_iff.mp one
    obtain ⟨other, rfl⟩ := List.length_eq_one_iff.mp (length.trans one)
    exact differ (congrArg (fun key => [key]) (by simpa [cellKey] using same))
  · exact differ (printed_eq_of_cellKey length plain same)
  · exact differ (printed_eq_of_cellKey length.symm plain same.symm).symm

-----------------------------------------------------------------------------------------
-- Reading and writing cells
-----------------------------------------------------------------------------------------

theorem locate_eq (declared : store.arrays[name]? = some table) (indices : List Value)
    : store.locate name indices
      = if table.dimension < indices.length then .error .tooManyIndices
        else if indices.length < table.dimension then .error .tooFewIndices
        else .ok (table, cellKey indices) := by
  simp only [locate, array, declared]
  rfl

/-- The cells of an array with its number of indices. -/
theorem fetchCell_eq (declared : store.arrays[name]? = some table)
    (length : indices.length = table.dimension)
    : store.fetchCell name indices
      = match table.cells[cellKey indices]? with
        | some value => .ok value
        | none => .error (.undeclaredCell name (cellKey indices)) := by
  rw [fetchCell, locate_eq declared, if_neg (by omega), if_neg (by omega)]
  rfl

theorem assignCell_eq (declared : store.arrays[name]? = some table)
    (length : indices.length = table.dimension) (value : Value)
    : store.assignCell name indices value
      = .ok
          { store with
            arrays :=
              store.arrays.insert name
                { table with cells := table.cells.insert (cellKey indices) value } } := by
  rw [assignCell, locate_eq declared, if_neg (by omega), if_neg (by omega)]
  rfl

/-- What is written to a cell is read back under its key, and all other keys read as before. -/
theorem fetchCell_assignCell {changed : Store} {value : Value}
    (declared : store.arrays[name]? = some table)
    (length : indices.length = table.dimension) (length' : others.length = table.dimension)
    (done : store.assignCell name indices value = .ok changed)
    : changed.fetchCell name others
      = if cellKey others = cellKey indices then .ok value else store.fetchCell name others := by
  let after : Table := { table with cells := table.cells.insert (cellKey indices) value }
  have stored
      : { store with arrays := store.arrays.insert name after }.arrays[name]? = some after :=
    Std.TreeMap.getElem?_insert_self
  rw [assignCell_eq declared length] at done
  cases done
  rw [fetchCell_eq stored length', fetchCell_eq declared length']
  by_cases same : cellKey others = cellKey indices
  · rw [if_pos same, same, Std.TreeMap.getElem?_insert_self]
  · have apart : compare (cellKey indices) (cellKey others) ≠ .eq :=
      fun equal => same (Std.LawfulEqCmp.eq_of_compare equal).symm
    rw [if_neg same, Std.TreeMap.getElem?_insert, if_neg apart]

/-- With a wrong number of indices nothing is read or written, and the fault says which way the
number is wrong.
-/
theorem refused_of_length (declared : store.arrays[name]? = some table)
    (length : indices.length ≠ table.dimension) (value : Value)
    : let fault : Fault :=
        if table.dimension < indices.length then .tooManyIndices else .tooFewIndices
      fault.kind = .arrayArity
      ∧ store.fetchCell name indices = .error fault
      ∧ store.assignCell name indices value = .error fault := by
  rw [fetchCell, assignCell, locate_eq declared]
  rcases Nat.lt_or_gt_of_ne length with few | many
  · rw [if_neg (by omega), if_pos few, if_neg (by omega)]
    exact ⟨rfl, rfl, rfl⟩
  · rw [if_pos many, if_pos many]
    exact ⟨rfl, rfl, rfl⟩

/-- Cells with different keys are different cells. In every array, for as many indices as it has
dimensions, a value is written. It is then read at these indices and at all others with the same
key, and with another key everything is read as before, or is as undeclared as before. Printed forms
that differ somewhere make different keys in an array of one dimension, and wherever no text on one
of the two sides has a comma. No variable changes and no other array does. With a wrong number of
indices reading and writing fail, with the error for too many or too few, and a command that tries
to write leaves its environment as it was.
-/
theorem cells_apart (store : Store) (name : String) (table : Table)
    (declared : store.arrays[name]? = some table) (indices : List Value) (value : Value)
    : (indices.length = table.dimension
        → ∃ changed,
            store.assignCell name indices value = .ok changed
            ∧ changed.fetchCell name indices = .ok value
            ∧ (∀ others,
                others.length = table.dimension
                → changed.fetchCell name others
                  = if cellKey others = cellKey indices then .ok value
                    else store.fetchCell name others)
            ∧ (∀ others,
                others.length = table.dimension
                → others.map Value.printed ≠ indices.map Value.printed
                → table.dimension = 1
                  ∨ (∀ index ∈ indices, index.holdsComma = false)
                  ∨ (∀ index ∈ others, index.holdsComma = false)
                → changed.fetchCell name others = store.fetchCell name others)
            ∧ changed.values = store.values
            ∧ ∀ other, other ≠ name → changed.arrays[other]? = store.arrays[other]?)
      ∧ (indices.length ≠ table.dimension
        → let fault : Fault :=
            if table.dimension < indices.length then .tooManyIndices else .tooFewIndices
          fault.kind = .arrayArity
          ∧ store.fetchCell name indices = .error fault
          ∧ store.assignCell name indices value = .error fault
          ∧ ∀ (env : Environment) target groups expression written position,
              env.store = store
              → env.qualify target = name
              → env.evaluateAll groups = .ok indices
              → env.evaluate expression = .ok written
              → (Command.assignCell target groups expression).run position env
                = .done (.fail env fault)) := by
  refine ⟨fun length => ?_, fun length => ?_⟩
  · have done := assignCell_eq declared length value
    refine ⟨_, done, ?_, fun others length' => ?_, fun others length' differ clear => ?_, rfl, ?_⟩
    · rw [fetchCell_assignCell declared length length done, if_pos rfl]
    · exact fetchCell_assignCell declared length length' done
    · rw [← length] at clear
      rw [fetchCell_assignCell declared length length' done,
        if_neg (cellKey_ne (length'.trans length.symm) differ clear)]
    · intro other apart
      have unequal : compare name other ≠ .eq :=
        fun equal => apart (Std.LawfulEqCmp.eq_of_compare equal).symm
      rw [Std.TreeMap.getElem?_insert, if_neg unequal]
  · intro fault
    obtain ⟨kind, unread, unwritten⟩ := refused_of_length declared length value
    refine ⟨kind, unread, unwritten, ?_⟩
    intro env target groups expression written position same qualified evaluated valued
    have refused : env.assignCell target indices written = .error fault := by
      rw [Environment.assignCell, same, qualified,
        (refused_of_length declared length written.typed).2.2]
      rfl
    simp only [Command.run, evaluated, valued, bind, Except.bind, refused]
    rfl

/-- A text with a comma among the indices, against two numbers, and an index too few. -/
theorem cells_apart_from_numbers
    : let table : Table := { dimension := 2, cells := ∅ }
      let store : Store := { arrays := Std.TreeMap.empty.insert "M" table }
      let indices : List Value := [.number 1, .text "2,3"]
      let others : List Value := [.number 1, .number 2]
      store.arrays["M"]? = some table
      ∧ others.map Value.printed ≠ indices.map Value.printed
      ∧ (∃ changed,
          store.assignCell "M" indices (.text "X") = .ok changed
          ∧ changed.fetchCell "M" indices = .ok (.text "X")
          ∧ changed.fetchCell "M" others = store.fetchCell "M" others)
      ∧ store.fetchCell "M" [.number 1] = .error .tooFewIndices := by
  intro table store indices others
  have declared : store.arrays["M"]? = some table := Std.TreeMap.getElem?_insert_self
  have differ : others.map Value.printed ≠ indices.map Value.printed := by decide +kernel
  have plain : ∀ index ∈ others, index.holdsComma = false := by decide
  obtain ⟨changed, done, back, _, apart, _⟩ :=
    (cells_apart store "M" table declared indices (.text "X")).1 rfl
  obtain ⟨_, unread, _⟩ :=
    (cells_apart store "M" table declared [.number 1] (.text "X")).2 (by decide)
  exact ⟨declared, differ, ⟨changed, done, back, apart others rfl differ (.inr (.inr plain))⟩,
    unread⟩

/-- Two texts with commas of their own: the printed indices differ and their keys do not. -/
theorem cells_collide
    : let table : Table := { dimension := 2, cells := ∅ }
      let store : Store := { arrays := Std.TreeMap.empty.insert "M" table }
      let indices : List Value := [.text "A,B", .text "C"]
      let others : List Value := [.text "A", .text "B,C"]
      store.arrays["M"]? = some table
      ∧ others.map Value.printed ≠ indices.map Value.printed
      ∧ store.fetchCell "M" others = .error (.undeclaredCell "M" "A,B,C")
      ∧ ∃ changed,
          store.assignCell "M" indices (.number 1) = .ok changed
          ∧ changed.fetchCell "M" others = .ok (.number 1) := by
  intro table store indices others
  have declared : store.arrays["M"]? = some table := Std.TreeMap.getElem?_insert_self
  have done : store.assignCell "M" indices (.number 1) = .ok _ := assignCell_eq declared rfl _
  refine ⟨declared, by decide, ?_, _, done, ?_⟩
  · rw [fetchCell_eq declared rfl]
    rfl
  · rw [fetchCell_assignCell declared rfl rfl done, if_pos (by decide)]

end Store

end Gosub
