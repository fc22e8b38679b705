import Gosub.Proofs.Number.Order
import Gosub.Proofs.Number.ReadBack

/-! Comparison is coherent. Reading a relation from the other side mirrors it; of two values that
have an order, exactly one is less or both are equal; and equality is that of the printed forms,
also between a number and a text.
-/

namespace Gosub

-----------------------------------------------------------------------------------------
-- Texts of numbers
-----------------------------------------------------------------------------------------

namespace Value

theorem printNumber_plainNumber (x : Float) : printNumber (plainNumber x) = printNumber x := by
  unfold plainNumber
  split
  · next zero =>
    rw [zero]
    decide +kernel
  · rfl

theorem plainNumber_beq {x : Float} (number : x.isNaN = false) : (x == plainNumber x) = true := by
  unfold plainNumber
  split
  · next zero =>
    rw [zero]
    decide +kernel
  · rw [Float.beq_self_iff]
    rintro rfl
    simp at number

/-- Numbers are equal exactly where they are printed alike: a text is read as one number, and only
the sign of a zero is not printed.
-/
theorem beq_iff_printNumber {x y : Float} (left : x.isNaN = false) (right : y.isNaN = false)
    : (x == y) = true ↔ printNumber x = printNumber y := by
  constructor
  · intro equal
    have same : plainNumber x = plainNumber y := by
      rw [Float.beq_iff_ne_nan_and_eq] at equal
      rcases equal with ⟨-, -, rfl | ⟨rfl, rfl⟩ | ⟨rfl, rfl⟩⟩
      · rfl
      · decide +kernel
      · decide +kernel
    rw [← printNumber_plainNumber x, same, printNumber_plainNumber]
  · intro printed
    have same : plainNumber x = plainNumber y := by
      apply Option.some.inj
      rw [← read?_printNumber, ← read?_printNumber, printed]
    have first := plainNumber_beq left
    rw [same] at first
    exact PartialEquivBEq.trans first (PartialEquivBEq.symm (plainNumber_beq right))

end Value

-----------------------------------------------------------------------------------------
-- Order of values
-----------------------------------------------------------------------------------------

namespace Value

/-- Whether a value is typed as the double that is no number, which has no order with others. -/
def isUnordered (value : Value) : Bool :=
  match value.typed with
  | .number x => x.isNaN
  | .text _ => false

variable {a b c : Value}

/-- The order of two values is turned round with them. -/
theorem compare?_swap (a b : Value) : b.compare? a = (a.compare? b).map Ordering.swap := by
  have texts (s t : String) : compare t s = (compare s t).swap := Std.OrientedCmp.eq_swap
  unfold compare?
  cases a.typed with
  | number x =>
      cases b.typed with
      | number y => exact compareNumbers?_swap x y
      | text t => exact congrArg some (texts _ _)
  | text s => cases b.typed <;> exact congrArg some (texts _ _)

/-- Two values have an order unless one of them is unordered, and they are then equal where they
are printed alike.
-/
theorem exists_compare? (left : a.isUnordered = false) (right : b.isUnordered = false)
    : ∃ order, a.compare? b = some order
        ∧ (order = .eq ↔ a.typed.printed = b.typed.printed) := by
  have texts (s t : String) : compare s t = .eq ↔ s = t := Std.LawfulEqCmp.compare_eq_iff_eq
  unfold compare?
  unfold isUnordered at left right
  cases typed : a.typed with
  | text s => cases b.typed <;> exact ⟨_, rfl, texts _ _⟩
  | number x =>
      cases typed' : b.typed with
      | text t => exact ⟨_, rfl, texts _ _⟩
      | number y =>
          rw [typed] at left
          rw [typed'] at right
          refine ⟨_, compareNumbers?_eq_place left right, ?_⟩
          rw [printed, printed, ← beq_iff_printNumber left right, Binary64.beq_iff_place left right,
            compare_eq_iff_eq]

end Value

namespace Relation

-----------------------------------------------------------------------------------------
-- Relations
-----------------------------------------------------------------------------------------

/-- The relation that holds with the sides exchanged. -/
def mirror : Relation → Relation
  | .less => .greater
  | .lessEqual => .greaterEqual
  | .greater => .less
  | .greaterEqual => .lessEqual
  | .equal => .equal
  | .notEqual => .notEqual

variable {a b c : Value}

theorem accepts_mirror_swap (relation : Relation) (order : Ordering)
    : relation.mirror.accepts order.swap = relation.accepts order := by
  cases relation <;> cases order <;> rfl

theorem holds_mirror (relation : Relation) (a b : Value)
    : relation.mirror.holds b a = relation.holds a b := by
  unfold holds
  rw [Value.compare?_swap a b]
  cases a.compare? b with
  | none => cases relation <;> rfl
  | some order => exact relation.accepts_mirror_swap order

theorem holds_of_compare? {order : Ordering} (compared : a.compare? b = some order)
    (relation : Relation) : relation.holds a b = relation.accepts order := by
  rw [holds, compared]

theorem holds_less_iff : less.holds a b = true ↔ a.compare? b = some .lt := by
  unfold holds
  cases a.compare? b with
  | none => decide
  | some order => cases order <;> decide

theorem holds_equal_iff (left : a.isUnordered = false) (right : b.isUnordered = false)
    : equal.holds a b = true ↔ a.typed.printed = b.typed.printed := by
  obtain ⟨order, compared, same⟩ := Value.exists_compare? left right
  rw [holds_of_compare? compared, ← same]
  exact beq_iff_eq

/-- Of the three relations that exclude each other, the one of the order holds. -/
theorem existsUnique_holds (left : a.isUnordered = false) (right : b.isUnordered = false)
    : ∃! relation, relation ∈ [less, equal, greater] ∧ relation.holds a b = true := by
  obtain ⟨order, compared, -⟩ := Value.exists_compare? left right
  have chosen : ∃ relation ∈ [less, equal, greater], relation.accepts order = true
      ∧ ∀ other ∈ [less, equal, greater], other.accepts order = true → other = relation := by
    cases order <;> decide
  obtain ⟨relation, member, accepted, only⟩ := chosen
  simp only [holds_of_compare? compared]
  exact ⟨relation, ⟨member, accepted⟩, fun other ⟨member, accepted⟩ => only other member accepted⟩

theorem less_trans_of_numbers {x y z : Float} (first : a.typed = .number x)
    (second : b.typed = .number y) (third : c.typed = .number z)
    (lower : less.holds a b = true) (upper : less.holds b c = true)
    : less.holds a c = true := by
  simp only [holds_less_iff, Value.compare?, first, second, third] at lower upper ⊢
  exact compareNumbers?_trans lower upper

theorem less_trans_of_texts {s t u : String} (first : a.typed = .text s)
    (second : b.typed = .text t) (third : c.typed = .text u)
    (lower : less.holds a b = true) (upper : less.holds b c = true)
    : less.holds a c = true := by
  simp only [holds_less_iff, Value.compare?, first, second, third, Option.some.injEq]
    at lower upper ⊢
  exact Std.TransCmp.lt_trans lower upper

/-- Comparison is coherent. A relation can be read from either side. Of two values that have an
order, one is less than the other or they are equal, and the other relations are made of these.
Among numbers and among texts, what is less than a lesser value is less. Equality divides all values
that have an order, numbers and texts together, into classes.
-/
theorem comparison_coherent
    : (∀ (relation : Relation) (a b : Value), relation.holds a b = relation.mirror.holds b a)
      ∧ (∀ a b : Value, a.isUnordered = false → b.isUnordered = false →
          (∃! relation, relation ∈ [less, equal, greater] ∧ relation.holds a b = true)
          ∧ lessEqual.holds a b = (less.holds a b || equal.holds a b)
          ∧ greaterEqual.holds a b = (greater.holds a b || equal.holds a b)
          ∧ notEqual.holds a b = !equal.holds a b)
      ∧ (∀ (a b c : Value) (x y z : Float),
          a.typed = .number x → b.typed = .number y → c.typed = .number z →
          less.holds a b = true → less.holds b c = true → less.holds a c = true)
      ∧ (∀ (a b c : Value) (s t u : String),
          a.typed = .text s → b.typed = .text t → c.typed = .text u →
          less.holds a b = true → less.holds b c = true → less.holds a c = true)
      ∧ Equivalence fun a b : {value : Value // value.isUnordered = false} =>
          equal.holds a b = true := by
  refine ⟨fun relation a b => (relation.holds_mirror a b).symm, ?_, ?_, ?_, ?_⟩
  · intro a b left right
    obtain ⟨order, compared, -⟩ := Value.exists_compare? left right
    refine ⟨existsUnique_holds left right, ?_⟩
    simp only [holds_of_compare? compared]
    cases order <;> decide
  · exact fun a b c x y z => less_trans_of_numbers
  · exact fun a b c s t u => less_trans_of_texts
  · -- Being printed alike is such a division already.
    refine ⟨fun a => ?_, fun {a b} same => ?_, fun {a b c} first second => ?_⟩
    · exact (holds_equal_iff a.2 a.2).mpr rfl
    · exact (holds_equal_iff b.2 a.2).mpr ((holds_equal_iff a.2 b.2).mp same).symm
    · exact (holds_equal_iff a.2 c.2).mpr
        (((holds_equal_iff a.2 b.2).mp first).trans ((holds_equal_iff b.2 c.2).mp second))

/-- A run of digits beyond all doubles equals infinity, by way of the text `inf`; and `9` is less
than `011`, by way of the number between them.
-/
theorem comparison_coherent_through_middle
    : let digits := String.ofList ('1' :: List.replicate 309 '0')
      let infinite := Binary64.infinity false
      (Value.text digits).isUnordered = false
        ∧ (equal.holds (.text digits) (.text "inf") = true
          ∧ equal.holds (.text "inf") (.number infinite) = true
          ∧ equal.holds (.text digits) (.number infinite) = true)
        ∧ less.holds (.text "9") (.number 10) = true
        ∧ less.holds (.number 10) (.text "011") = true
        ∧ less.holds (.text "9") (.text "011") = true := by
  intro digits infinite
  have typed : (Value.text digits).typed = .number infinite := by
    rw [Value.typed, Value.ofShape, String.toList_ofList]
    decide +kernel
  have ordered : (Value.text digits).isUnordered = false := by
    rw [Value.isUnordered, typed]
    decide +kernel
  have word : (Value.text "inf").isUnordered = false := by decide +kernel
  have number : (Value.number infinite).isUnordered = false := by decide +kernel
  have first : equal.holds (.text digits) (.text "inf") = true := by
    rw [holds_equal_iff ordered word, typed]
    decide +kernel
  have second : equal.holds (.text "inf") (.number infinite) = true := by decide +kernel
  have below : less.holds (.text "9") (.number 10) = true := by decide +kernel
  have above : less.holds (.number 10) (.text "011") = true := by decide +kernel
  obtain ⟨-, -, numbers, -, equivalence⟩ := comparison_coherent
  refine ⟨ordered, ⟨first, second, ?_⟩, below, above, ?_⟩
  · exact @equivalence.trans ⟨_, ordered⟩ ⟨_, word⟩ ⟨_, number⟩ first second
  · exact numbers (.text "9") (.number 10) (.text "011") 9 10 11 (by decide +kernel) rfl
      (by decide +kernel) below above

end Relation

end Gosub
