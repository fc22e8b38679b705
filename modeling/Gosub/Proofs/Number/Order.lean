import Gosub.Evaluation.Comparison
import Mathlib

/-! The order of doubles. Apart from the one that is no number, every double has a place in a linear
order, and comparing two doubles is comparing their places.
-/

namespace Gosub

namespace Binary64

open Float.Model

-----------------------------------------------------------------------------------------
-- Comparisons by the parts of a double
-----------------------------------------------------------------------------------------

theorem lt_iff_compare {x y : Float}
    : x < y ↔ x.toModel.unpack.compare y.toModel.unpack = some .lt := by
  change decide (x.toModel < y.toModel) = true ↔ _
  rw [decide_eq_true_iff]
  exact beq_iff_eq

theorem le_iff_compare {x y : Float}
    : x ≤ y ↔ (x.toModel.unpack.compare y.toModel.unpack).any (·.isLE) = true := by
  change decide (x.toModel ≤ y.toModel) = true ↔ _
  rw [decide_eq_true_iff]
  exact Iff.rfl

theorem beq_iff_compare {x y : Float}
    : (x == y) = true ↔ x.toModel.unpack.compare y.toModel.unpack = some .eq := by
  change (x.toModel.unpack.compare y.toModel.unpack == some .eq) = true ↔ _
  exact beq_iff_eq

theorem isNaN_iff_unpack {x : Float} : x.isNaN = true ↔ x.toModel.unpack = .notANumber :=
  UnpackedFloat.isNaN_iff

-----------------------------------------------------------------------------------------
-- Places
-----------------------------------------------------------------------------------------

/-- The place of a double in the order: negative infinity, the negative numbers, the zeros, the
positive numbers and infinity. Numbers of one sign are told apart by the exponent and then by the
significand, both turned round for negative numbers.
-/
def place (x : Float) : ℤ ×ₗ ℤ ×ₗ ℤ :=
  match x.toModel.unpack with
  | .infinity .negative => toLex (-2, toLex (0, 0))
  | .finite .negative m e _ => toLex (-1, toLex (-e, -(m : ℤ)))
  | .zero _ | .notANumber => toLex (0, toLex (0, 0))
  | .finite .positive m e _ => toLex (1, toLex (e, (m : ℤ)))
  | .infinity .positive => toLex (2, toLex (0, 0))

theorem compare_toLex {α β : Type} [LinearOrder α] [LinearOrder β] (a b : α) (c d : β)
    : compare (toLex (a, c)) (toLex (b, d)) = (compare a b).then (compare c d) := by
  rw [Prod.Lex.compare_def]
  rfl

theorem compare_neg (a b : ℤ) : compare (-a) (-b) = (compare a b).swap := by
  rcases lt_trichotomy a b with less | rfl | greater
  · rw [compare_lt_iff_lt.mpr less, compare_gt_iff_gt.mpr (Int.neg_lt_neg less)]
    rfl
  · simp
  · rw [compare_gt_iff_gt.mpr greater, compare_lt_iff_lt.mpr (Int.neg_lt_neg greater)]
    rfl

theorem compare_natCast (m n : Nat) : compare (m : ℤ) (n : ℤ) = compare m n := by
  rcases lt_trichotomy m n with less | rfl | greater
  · rw [compare_lt_iff_lt.mpr less, compare_lt_iff_lt.mpr (Int.ofNat_lt.mpr less)]
  · simp
  · rw [compare_gt_iff_gt.mpr greater, compare_gt_iff_gt.mpr (Int.ofNat_lt.mpr greater)]

/-- Numbers compare like their places, by cases on the two. -/
theorem compare_eq_place {x y : Float} (left : x.isNaN = false) (right : y.isNaN = false)
    : x.toModel.unpack.compare y.toModel.unpack = some (compare (place x) (place y)) := by
  rw [← Bool.not_eq_true, isNaN_iff_unpack] at left right
  unfold place
  generalize x.toModel.unpack = a, y.toModel.unpack = b at left right ⊢
  cases a with
  | notANumber => exact absurd rfl left
  | infinity s =>
      cases b with
      | notANumber => exact absurd rfl right
      | infinity t => cases s <;> cases t <;> rfl
      | zero t => cases s <;> rfl
      | finite t => cases s <;> cases t <;> rfl
  | zero s =>
      cases b with
      | notANumber => exact absurd rfl right
      | infinity t => cases t <;> rfl
      | zero t => rfl
      | finite t => cases t <;> rfl
  | finite s m e =>
      cases b with
      | notANumber => exact absurd rfl right
      | infinity t => cases s <;> cases t <;> rfl
      | zero t => cases s <;> rfl
      | finite t n f =>
          cases s <;> cases t
          · simp only [compare_toLex, compare_neg, compare_natCast, ← Ordering.swap_then]
            rfl
          · rfl
          · rfl
          · simp only [compare_toLex, compare_natCast]
            rfl

theorem beq_iff_place {x y : Float} (left : x.isNaN = false) (right : y.isNaN = false)
    : (x == y) = true ↔ place x = place y := by
  rw [beq_iff_compare, compare_eq_place left right, Option.some.injEq, compare_eq_iff_eq]

end Binary64

-----------------------------------------------------------------------------------------
-- The order of two numbers
-----------------------------------------------------------------------------------------

/-- A double that is no number has no order with any, by cases on the other. -/
theorem compareNumbers?_of_isNaN {x y : Float} (none : x.isNaN = true ∨ y.isNaN = true)
    : compareNumbers? x y = .none := by
  have incomparable {a b : Float} (none : a.isNaN = true ∨ b.isNaN = true)
      : a.toModel.unpack.compare b.toModel.unpack = .none := by
    rw [Binary64.isNaN_iff_unpack, Binary64.isNaN_iff_unpack] at none
    rcases none with none | none
    · rw [none]
      rfl
    · rw [none]
      cases a.toModel.unpack <;> rfl
  simp [compareNumbers?, Binary64.lt_iff_compare, Binary64.beq_iff_compare, incomparable none,
    incomparable none.symm]

/-- Two numbers have the order of their places. -/
theorem compareNumbers?_eq_place {x y : Float} (left : x.isNaN = false) (right : y.isNaN = false)
    : compareNumbers? x y = some (compare (Binary64.place x) (Binary64.place y)) := by
  simp only [compareNumbers?, Binary64.lt_iff_compare, Binary64.beq_iff_compare,
    Binary64.compare_eq_place left right, Binary64.compare_eq_place right left,
    Option.some.injEq, compare_lt_iff_lt, compare_eq_iff_eq]
  rcases lt_trichotomy (Binary64.place x) (Binary64.place y) with less | same | greater
  · rw [if_pos less, compare_lt_iff_lt.mpr less]
  · simp [same]
  · rw [if_neg (lt_asymm greater), if_neg (ne_of_gt greater), if_pos greater,
      compare_gt_iff_gt.mpr greater]

theorem compareNumbers?_swap (x y : Float)
    : compareNumbers? y x = (compareNumbers? x y).map Ordering.swap := by
  by_cases none : x.isNaN = true ∨ y.isNaN = true
  · rw [compareNumbers?_of_isNaN none, compareNumbers?_of_isNaN none.symm]
    rfl
  · rw [not_or, Bool.not_eq_true, Bool.not_eq_true] at none
    rw [compareNumbers?_eq_place none.1 none.2, compareNumbers?_eq_place none.2 none.1,
      Option.map_some, ← Std.OrientedCmp.eq_swap]

/-- Where one number is less than another, both have places. -/
theorem compareNumbers?_trans {x y z : Float} (first : compareNumbers? x y = some .lt)
    (second : compareNumbers? y z = some .lt)
    : compareNumbers? x z = some .lt := by
  have numbers {a b : Float} (less : compareNumbers? a b = some .lt)
      : a.isNaN = false ∧ b.isNaN = false := by
    rw [← Bool.not_eq_true, ← Bool.not_eq_true, ← not_or]
    intro none
    rw [compareNumbers?_of_isNaN none] at less
    cases less
  obtain ⟨left, middle⟩ := numbers first
  obtain ⟨-, right⟩ := numbers second
  rw [compareNumbers?_eq_place left middle, Option.some.injEq] at first
  rw [compareNumbers?_eq_place middle right, Option.some.injEq] at second
  rw [compareNumbers?_eq_place left right, Option.some.injEq]
  exact Std.TransCmp.lt_trans first second

end Gosub
