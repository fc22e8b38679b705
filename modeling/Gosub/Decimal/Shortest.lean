import Gosub.Binary64

/-!
Shortest decimals: the fewest digits that read back as a given double and, among the decimals with
that many digits, the nearest one.

The reals that round to `m · 2 ^ q` form an interval around it. On a grid of multiples of `10 ^ e`
fine enough to have points in every such interval, the points in it are counted off from both
ends; for as long as one of them is a multiple of ten, the grid is made coarser.
-/

namespace Gosub

/-- The decimal number `digits · 10 ^ exponent`. -/
structure Decimal where
  digits : Nat
  exponent : Int
deriving DecidableEq, Repr

namespace Decimal

/-- The grid of multiples of `10 ^ e`, scaled so that `m · 2 ^ q` is `m · unit` and the step of
the grid is `step`. -/
structure Grid where
  unit : Nat
  step : Nat

namespace Grid

/-- The common scale of `2 ^ q` and `10 ^ e`, both made whole. -/
def of (q e : Int) : Grid where
  unit := Nat.pow 2 q.toNat * Nat.pow 10 (-e).toNat
  step := Nat.pow 2 (-q).toNat * Nat.pow 10 e.toNat

end Grid

/-- The distance from `m · 2 ^ q` down to the midpoint with the double below it, in quarters of
`2 ^ q`. It is shorter where the double below has the next smaller exponent. -/
def gapBelow (m : Nat) (q : Int) : Nat :=
  if m = Binary64.hiddenBit ∧ Binary64.minExponent < q then 1 else 2

namespace Grid

/-- The least grid point that rounds to `m · 2 ^ q`. The ends of the interval belong to it exactly
when `m` is even, because ties go to the even significand. -/
def first (grid : Grid) (m : Nat) (q : Int) : Nat :=
  let low := (4 * m - gapBelow m q) * grid.unit
  let step := 4 * grid.step
  if m % 2 = 0 then (low + step - 1) / step else low / step + 1

/-- The greatest grid point that rounds to `m · 2 ^ q`. -/
def last (grid : Grid) (m : Nat) : Nat :=
  let high := (4 * m + 2) * grid.unit
  let step := 4 * grid.step
  if m % 2 = 0 then high / step else (high - 1) / step

/-- The grid point nearest to `m · 2 ^ q` among those that round to it, where there are any. Of
two that are equally near, the upper one is taken. -/
def nearest (grid : Grid) (m : Nat) (q : Int) : Nat :=
  let below := m * grid.unit / grid.step
  if below < grid.first m q then below + 1
  else if grid.last m ≤ below then below
  else if 2 * (m * grid.unit % grid.step) < grid.step then below
  else below + 1

end Grid

/-- How many times the numbers from `low` to `high` can be divided by ten, keeping only the
multiples of ten, before none is left. -/
def coarsenings (low high : Nat) : Nat :=
  if 0 < high ∧ (low + 9) / 10 ≤ high / 10 then coarsenings ((low + 9) / 10) (high / 10) + 1 else 0
termination_by high

/-- The exponent of a grid that has a point in the interval of every `m · 2 ^ q`: its step is
about a tenth of `2 ^ q` at most, as `1233 / 4096` is just below the decimal logarithm of two. -/
def fineExponent (q : Int) : Int :=
  q * 1233 / 4096 - 1

/-- The shortest decimal that rounds to `m · 2 ^ q`, for a positive `m`. -/
def shortest (m : Nat) (q : Int) : Decimal :=
  let fine := Grid.of q (fineExponent q)
  let exponent := fineExponent q + coarsenings (fine.first m q) (fine.last m)
  { digits := (Grid.of q exponent).nearest m q, exponent }

end Decimal

end Gosub
