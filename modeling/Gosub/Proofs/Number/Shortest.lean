import Gosub.Proofs.Number.Rounding

/-! Shortest decimals read back. On a grid of decimals, the points that are counted off are those
around the double; making the grid coarser leaves one of them, and the one that is taken is among
them.
-/

namespace Gosub.Decimal

open Binary64 (Within Canonical gapBelow_le)

namespace Grid

-----------------------------------------------------------------------------------------
-- Points around a double
-----------------------------------------------------------------------------------------

variable {grid : Grid} {m k : Nat} {q : ℤ}

theorem gapBelow_pos (m : Nat) (q : ℤ) : 1 ≤ gapBelow m q ∧ gapBelow m q ≤ 2 := by
  unfold gapBelow
  split <;> decide

theorem first_le_iff (positive : 0 < grid.step)
    : grid.first m q ≤ k
      ↔ (4 * m - gapBelow m q) * grid.unit ≤ k * (4 * grid.step)
        ∧ ((4 * m - gapBelow m q) * grid.unit = k * (4 * grid.step) → m % 2 = 0) := by
  have scale : 0 < 4 * grid.step := by omega
  unfold first
  split
  · next even =>
    rw [Nat.div_le_iff_le_mul_add_pred scale, Nat.mul_comm k]
    simp only [even, implies_true, and_true]
    omega
  · next odd =>
    rw [Nat.add_one_le_iff, Nat.div_lt_iff_lt_mul scale]
    simp only [odd, imp_false]
    omega

theorem le_last_iff (positive : 0 < grid.step) (unitPositive : 0 < grid.unit)
    : k ≤ grid.last m
      ↔ k * (4 * grid.step) ≤ (4 * m + 2) * grid.unit
        ∧ (k * (4 * grid.step) = (4 * m + 2) * grid.unit → m % 2 = 0) := by
  have scale : 0 < 4 * grid.step := by omega
  have high : 0 < (4 * m + 2) * grid.unit := Nat.mul_pos (by omega) unitPositive
  unfold last
  split
  · next even =>
    rw [Nat.le_div_iff_mul_le scale]
    simp only [even, implies_true, and_true]
  · next odd =>
    rw [Nat.le_div_iff_mul_le scale]
    simp only [odd, imp_false]
    omega

/-- The points of a grid that are counted off are those around the double. -/
theorem within_iff (stepPositive : 0 < grid.step) (unitPositive : 0 < grid.unit) (positive : 0 < m)
    : Within m q ((k : ℚ) * (grid.step / grid.unit))
      ↔ grid.first m q ≤ k ∧ k ≤ grid.last m := by
  have scale : (0 : ℚ) < grid.unit := by exact_mod_cast unitPositive
  have gap := gapBelow_pos m q
  have low : 4 * (m : ℚ) - gapBelow m q = (4 * m - gapBelow m q : Nat) := by
    rw [Nat.cast_sub (by omega)]
    push_cast
    rfl
  have high : 4 * (m : ℚ) + 2 = (4 * m + 2 : Nat) := by push_cast; rfl
  have point
      : 4 * ((k : ℚ) * (grid.step / grid.unit)) = (k * (4 * grid.step) : Nat) / grid.unit := by
    push_cast
    ring
  rw [first_le_iff stepPositive, le_last_iff stepPositive unitPositive]
  constructor
  · rintro ⟨above, below, even⟩
    rw [low, point, le_div_iff₀ scale] at above
    rw [high, point, div_le_iff₀ scale] at below
    rw [low, high, point, eq_div_iff scale.ne', div_eq_iff scale.ne'] at even
    norm_cast at above below even
    exact ⟨⟨above, even ∘ .inl⟩, below, even ∘ .inr⟩
  · rintro ⟨⟨above, lowest⟩, below, highest⟩
    refine ⟨?_, ?_, ?_⟩
    · rw [low, point, le_div_iff₀ scale]
      exact_mod_cast above
    · rw [high, point, div_le_iff₀ scale]
      exact_mod_cast below
    · rw [low, high, point, eq_div_iff scale.ne', div_eq_iff scale.ne']
      norm_cast
      exact fun tie => tie.elim lowest highest

/-- The next grid point above the double is above the lower midpoint. -/
theorem first_le_above (stepPositive : 0 < grid.step)
    : grid.first m q ≤ m * grid.unit / grid.step + 1 := by
  have division := Nat.div_add_mod (m * grid.unit) grid.step
  have remainder := Nat.mod_lt (m * grid.unit) stepPositive
  have low : (4 * m - gapBelow m q) * grid.unit ≤ 4 * (m * grid.unit) := by
    rw [← Nat.mul_assoc]
    exact Nat.mul_le_mul_right _ (Nat.sub_le _ _)
  have point : (m * grid.unit / grid.step + 1) * (4 * grid.step)
      = 4 * (grid.step * (m * grid.unit / grid.step)) + 4 * grid.step := by ring
  rw [first_le_iff stepPositive, point]
  omega

/-- The last grid point up to the double is below the upper midpoint. -/
theorem below_le_last (stepPositive : 0 < grid.step) (unitPositive : 0 < grid.unit)
    : m * grid.unit / grid.step ≤ grid.last m := by
  have division := Nat.div_add_mod (m * grid.unit) grid.step
  have high : (4 * m + 2) * grid.unit = 4 * (m * grid.unit) + 2 * grid.unit := by ring
  have point : m * grid.unit / grid.step * (4 * grid.step)
      = 4 * (grid.step * (m * grid.unit / grid.step)) := by ring
  rw [le_last_iff stepPositive unitPositive, high, point]
  omega

/-- On a grid that is fine enough, the last point up to the double is above the lower midpoint. -/
theorem first_le_below (stepPositive : 0 < grid.step) (positive : 0 < m)
    (fine : 4 * grid.step ≤ grid.unit)
    : grid.first m q ≤ m * grid.unit / grid.step := by
  have gap := gapBelow_pos m q
  have division := Nat.div_add_mod (m * grid.unit) grid.step
  have remainder := Nat.mod_lt (m * grid.unit) stepPositive
  have low : (4 * m - gapBelow m q) * grid.unit + grid.unit ≤ 4 * (m * grid.unit) := by
    rw [← Nat.add_one_mul, ← Nat.mul_assoc]
    exact Nat.mul_le_mul_right _ (by omega)
  have point : m * grid.unit / grid.step * (4 * grid.step)
      = 4 * (grid.step * (m * grid.unit / grid.step)) := by ring
  rw [first_le_iff stepPositive, point]
  omega

/-- The grid point that is taken is around the double where any point of the grid is. -/
theorem nearest_mem (stepPositive : 0 < grid.step) (unitPositive : 0 < grid.unit)
    (above : grid.first m q ≤ k) (below : k ≤ grid.last m)
    : grid.first m q ≤ grid.nearest m q ∧ grid.nearest m q ≤ grid.last m := by
  have upper : grid.first m q ≤ m * grid.unit / grid.step + 1 := first_le_above stepPositive
  have lower : m * grid.unit / grid.step ≤ grid.last m := below_le_last stepPositive unitPositive
  simp only [nearest]
  split
  · omega
  · split
    · omega
    · split <;> omega

end Grid

-----------------------------------------------------------------------------------------
-- Coarser grids
-----------------------------------------------------------------------------------------

/-- One of the numbers that are counted off is a multiple of the power of ten that the grid is made
coarser by.
-/
theorem exists_mul_of_coarsenings {low high : Nat} (some : low ≤ high)
    : ∃ k, low ≤ k * 10 ^ coarsenings low high ∧ k * 10 ^ coarsenings low high ≤ high := by
  fun_induction coarsenings low high with
  | case1 low high more ih =>
      obtain ⟨k, above, below⟩ := ih more.2
      refine ⟨k, ?_, ?_⟩
      all_goals
        rw [pow_succ, ← Nat.mul_assoc]
        omega
  | case2 low high none => exact ⟨high, by simpa using some, by simp⟩

namespace Grid

theorem of_ratio (q e : ℤ) : ((of q e).step : ℚ) / (of q e).unit = 10 ^ e / 2 ^ q := by
  have ten : (10 : ℚ) ^ e = (Nat.pow 10 e.toNat : Nat) / (Nat.pow 10 (-e).toNat : Nat) :=
    Binary64.zpow_eq_ratio 10 e
  rw [Binary64.two_zpow_eq_ratio, ten, div_div_div_eq, ← Nat.cast_mul, ← Nat.cast_mul]
  simp only [of, Nat.mul_comm]

theorem of_step_pos (q e : ℤ) : 0 < (of q e).step :=
  Nat.mul_pos (Nat.two_pow_pos _) (Nat.pow_pos (by decide))

theorem of_unit_pos (q e : ℤ) : 0 < (of q e).unit :=
  Nat.mul_pos (Nat.two_pow_pos _) (Nat.pow_pos (by decide))

end Grid

-----------------------------------------------------------------------------------------
-- The fine grid
-----------------------------------------------------------------------------------------

/-- Powers of two numbers that differ by a factor of at most `5 / 2` differ by as many of them. -/
theorem zpow_le_of_close {T W : ℚ} (positive : 0 < T) (below : T ≤ W) (above : W ≤ 5 / 2 * T)
    {q : ℤ} {count : Nat} (bound : q.natAbs ≤ count)
    : T ^ q ≤ (5 / 2) ^ count * W ^ q := by
  have larger : 0 < W := lt_of_lt_of_le positive below
  rcases Int.eq_nat_or_neg q with ⟨n, rfl | rfl⟩
  · have one : (1 : ℚ) ≤ (5 / 2) ^ count := one_le_pow₀ (by norm_num)
    calc T ^ (n : ℤ) ≤ W ^ (n : ℤ) := zpow_le_zpow_left₀ (by positivity) positive.le below
      _ ≤ (5 / 2) ^ count * W ^ (n : ℤ) := le_mul_of_one_le_left (by positivity) one
  · have factors : ((5 : ℚ) / 2) ^ n ≤ (5 / 2) ^ count :=
      pow_le_pow_right₀ (by norm_num) (by omega)
    calc T ^ (-n : ℤ) = (5 / 2) ^ n * ((5 / 2 * T) ^ n)⁻¹ := by
          rw [zpow_neg, zpow_natCast, mul_pow]
          field_simp
      _ ≤ (5 / 2) ^ count * (W ^ n)⁻¹ := by gcongr
      _ = (5 / 2) ^ count * W ^ (-n : ℤ) := by rw [zpow_neg, zpow_natCast]

/-- A power of ten is at most a quarter of a power of two, if the fraction `1233 / 4096` for the
decimal logarithm of two puts it more than one decimal place below. Both are compared by their
`4096`th powers, where the error of the fraction is a factor of `5 / 2` for each unit of `q`.
-/
theorem four_mul_ten_zpow_le {q e : ℤ} (bound : q.natAbs ≤ 4096)
    (below : 4096 * (e + 1) ≤ 1233 * q)
    : 4 * (10 : ℚ) ^ e ≤ 2 ^ q := by
  generalize ten : (10 : ℚ) ^ 1233 = T
  generalize two : (2 : ℚ) ^ 4096 = W
  have smaller : T ≤ W := by
    have : (10 ^ 1233 : Nat) ≤ 2 ^ 4096 := by decide +kernel
    rw [← ten, ← two]
    exact_mod_cast this
  have close : W ≤ 5 / 2 * T := by
    have : (2 * 2 ^ 4096 : Nat) ≤ 5 * 10 ^ 1233 := by decide +kernel
    have : 2 * W ≤ 5 * T := by
      rw [← ten, ← two]
      exact_mod_cast this
    linarith only [this]
  have powers : ((10 : ℚ) ^ (e + 1)) ^ 4096 ≤ (5 / 2 * 2 ^ q) ^ 4096 := by
    calc ((10 : ℚ) ^ (e + 1)) ^ 4096 = 10 ^ (4096 * (e + 1)) := by
          rw [← zpow_natCast, ← zpow_mul, mul_comm]
          rfl
      _ ≤ 10 ^ (1233 * q) := zpow_le_zpow_right₀ (by norm_num) below
      _ = T ^ q := by
          rw [zpow_mul, ← ten]
          rfl
      _ ≤ (5 / 2) ^ 4096 * W ^ q := zpow_le_of_close (ten ▸ by positivity) smaller close bound
      _ = (5 / 2 * 2 ^ q) ^ 4096 := by
          rw [mul_pow, ← two, ← zpow_natCast 2, ← zpow_natCast (2 ^ q), ← zpow_mul, ← zpow_mul,
            mul_comm q]
  have next : (10 : ℚ) ^ (e + 1) ≤ 5 / 2 * 2 ^ q :=
    le_of_pow_le_pow_left₀ (by decide) (by positivity) powers
  rw [zpow_add_one₀ (by norm_num)] at next
  linarith only [next]

/-- The step of the fine grid is at most a quarter of the spacing of the doubles. -/
theorem Grid.fine {q : ℤ} (least : Binary64.minExponent ≤ q) (most : q ≤ 971)
    : 4 * (of q (fineExponent q)).step ≤ (of q (fineExponent q)).unit := by
  have unitPositive : (0 : ℚ) < (of q (fineExponent q)).unit := by
    exact_mod_cast of_unit_pos q (fineExponent q)
  have small : 4 * (10 : ℚ) ^ fineExponent q ≤ 2 ^ q := by
    simp only [Binary64.minExponent] at least
    apply four_mul_ten_zpow_le
    · omega
    · simp only [fineExponent]
      omega
  have quarter : 4 * ((of q (fineExponent q)).step : ℚ) / (of q (fineExponent q)).unit ≤ 1 := by
    rw [mul_div_assoc, of_ratio, ← mul_div_assoc]
    exact div_le_one_of_le₀ small (by positivity)
  rw [div_le_one unitPositive] at quarter
  exact_mod_cast quarter

/-- The shortest decimal of a double is around it. The fine grid has a point there, and so has every
grid that it is made coarser to.
-/
theorem shortest_within {m : Nat} {q : ℤ} (canonical : Canonical m q) (positive : 0 < m)
    : Within m q ((shortest m q).digits * (10 ^ (shortest m q).exponent / 2 ^ q)) := by
  generalize exponent : fineExponent q = e
  have stepPositive := Grid.of_step_pos q
  have unitPositive := Grid.of_unit_pos q
  have fine : 4 * (Grid.of q e).step ≤ (Grid.of q e).unit := by
    rw [← exponent]
    exact Grid.fine canonical.least canonical.most
  have counted : (Grid.of q e).first m q ≤ (Grid.of q e).last m :=
    le_trans (Grid.first_le_below (stepPositive e) positive fine)
      (Grid.below_le_last (stepPositive e) (unitPositive e))
  obtain ⟨k, above, below⟩ := exists_mul_of_coarsenings counted
  generalize coarser : coarsenings ((Grid.of q e).first m q) ((Grid.of q e).last m) = c
    at above below
  have around : Within m q ((k : ℚ) * (10 ^ (e + c) / 2 ^ q)) := by
    have := (Grid.within_iff (stepPositive e) (unitPositive e) positive).mpr ⟨above, below⟩
    rw [Grid.of_ratio] at this
    rw [zpow_add₀ (by norm_num), zpow_natCast]
    push_cast at this
    convert this using 1
    ring
  rw [← Grid.of_ratio, Grid.within_iff (stepPositive _) (unitPositive _) positive] at around
  have taken := Grid.nearest_mem (stepPositive _) (unitPositive _) around.1 around.2
  rw [← Grid.within_iff (stepPositive _) (unitPositive _) positive, Grid.of_ratio] at taken
  simpa only [shortest, exponent, coarser] using taken

end Gosub.Decimal
