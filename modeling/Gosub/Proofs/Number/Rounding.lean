import Gosub.Decimal.Shortest
import Mathlib

/-! Rounding. A finite double is determined by its sign, its significand and its exponent. Every
ratio between the midpoints around it has this double as the nearest one; the midpoints themselves
belong to the double with the even significand.
-/

namespace Gosub.Binary64

-----------------------------------------------------------------------------------------
-- Bits
-----------------------------------------------------------------------------------------

/-- A double is put together again from its sign and its magnitude bits. -/
theorem ofMagnitudeBits_toBits (x : Float)
    : ofMagnitudeBits (decide (signBit ≤ x.toBits.toNat)) (x.toBits.toNat % signBit) = x := by
  have bound : x.toBits.toNat < 18446744073709551616 := x.toBits.toNat_lt
  by_cases negative : signBit ≤ x.toBits.toNat
  · have word : signBit + x.toBits.toNat % signBit = x.toBits.toNat := by
      simp only [signBit] at *
      omega
    simp [ofMagnitudeBits, negative, word]
  · have word : x.toBits.toNat % signBit = x.toBits.toNat := by
      simp only [signBit] at *
      omega
    simp [ofMagnitudeBits, negative, word]

/-- The significands and exponents of finite doubles: a significand fits below the bit above the
hidden one and has the hidden one, except at the least exponent.
-/
structure Canonical (m : Nat) (q : Int) : Prop where
  fits : m < 2 * hiddenBit
  least : minExponent ≤ q
  most : q ≤ 971
  hidden : q = minExponent ∨ hiddenBit ≤ m

/-- The magnitude bits of `m · 2 ^ q`. -/
def magnitudeBits (m : Nat) (q : Int) : Nat :=
  (q - minExponent).toNat * hiddenBit + m

/-- The parts of finite magnitude bits make a canonical significand and exponent, and these make the
same magnitude bits again.
-/
theorem canonical_of_parts {field fraction : Nat} (finite : field < 2047)
    (short : fraction < hiddenBit)
    : Canonical (if field = 0 then fraction else fraction + hiddenBit)
        ((max field 1 : Nat) - 1 + minExponent)
      ∧ magnitudeBits (if field = 0 then fraction else fraction + hiddenBit)
          ((max field 1 : Nat) - 1 + minExponent)
        = hiddenBit * field + fraction := by
  by_cases subnormal : field = 0
  · rw [if_pos subnormal]
    refine ⟨⟨by omega, ?_, ?_, .inl ?_⟩, ?_⟩ <;>
      simp only [magnitudeBits, hiddenBit, minExponent] at * <;> omega
  · rw [if_neg subnormal]
    refine ⟨⟨by omega, ?_, ?_, .inr (Nat.le_add_left ..)⟩, ?_⟩ <;>
      simp only [magnitudeBits, hiddenBit, minExponent] at * <;> omega

theorem of_view_finite {x : Float} {negative : Bool} {m : Nat} {q : Int}
    (viewed : view x = .finite negative m q)
    : Canonical m q ∧ x = ofMagnitudeBits negative (magnitudeBits m q) := by
  simp only [view] at viewed
  split at viewed
  · cases viewed
  · split at viewed
    · cases viewed
    · next finite ordinary =>
      simp only [View.finite.injEq] at viewed
      obtain ⟨rfl, rfl, rfl⟩ := viewed
      have field : x.toBits.toNat % signBit / hiddenBit < 2047 := by
        simp only [infinityBits, hiddenBit] at *
        omega
      obtain ⟨canonical, same⟩ :=
        canonical_of_parts field (Nat.mod_lt (x.toBits.toNat % signBit) (by decide))
      rw [Nat.div_add_mod] at same
      exact ⟨canonical, by rw [same, ofMagnitudeBits_toBits]⟩

theorem of_view_infinite {x : Float} {negative : Bool} (viewed : view x = .infinite negative)
    : x = infinity negative := by
  have restored := ofMagnitudeBits_toBits x
  simp only [view] at viewed
  split at viewed
  · next infinite =>
    cases viewed
    rw [infinite] at restored
    exact restored.symm
  · split at viewed <;> cases viewed

/-- Only one double is no number, as the others that could stand for none are not valid. -/
theorem of_view_notANumber {x : Float} (viewed : view x = .notANumber) : x = nan := by
  obtain ⟨⟨bits, valid⟩⟩ := x
  have payload : infinityBits < bits.toNat % signBit := by
    simp only [view] at viewed
    split at viewed
    · cases viewed
    · split at viewed
      · next beyond => exact beyond
      · cases viewed
  simp only [infinityBits, signBit] at payload
  have canonical : bits.toBitVec = Float.Model.UnpackedFloat.packedNaN .binary64 := by
    apply valid.eq_packedNaN
    · rw [Float.Model.UnpackedFloat.unpackExponent_def]
      apply BitVec.eq_of_toNat_eq
      simp [Nat.shiftRight_eq_div_pow]
      omega
    · rw [Float.Model.UnpackedFloat.unpackMantissa_def]
      intro zero
      have := congrArg BitVec.toNat zero
      simp at this
      omega
  have word : bits = UInt64.ofBitVec (Float.Model.UnpackedFloat.packedNaN .binary64) := by
    rw [← canonical]
  subst word
  rfl

-----------------------------------------------------------------------------------------
-- Quotients
-----------------------------------------------------------------------------------------

/-- The ratio is nearest to the natural number `k`, or half-way to a neighbour and `k` is even. -/
structure NearestNat (k : Nat) (r : ℚ) : Prop where
  above : 2 * (k : ℚ) - 1 ≤ 2 * r
  below : 2 * r ≤ 2 * k + 1
  even : 2 * (k : ℚ) - 1 = 2 * r ∨ 2 * r = 2 * k + 1 → k % 2 = 0

/-- Nearness in whole numbers. -/
theorem NearestNat.scaled {num den k : Nat} (positive : 0 < den)
    (nearest : NearestNat k ((num : ℚ) / den))
    : 2 * (k * den) ≤ 2 * num + den ∧ 2 * num ≤ 2 * (k * den) + den
      ∧ (2 * (k * den) = 2 * num + den ∨ 2 * num = 2 * (k * den) + den → k % 2 = 0) := by
  have scale : (0 : ℚ) < den := by exact_mod_cast positive
  obtain ⟨above, below, even⟩ := nearest
  rw [← mul_div_assoc] at above below even
  rw [le_div_iff₀ scale] at above
  rw [div_le_iff₀ scale] at below
  rw [eq_div_iff scale.ne', div_eq_iff scale.ne'] at even
  refine ⟨?_, ?_, fun tie => even ?_⟩
  · have : (2 * (k * den) : ℚ) ≤ 2 * num + den := by linarith
    exact_mod_cast this
  · have : (2 * num : ℚ) ≤ 2 * (k * den) + den := by linarith
    exact_mod_cast this
  · rcases tie with tie | tie
    · have : (2 * (k * den) : ℚ) = 2 * num + den := by exact_mod_cast tie
      exact .inl (by linarith)
    · have : (2 * num : ℚ) = 2 * (k * den) + den := by exact_mod_cast tie
      exact .inr (by linarith)

theorem roundHalfEven_eq {num den k : Nat} (positive : 0 < den)
    (nearest : NearestNat k ((num : ℚ) / den))
    : roundHalfEven num den = k := by
  obtain ⟨above, below, even⟩ := nearest.scaled positive
  have division := Nat.div_add_mod num den
  have remainder := Nat.mod_lt num positive
  rw [Nat.mul_comm] at division
  have neighbours : k = num / den ∨ k = num / den + 1 := by
    have least : num / den ≤ k := by
      by_contra smaller
      have := Nat.mul_le_mul_right den (Nat.lt_of_not_le smaller)
      rw [Nat.succ_mul] at this
      omega
    have most : k ≤ num / den + 1 := by
      by_contra larger
      have := Nat.mul_le_mul_right den (Nat.lt_of_not_le larger)
      rw [Nat.succ_mul, Nat.succ_mul] at this
      omega
    omega
  simp only [roundHalfEven]
  generalize num / den = quotient at *
  rcases neighbours with rfl | rfl
  · split
    · rfl
    · split <;> omega
  · rw [Nat.add_mul, Nat.one_mul] at above below even
    split
    · omega
    · split <;> omega

-----------------------------------------------------------------------------------------
-- Units
-----------------------------------------------------------------------------------------

theorem zpow_eq_ratio (b : Nat) [NeZero b] (e : ℤ)
    : (b : ℚ) ^ e = (Nat.pow b e.toNat : Nat) / (Nat.pow b (-e).toNat : Nat) := by
  have scale : (b : ℚ) ≠ 0 := NeZero.ne _
  simp only [Nat.pow_eq, Nat.cast_pow]
  rw [← zpow_natCast, ← zpow_natCast, ← zpow_sub₀ scale]
  congr 1
  omega

theorem two_zpow_eq_ratio (e : ℤ)
    : (2 : ℚ) ^ e = (Nat.pow 2 e.toNat : Nat) / (Nat.pow 2 (-e).toNat : Nat) :=
  zpow_eq_ratio 2 e

theorem lt_two_zpow_iff {r : ℚ} (positive : 0 < r) {e : ℤ} : r < 2 ^ e ↔ Int.log 2 r < e :=
  Int.lt_zpow_iff_log_lt (b := 2) (by decide) positive

theorem two_zpow_le_iff {r : ℚ} (positive : 0 < r) {e : ℤ} : 2 ^ e ≤ r ↔ e ≤ Int.log 2 r :=
  Int.zpow_le_iff_le_log (b := 2) (by decide) positive

/-- The unit of a positive ratio is that of its binary logarithm. -/
theorem unitExponent_eq {num den : Nat} (numPositive : 0 < num) (denPositive : 0 < den)
    : unitExponent num den = max (Int.log 2 ((num : ℚ) / den) - 52) minExponent := by
  have numScale : (0 : ℚ) < num := by exact_mod_cast numPositive
  have denScale : (0 : ℚ) < den := by exact_mod_cast denPositive
  have ratioPositive : (0 : ℚ) < (num : ℚ) / den := div_pos numScale denScale
  -- The lengths of the two numbers give their logarithms up to one.
  have numLow : (2 : ℚ) ^ (num.log2 : ℤ) ≤ num := by
    exact_mod_cast Nat.log2_self_le numPositive.ne'
  have numHigh : (num : ℚ) < 2 ^ (num.log2 + 1 : ℤ) := by
    exact_mod_cast Nat.lt_log2_self
  have denLow : (2 : ℚ) ^ (den.log2 : ℤ) ≤ den := by
    exact_mod_cast Nat.log2_self_le denPositive.ne'
  have denHigh : (den : ℚ) < 2 ^ (den.log2 + 1 : ℤ) := by
    exact_mod_cast Nat.lt_log2_self
  have least : (num.log2 : ℤ) - (den.log2 + 1) ≤ Int.log 2 ((num : ℚ) / den) := by
    rw [← two_zpow_le_iff ratioPositive, zpow_sub₀ two_ne_zero]
    gcongr
  have most : Int.log 2 ((num : ℚ) / den) < (num.log2 : ℤ) + 1 - den.log2 := by
    rw [← lt_two_zpow_iff ratioPositive, zpow_sub₀ two_ne_zero]
    exact div_lt_div₀ numHigh denLow (zpow_pos two_pos _).le (zpow_pos two_pos _)
  generalize guessed : (num.log2 : ℤ) - den.log2 - 53 = guess at *
  have fits : num * Nat.pow 2 (-(guess + 53)).toNat < den * Nat.pow 2 (guess + 53).toNat
      ↔ Int.log 2 ((num : ℚ) / den) < guess + 53 := by
    have scale : (0 : ℚ) < (Nat.pow 2 (-(guess + 53)).toNat : Nat) := by
      exact_mod_cast Nat.two_pow_pos _
    rw [← lt_two_zpow_iff ratioPositive, two_zpow_eq_ratio, div_lt_div_iff₀ denScale scale,
      mul_comm _ (den : ℚ)]
    exact_mod_cast Iff.rfl
  simp only [unitExponent, guessed]
  rw [if_congr fits rfl rfl]
  split <;> congr 1 <;> omega

/-- A ratio is rounded in units of `2 ^ e`. -/
theorem roundHalfEven_scaled {num den k : Nat} {e : ℤ} (denPositive : 0 < den)
    (nearest : NearestNat k ((num : ℚ) / den / 2 ^ e))
    : roundHalfEven (num * Nat.pow 2 (-e).toNat) (den * Nat.pow 2 e.toNat) = k := by
  have positive : 0 < den * Nat.pow 2 e.toNat := Nat.mul_pos denPositive (Nat.two_pow_pos _)
  apply roundHalfEven_eq positive
  rwa [Nat.cast_mul, Nat.cast_mul, ← div_div_div_eq, ← two_zpow_eq_ratio]

-----------------------------------------------------------------------------------------
-- Intervals
-----------------------------------------------------------------------------------------

/-- The number `s · 2 ^ q` is between the midpoints around `m · 2 ^ q`, or it is one of them and `m`
is even.
-/
structure Within (m : Nat) (q : ℤ) (s : ℚ) : Prop where
  above : 4 * (m : ℚ) - Decimal.gapBelow m q ≤ 4 * s
  below : 4 * s ≤ 4 * m + 2
  even : 4 * (m : ℚ) - Decimal.gapBelow m q = 4 * s ∨ 4 * s = 4 * m + 2 → m % 2 = 0

theorem gapBelow_le (m : Nat) (q : ℤ) : (Decimal.gapBelow m q : ℚ) ≤ 2 := by
  unfold Decimal.gapBelow
  split <;> norm_num

namespace Within

variable {m : Nat} {q : ℤ} {s : ℚ}

theorem positive (within : Within m q s) (positive : 0 < m) : 0 < s := by
  have above := within.above
  have gap := gapBelow_le m q
  have : (1 : ℚ) ≤ m := by exact_mod_cast positive
  linarith

theorem lt_double (within : Within m q s) (canonical : Canonical m q) : s < 2 * hiddenBit := by
  have below := within.below
  have : (m : ℚ) + 1 ≤ 2 * hiddenBit := by exact_mod_cast canonical.fits
  linarith

theorem nearestNat (within : Within m q s) : NearestNat m s := by
  obtain ⟨above, below, even⟩ := within
  have gap := gapBelow_le m q
  refine ⟨by linarith, by linarith, ?_⟩
  rintro (lowest | highest)
  · exact even (.inl (by linarith))
  · exact even (.inr (by linarith))

/-- Below the least normal significand, the unit is half as large. -/
theorem boundary (within : Within m q s) (normal : minExponent < q) (hidden : hiddenBit ≤ m)
    (less : s < hiddenBit)
    : m = hiddenBit ∧ NearestNat (2 * hiddenBit) (2 * s) := by
  have above := within.above
  unfold Decimal.gapBelow at above
  split at above
  · next lowest =>
    obtain ⟨rfl, _⟩ := lowest
    refine ⟨rfl, ⟨?_, ?_, fun _ => by omega⟩⟩ <;> push_cast at above ⊢ <;> linarith
  · next inner =>
    have : hiddenBit + 1 ≤ m := by
      by_contra small
      exact inner ⟨by omega, normal⟩
    have : (hiddenBit : ℚ) + 1 ≤ m := by exact_mod_cast this
    push_cast at above
    linarith

end Within

theorem magnitudeBits_lt {m : Nat} {q : ℤ} (canonical : Canonical m q)
    : magnitudeBits m q < infinityBits := by
  obtain ⟨fits, least, most, _⟩ := canonical
  simp only [magnitudeBits, infinityBits, hiddenBit, minExponent] at *
  omega

/-- Every ratio around a finite double is read as this double. The unit of the ratio is that of the
double, or half of it just below the least normal significand.
-/
theorem nearestBits_eq {num den m : Nat} {q : ℤ} (canonical : Canonical m q) (positive : 0 < m)
    (denPositive : 0 < den) (within : Within m q ((num : ℚ) / den / 2 ^ q))
    : nearestBits num den = magnitudeBits m q := by
  have unit : (0 : ℚ) < 2 ^ q := zpow_pos two_pos q
  have ratio : 0 < (num : ℚ) / den := by
    have := within.positive positive
    rwa [div_pos_iff_of_pos_right unit] at this
  have numPositive : 0 < num := by
    rcases Nat.eq_zero_or_pos num with rfl | found
    · simp at ratio
    · exact found
  have finite := magnitudeBits_lt canonical
  have hidden : (hiddenBit : ℚ) = 2 ^ (52 : ℤ) := by norm_num [hiddenBit]
  have log : Int.log 2 ((num : ℚ) / den) < q + 53 := by
    have less := within.lt_double canonical
    rw [div_lt_iff₀ unit] at less
    rw [← lt_two_zpow_iff ratio]
    calc (num : ℚ) / den < 2 * hiddenBit * 2 ^ q := less
      _ = 2 ^ (q + 53) := by
        rw [hidden, ← zpow_one_add₀ two_ne_zero, ← zpow_add₀ two_ne_zero]
        ring_nf
  simp only [nearestBits, numPositive.ne', if_false, unitExponent_eq numPositive denPositive]
  by_cases same : max (Int.log 2 ((num : ℚ) / den) - 52) minExponent = q
  · rw [same, roundHalfEven_scaled denPositive within.nearestNat]
    exact Nat.min_eq_right finite.le
  · -- The ratio is then smaller than any other around a normal double.
    have normal : minExponent < q := by
      have := canonical.least
      omega
    have less : (num : ℚ) / den / 2 ^ q < hiddenBit := by
      rw [div_lt_iff₀ unit, hidden, ← zpow_add₀ two_ne_zero, lt_two_zpow_iff ratio]
      omega
    obtain ⟨rfl, nearest⟩ :=
      within.boundary normal (canonical.hidden.resolve_left normal.ne') less
    have least : q + 51 ≤ Int.log 2 ((num : ℚ) / den) := by
      have above := nearest.above
      have : (hiddenBit : ℚ) / 2 ≤ (num : ℚ) / den / 2 ^ q := by
        norm_num [hiddenBit] at above ⊢
        linarith
      rw [le_div_iff₀ unit] at this
      rw [← two_zpow_le_iff ratio, add_comm, zpow_add₀ two_ne_zero]
      norm_num [hiddenBit] at this ⊢
      exact this
    have half : max (Int.log 2 ((num : ℚ) / den) - 52) minExponent = q - 1 := by
      rw [div_lt_iff₀ unit, hidden, ← zpow_add₀ two_ne_zero, lt_two_zpow_iff ratio] at less
      omega
    have scaled : 2 * ((num : ℚ) / den / 2 ^ q) = (num : ℚ) / den / 2 ^ (q - 1) := by
      rw [zpow_sub_one₀ two_ne_zero]
      field_simp
    rw [scaled] at nearest
    rw [half, roundHalfEven_scaled denPositive nearest, Nat.min_eq_right]
    · simp only [magnitudeBits, hiddenBit, minExponent] at *
      omega
    · simp only [magnitudeBits, infinityBits, hiddenBit, minExponent] at *
      omega

end Gosub.Binary64
