import Gosub.Proofs.Number.ReadBack

/-! Doubles of natural numbers. A finite double stands for a rational number. The double nearest to
a natural number stands for that number itself below `2 ^ 53`; it is never below a power of two that
the number reaches, and it is infinite from half a unit before `2 ^ 1024` on.
-/

namespace Gosub

namespace Binary64

-----------------------------------------------------------------------------------------
-- Doubles by their bits
-----------------------------------------------------------------------------------------

section Bits

open Float.Model UnpackedFloat

theorem toNat_unpackExponent (w : UInt64)
    : (@unpackExponent .binary64 w.toBitVec).toNat = w.toNat / hiddenBit % 2048 := by
  rw [unpackExponent_def, BitVec.extractLsb'_toNat, Nat.shiftRight_eq_div_pow]
  rfl

theorem toNat_unpackMantissa (w : UInt64)
    : (@unpackMantissa .binary64 w.toBitVec).toNat = w.toNat % hiddenBit := by
  rw [unpackMantissa_def, BitVec.extractLsb'_toNat, Nat.shiftRight_zero]
  rfl

/-- No magnitude up to that of infinity stands for no number. -/
theorem isNaNBits_eq_false {w : UInt64} (bound : w.toNat % signBit ≤ infinityBits)
    : @isNaNBits .binary64 w.toBitVec = false := by
  unfold isNaNBits
  rw [decide_eq_false_iff_not]
  rintro ⟨full, filled⟩
  have full : w.toNat / hiddenBit % 2048 = 2047 := by
    rw [← toNat_unpackExponent, full]
    rfl
  apply filled
  apply BitVec.eq_of_toNat_eq
  rw [toNat_unpackMantissa]
  simp only [infinityBits, signBit, hiddenBit, BitVec.toNat_zero] at *
  omega

/-- A double made of a sign and a magnitude has just these bits. -/
theorem toBits_ofMagnitudeBits {bits : Nat} (negative : Bool) (bound : bits ≤ infinityBits)
    : (ofMagnitudeBits negative bits).toBits.toNat = if negative then signBit + bits else bits := by
  generalize word : (if negative then signBit + bits else bits) = w
  have parts : w < 2 ^ 64 ∧ w % signBit = bits := by
    simp only [infinityBits, signBit] at *
    split at word <;> omega
  have whole : (UInt64.ofNat w).toNat = w := by
    rw [UInt64.toNat_ofNat', Nat.mod_eq_of_lt parts.1]
  have proper := isNaNBits_eq_false (w := UInt64.ofNat w) (by rw [whole, parts.2]; exact bound)
  have same : (ofMagnitudeBits negative bits).toBits = UInt64.ofNat w := by
    rw [← UInt64.toBitVec_inj, ofMagnitudeBits, word]
    change (unpack .binary64 (UInt64.ofNat w).toBitVec).pack .binary64 = _
    rw [pack_unpack, proper]
    rfl
  rw [same, whole]

/-- A double is finite unless its exponent field is full. -/
theorem isFinite_iff_unpackExponent {x : Float}
    : x.isFinite = true ↔ @unpackExponent .binary64 x.toBits.toBitVec ≠ -1#11 := by
  change (UnpackedFloat.unpack .binary64 x.toBits.toBitVec).isFinite = true ↔ _
  unfold UnpackedFloat.unpack
  dsimp only
  split
  · next full =>
    refine iff_of_false ?_ (not_not_intro full)
    split <;> exact Bool.false_ne_true
  · next notFull =>
    refine iff_of_true ?_ notFull
    split
    · split <;> rfl
    · rfl

theorem isFinite_iff_toBits {x : Float}
    : x.isFinite = true ↔ x.toBits.toNat % signBit < infinityBits := by
  rw [isFinite_iff_unpackExponent, ne_eq, ← BitVec.toNat_inj, toNat_unpackExponent]
  have bound : x.toBits.toNat < 18446744073709551616 := x.toBits.toNat_lt
  simp only [infinityBits, signBit, hiddenBit] at *
  change ¬ _ = 2047 ↔ _
  omega

/-- Changing the sign leaves the exponent field as it is, by cases on the parts of the double. -/
theorem unpackExponent_pack_neg (u : UnpackedFloat)
    : unpackExponent (u.neg.pack .binary64) = unpackExponent (u.pack .binary64) := by
  cases u with
  | notANumber => rfl
  | infinity s => simp [UnpackedFloat.neg, UnpackedFloat.pack, packedInfinity]
  | zero s => simp [UnpackedFloat.neg, UnpackedFloat.pack, packedZero]
  | finite s m e positive =>
      simp only [UnpackedFloat.neg, UnpackedFloat.pack]
      split
      · simp [packedInfinity]
      · split <;> simp

theorem isFinite_neg (x : Float) : (-x).isFinite = x.isFinite := by
  have field : @unpackExponent .binary64 (-x).toBits.toBitVec
      = @unpackExponent .binary64 x.toBits.toBitVec := by
    change unpackExponent ((UnpackedFloat.unpack .binary64 x.toBits.toBitVec).neg.pack .binary64)
      = _
    rw [unpackExponent_pack_neg]
    exact congrArg unpackExponent (pack_unpack_of_valid x.toModel.valid)
  rw [Bool.eq_iff_iff, isFinite_iff_unpackExponent, isFinite_iff_unpackExponent, field]

end Bits

theorem view_ofMagnitudeBits {m : Nat} {q : ℤ} (negative : Bool) (canonical : Canonical m q)
    : view (ofMagnitudeBits negative (magnitudeBits m q)) = .finite negative m q := by
  have bound := magnitudeBits_lt canonical
  obtain ⟨fits, least, most, hidden⟩ := canonical
  have sign : signBit ≤ (ofMagnitudeBits negative (magnitudeBits m q)).toBits.toNat
      ↔ negative = true := by
    rw [toBits_ofMagnitudeBits negative bound.le]
    simp only [infinityBits, signBit] at *
    cases negative
    · simp
      omega
    · simp
  have magnitude : (ofMagnitudeBits negative (magnitudeBits m q)).toBits.toNat % signBit
      = magnitudeBits m q := by
    rw [toBits_ofMagnitudeBits negative bound.le]
    simp only [infinityBits, signBit] at *
    split <;> omega
  have field : magnitudeBits m q / hiddenBit = (q - minExponent).toNat + m / hiddenBit := by
    simp only [magnitudeBits, hiddenBit]
    omega
  have fraction : magnitudeBits m q % hiddenBit = m % hiddenBit := by
    simp only [magnitudeBits, hiddenBit]
    omega
  have significand : (if (q - minExponent).toNat + m / hiddenBit = 0 then m % hiddenBit
      else m % hiddenBit + hiddenBit) = m := by
    split <;> simp only [hiddenBit, minExponent] at * <;> omega
  have exponent : ((max ((q - minExponent).toNat + m / hiddenBit) 1 : Nat) : ℤ) - 1 + minExponent
      = q := by
    simp only [hiddenBit, minExponent] at *
    omega
  simp only [view, magnitude, sign, field, fraction, significand, exponent, Bool.decide_eq_true]
  rw [if_neg bound.ne, if_neg (lt_asymm bound)]

-----------------------------------------------------------------------------------------
-- The number that a double stands for
-----------------------------------------------------------------------------------------

/-- The double is finite and stands for this number. -/
def Denotes (x : Float) (r : ℚ) : Prop :=
  ∃ negative m q, view x = .finite negative m q
    ∧ r = if negative then -((m : ℚ) * 2 ^ q) else m * 2 ^ q

theorem Denotes.unique {x : Float} {r s : ℚ} (first : Denotes x r) (second : Denotes x s)
    : r = s := by
  obtain ⟨negative, m, q, viewed, rfl⟩ := first
  obtain ⟨negative', m', q', viewed', rfl⟩ := second
  rw [viewed] at viewed'
  cases viewed'
  rfl

theorem denotes_of_whole? {x : Float} {n : ℤ} (whole : whole? x = some n) : Denotes x n := by
  cases viewed : view x with
  | finite negative m q =>
      obtain ⟨size, sign⟩ := of_whole? viewed whole
      refine ⟨negative, m, q, viewed, ?_⟩
      rw [← size]
      rcases Nat.eq_zero_or_pos m with rfl | positive
      · have zero : n = 0 := by simpa using size
        simp [zero]
      · rw [← sign positive, Nat.cast_natAbs, Int.cast_abs]
        rcases Int.lt_or_le n 0 with below | above
        · rw [if_pos (decide_eq_true below), abs_of_neg (by exact_mod_cast below), neg_neg]
        · rw [if_neg (by simpa using above), abs_of_nonneg (by exact_mod_cast above)]
  | infinite negative => simp [whole?, viewed] at whole
  | notANumber => simp [whole?, viewed] at whole

/-- A double is whole where it stands for an integer. -/
theorem whole?_eq_some_iff {x : Float} {n : ℤ} : whole? x = some n ↔ Denotes x n := by
  refine ⟨denotes_of_whole?, ?_⟩
  rintro ⟨negative, m, q, viewed, value⟩
  have found : (whole? x).isSome = true := by
    have size : (n.natAbs : ℚ) = m * 2 ^ q := by
      have positive : (0 : ℚ) ≤ m * 2 ^ q := by positivity
      rw [Nat.cast_natAbs, Int.cast_abs, value]
      split
      · rw [abs_neg, abs_of_nonneg positive]
      · rw [abs_of_nonneg positive]
    simp only [whole?, viewed, Option.isSome_map]
    split
    · rfl
    · next fractional =>
      have none : q.toNat = 0 := by omega
      have scale : ((Nat.pow 2 (-q).toNat : Nat) : ℚ) ≠ 0 := by
        exact_mod_cast (Nat.two_pow_pos _).ne'
      rw [two_zpow_eq_ratio, none, mul_div_assoc', eq_div_iff scale] at size
      have multiple : n.natAbs * Nat.pow 2 (-q).toNat = m := by
        simpa using (by exact_mod_cast size : n.natAbs * Nat.pow 2 (-q).toNat = m * Nat.pow 2 0)
      rw [if_pos (Nat.mod_eq_zero_of_dvd ⟨n.natAbs, by rw [← multiple, Nat.mul_comm]⟩)]
      rfl
  obtain ⟨k, whole⟩ := Option.isSome_iff_exists.mp found
  have same : (k : ℚ) = n := (denotes_of_whole? whole).unique ⟨negative, m, q, viewed, value⟩
  rw [whole, Int.cast_injective same]

-----------------------------------------------------------------------------------------
-- The double nearest to a natural number
-----------------------------------------------------------------------------------------

/-- A quotient is rounded to one of the two natural numbers around it. -/
theorem roundHalfEven_bounds (num den : Nat)
    : num / den ≤ roundHalfEven num den ∧ roundHalfEven num den ≤ num / den + 1 := by
  simp only [roundHalfEven]
  split
  · omega
  · split <;> omega

/-- The significand of the double nearest to a positive natural number. -/
def natSignificand (n : Nat) : Nat :=
  roundHalfEven (n * Nat.pow 2 (52 - n.log2)) (Nat.pow 2 (n.log2 - 52))

/-- The scales of a number and of its rounding unit meet at the power of two that it reaches. -/
theorem scale_mul_two_pow (log : Nat)
    : Nat.pow 2 (52 - log) * 2 ^ log = hiddenBit * Nat.pow 2 (log - 52) := by
  change 2 ^ (52 - log) * 2 ^ log = 2 ^ 52 * 2 ^ (log - 52)
  rw [← Nat.pow_add, ← Nat.pow_add]
  congr 1
  omega

theorem natSignificand_bounds {n : Nat} (positive : 0 < n)
    : hiddenBit ≤ natSignificand n ∧ natSignificand n ≤ 2 * hiddenBit := by
  have least : 2 ^ n.log2 ≤ n := Nat.log2_self_le positive.ne'
  have most : n < 2 ^ n.log2 * 2 := Nat.pow_succ .. ▸ Nat.lt_log2_self
  have scale := scale_mul_two_pow n.log2
  have unit : 0 < Nat.pow 2 (n.log2 - 52) := Nat.two_pow_pos _
  have factor : 0 < Nat.pow 2 (52 - n.log2) := Nat.two_pow_pos _
  obtain ⟨above, below⟩ := roundHalfEven_bounds (n * Nat.pow 2 (52 - n.log2))
    (Nat.pow 2 (n.log2 - 52))
  constructor
  · refine le_trans ?_ above
    rw [Nat.le_div_iff_mul_le unit, ← scale, Nat.mul_comm]
    exact Nat.mul_le_mul_right _ least
  · refine le_trans below ?_
    rw [Nat.succ_le_iff, Nat.div_lt_iff_lt_mul unit, Nat.mul_assoc, ← scale, Nat.mul_comm]
    calc Nat.pow 2 (52 - n.log2) * n
        < Nat.pow 2 (52 - n.log2) * (2 ^ n.log2 * 2) := Nat.mul_lt_mul_of_pos_left most factor
      _ = 2 * (Nat.pow 2 (52 - n.log2) * 2 ^ n.log2) := by ring

theorem nearestBits_le (num den : Nat) : nearestBits num den ≤ infinityBits := by
  simp only [nearestBits]
  split
  · exact Nat.zero_le _
  · exact Nat.min_le_left ..

theorem nearestBits_nat {n : Nat} (positive : 0 < n)
    : nearestBits n 1 = min infinityBits ((n.log2 + 1022) * hiddenBit + natSignificand n) := by
  have log : Int.log 2 ((n : ℚ) / (1 : Nat)) = n.log2 := by
    simp [Int.log_natCast, Nat.log2_eq_log_two]
  have unit : unitExponent n 1 = (n.log2 : ℤ) - 52 := by
    rw [unitExponent_eq positive one_pos, log]
    simp only [minExponent]
    omega
  have scale : (-((n.log2 : ℤ) - 52)).toNat = 52 - n.log2 := by omega
  have step : ((n.log2 : ℤ) - 52).toNat = n.log2 - 52 := by omega
  have field : ((n.log2 : ℤ) - 52 - minExponent).toNat = n.log2 + 1022 := by
    simp only [minExponent]
    omega
  simp only [nearestBits, positive.ne', if_false, unit, scale, step, field, natSignificand,
    Nat.one_mul]

/-- A significand that is not rounded up to the next power of two is that of the nearest double. -/
theorem canonical_natSignificand {n : Nat} (positive : 0 < n) (log : n.log2 ≤ 1023)
    (short : natSignificand n < 2 * hiddenBit)
    : Canonical (natSignificand n) ((n.log2 : ℤ) - 52)
      ∧ nearestBits n 1 = magnitudeBits (natSignificand n) ((n.log2 : ℤ) - 52) := by
  have least := (natSignificand_bounds positive).1
  refine ⟨⟨short, ?_, by omega, .inr least⟩, ?_⟩
  · simp only [minExponent]
    omega
  · rw [nearestBits_nat positive]
    simp only [magnitudeBits, minExponent, infinityBits, hiddenBit] at *
    omega

/-- The double nearest to a positive natural number is infinite or reaches the power of two that the
number reaches. A significand rounded up to the next power of two is halved.
-/
theorem nearestBits_nat_cases {n : Nat} (positive : 0 < n)
    : nearestBits n 1 = infinityBits
      ∨ ∃ m q, Canonical m q ∧ nearestBits n 1 = magnitudeBits m q
          ∧ (2 : ℚ) ^ n.log2 ≤ m * 2 ^ q := by
  obtain ⟨least, most⟩ := natSignificand_bounds positive
  have hidden : (hiddenBit : ℚ) = 2 ^ (52 : ℤ) := by norm_num [hiddenBit]
  have reached : (2 : ℚ) ^ n.log2 = hiddenBit * 2 ^ ((n.log2 : ℤ) - 52) := by
    rw [hidden, ← zpow_add₀ two_ne_zero, ← zpow_natCast]
    congr 1
    omega
  have nearest := nearestBits_nat positive
  rcases le_or_gt infinityBits ((n.log2 + 1022) * hiddenBit + natSignificand n) with
    beyond | within
  · exact .inl (nearest.trans (min_eq_left beyond))
  · right
    have log : n.log2 ≤ 1023 := by
      simp only [infinityBits, hiddenBit] at *
      omega
    rcases most.lt_or_eq with short | full
    · obtain ⟨canonical, bits⟩ := canonical_natSignificand positive log short
      refine ⟨_, _, canonical, bits, ?_⟩
      rw [reached]
      gcongr
    · refine ⟨hiddenBit, (n.log2 : ℤ) - 51, ⟨by decide, ?_, ?_, .inr le_rfl⟩, ?_, ?_⟩
      · simp only [minExponent]
        omega
      · simp only [infinityBits, hiddenBit] at *
        omega
      · rw [nearest, min_eq_right within.le, full]
        simp only [magnitudeBits, minExponent, hiddenBit]
        omega
      · rw [reached]
        gcongr
        · norm_num
        · omega

/-- A number of at most 53 bits is only scaled, and nothing of it is rounded away. -/
theorem natSignificand_of_small {n : Nat} (log : n.log2 ≤ 52)
    : natSignificand n = n * Nat.pow 2 (52 - n.log2) ∧ natSignificand n < 2 * hiddenBit := by
  have whole : natSignificand n = n * Nat.pow 2 (52 - n.log2) := by
    rw [natSignificand, Nat.sub_eq_zero_of_le log]
    simp [roundHalfEven, Nat.mod_one]
  have most : n < 2 ^ n.log2 * 2 := Nat.pow_succ .. ▸ Nat.lt_log2_self
  have scale := scale_mul_two_pow n.log2
  rw [Nat.sub_eq_zero_of_le log] at scale
  refine ⟨whole, ?_⟩
  calc natSignificand n = n * Nat.pow 2 (52 - n.log2) := whole
    _ < 2 ^ n.log2 * 2 * Nat.pow 2 (52 - n.log2) :=
        Nat.mul_lt_mul_of_pos_right most (Nat.two_pow_pos _)
    _ = 2 * (Nat.pow 2 (52 - n.log2) * 2 ^ n.log2) := by ring
    _ = 2 * hiddenBit := by rw [scale]; rfl

theorem denotes_ofRatio_nat {n : Nat} (small : n < 2 * hiddenBit)
    : Denotes (ofRatio false n 1) n := by
  rcases Nat.eq_zero_or_pos n with rfl | positive
  · exact ⟨false, 0, minExponent, by decide +kernel, by simp⟩
  · have log : n.log2 ≤ 52 := Nat.lt_succ_iff.mp ((Nat.log2_lt positive.ne').mpr small)
    obtain ⟨whole, short⟩ := natSignificand_of_small log
    obtain ⟨canonical, bits⟩ := canonical_natSignificand positive (by omega) short
    refine ⟨false, natSignificand n, (n.log2 : ℤ) - 52, ?_, ?_⟩
    · rw [ofRatio, bits, view_ofMagnitudeBits false canonical]
    · have unscaled : (2 : ℚ) ^ (52 - n.log2) * 2 ^ ((n.log2 : ℤ) - 52) = 1 := by
        rw [← zpow_natCast, ← zpow_add₀ two_ne_zero]
        convert zpow_zero (2 : ℚ)
        omega
      rw [if_neg Bool.false_ne_true, whole]
      push_cast [Nat.pow_eq]
      rw [mul_assoc, unscaled, mul_one]

/-- A number that the nearest double stands for reaches the same power of two. -/
theorem two_pow_log2_le_of_denotes {n : Nat} (positive : 0 < n) {r : ℚ}
    (denoted : Denotes (ofRatio false n 1) r) : (2 : ℚ) ^ n.log2 ≤ r := by
  obtain ⟨negative, m, q, viewed, rfl⟩ := denoted
  rcases nearestBits_nat_cases positive with infinite | ⟨m', q', canonical, bits, reached⟩
  · rw [ofRatio, infinite] at viewed
    have infinite : view (ofMagnitudeBits false infinityBits) = .infinite false := by
      decide +kernel
    rw [infinite] at viewed
    cases viewed
  · rw [ofRatio, bits, view_ofMagnitudeBits false canonical] at viewed
    cases viewed
    exact reached

/-- Among the natural numbers below `2 ^ 53`, the nearest double stands for the number itself or,
for a number beyond them, for none.
-/
theorem denotes_ofRatio_nat_iff {n k : Nat} (small : k < 2 * hiddenBit)
    : Denotes (ofRatio false n 1) k ↔ n = k := by
  constructor
  · intro denoted
    rcases lt_or_ge n (2 * hiddenBit) with short | long
    · have same : (n : ℚ) = k := (denotes_ofRatio_nat short).unique denoted
      exact_mod_cast same
    · have positive : 0 < n := lt_of_lt_of_le (by decide) long
      have log : 53 ≤ n.log2 := (Nat.le_log2 positive.ne').mpr long
      have reached := two_pow_log2_le_of_denotes positive denoted
      have reached : 2 ^ n.log2 ≤ k := by exact_mod_cast reached
      have := Nat.pow_le_pow_right two_pos log
      simp only [hiddenBit] at small
      omega
  · rintro rfl
    exact denotes_ofRatio_nat small

-----------------------------------------------------------------------------------------
-- Overflow
-----------------------------------------------------------------------------------------

/-- An even number is reached from half a unit before it on. -/
theorem roundHalfEven_lt_iff {num den k : Nat} (positive : 0 < den) (even : k % 2 = 0)
    : roundHalfEven num den < k ↔ 2 * num + den < 2 * k * den := by
  have division := Nat.div_add_mod num den
  have remainder := Nat.mod_lt num positive
  obtain ⟨least, most⟩ := roundHalfEven_bounds num den
  have half : num / den % 2 = 1
      → (roundHalfEven num den < num / den + 1 ↔ 2 * (num % den) < den) := by
    intro odd
    simp only [roundHalfEven, odd]
    split
    · omega
    · split <;> omega
  generalize num / den = quotient, num % den = rest at *
  rcases Nat.lt_trichotomy (quotient + 1) k with below | rfl | above
  · refine iff_of_true (by omega) ?_
    have step : (quotient + 2) * den ≤ k * den := Nat.mul_le_mul_right den below
    rw [← division]
    nlinarith
  · rw [half (by omega), ← division]
    constructor <;> intro less <;> nlinarith
  · refine iff_of_false (by omega) ?_
    have step : k * den ≤ quotient * den := Nat.mul_le_mul_right den (by omega)
    rw [← division]
    nlinarith

/-- The significand is rounded up to the next power of two from half a unit before it on. -/
theorem natSignificand_lt_iff {n k : Nat} (log : n.log2 = k + 53)
    : natSignificand n < 2 * hiddenBit ↔ n < (2 ^ 54 - 1) * 2 ^ k := by
  have scale : 52 - n.log2 = 0 := by omega
  have unit : n.log2 - 52 = k + 1 := by omega
  have rounded : roundHalfEven n (2 ^ (k + 1)) < 2 * hiddenBit
      ↔ 2 * n + 2 ^ (k + 1) < 2 * (2 * hiddenBit) * 2 ^ (k + 1) :=
    roundHalfEven_lt_iff (Nat.two_pow_pos _) (by decide)
  rw [natSignificand, scale, unit, Nat.pow_eq, Nat.pow_eq, Nat.pow_zero, Nat.mul_one, rounded,
    Nat.pow_succ]
  simp only [hiddenBit]
  omega

theorem lt_of_log2_lt {n k : Nat} (below : n.log2 < k + 53) : n < (2 ^ 54 - 1) * 2 ^ k :=
  calc n < 2 ^ (n.log2 + 1) := Nat.lt_log2_self
    _ ≤ 2 ^ (53 + k) := Nat.pow_le_pow_right two_pos (by omega)
    _ = 2 ^ 53 * 2 ^ k := Nat.pow_add ..
    _ ≤ (2 ^ 54 - 1) * 2 ^ k := Nat.mul_le_mul_right _ (by decide)

theorem le_of_lt_log2 {n k : Nat} (above : k + 53 < n.log2) : (2 ^ 54 - 1) * 2 ^ k ≤ n :=
  have positive : n ≠ 0 := by rintro rfl; cases above
  calc (2 ^ 54 - 1) * 2 ^ k ≤ 2 ^ 54 * 2 ^ k := Nat.mul_le_mul_right _ (by decide)
    _ = 2 ^ (54 + k) := (Nat.pow_add ..).symm
    _ ≤ 2 ^ n.log2 := Nat.pow_le_pow_right two_pos (by omega)
    _ ≤ n := Nat.log2_self_le positive

/-- Half a unit before `2 ^ 1024`, from where on the nearest double is infinite. -/
def overflowBound : Nat :=
  (2 ^ 54 - 1) * 2 ^ 970

/-- The nearest double is finite below the overflow bound, by the power of two that the number
reaches: only at the last one does the rounding decide.
-/
theorem nearestBits_nat_lt_iff {n : Nat} (positive : 0 < n)
    : nearestBits n 1 < infinityBits ↔ n < overflowBound := by
  obtain ⟨hidden, fits⟩ := natSignificand_bounds positive
  rw [nearestBits_nat positive, min_lt_iff, or_iff_right (lt_irrefl _)]
  rcases Nat.lt_trichotomy n.log2 (970 + 53) with below | last | above
  · refine iff_of_true ?_ (lt_of_log2_lt below)
    simp only [infinityBits, hiddenBit] at *
    omega
  · rw [overflowBound, ← natSignificand_lt_iff last, last]
    simp only [infinityBits, hiddenBit]
    omega
  · refine iff_of_false ?_ (le_of_lt_log2 above).not_gt
    simp only [infinityBits, hiddenBit] at *
    omega

theorem overflowBound_pos : 0 < overflowBound :=
  lt_of_log2_lt (by decide)

/-- The double nearest to a natural number is infinite from the overflow bound on. -/
theorem isFinite_ofRatio_nat (n : Nat)
    : (ofRatio false n 1).isFinite = true ↔ n < overflowBound := by
  have bound : nearestBits n 1 ≤ infinityBits := nearestBits_le n 1
  rw [isFinite_iff_toBits, ofRatio, toBits_ofMagnitudeBits false bound, if_neg Bool.false_ne_true,
    Nat.mod_eq_of_lt (bound.trans_lt (by decide))]
  rcases Nat.eq_zero_or_pos n with rfl | positive
  · exact iff_of_true (by decide) overflowBound_pos
  · exact nearestBits_nat_lt_iff positive

theorem ofRatio_nat_of_overflow {n : Nat} (beyond : overflowBound ≤ n)
    : ofRatio false n 1 = infinity false := by
  have positive : 0 < n := overflowBound_pos.trans_le beyond
  have full : infinityBits ≤ nearestBits n 1 := by
    rw [← Nat.not_lt, nearestBits_nat_lt_iff positive]
    exact beyond.not_gt
  rw [ofRatio, le_antisymm (nearestBits_le n 1) full, infinity]

end Binary64

namespace Value

theorem digitsValue_eq (digits : List Char)
    : digitsValue digits = Binary64.ofRatio false (Decimal.natOfDigits digits) 1 := by
  simp [digitsValue, Decimal.toFloat]

end Value

end Gosub
