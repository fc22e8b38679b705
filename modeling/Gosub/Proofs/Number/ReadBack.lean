import Gosub.Proofs.Number.Shortest
import Gosub.Value

/-! Printed numbers read back. What is printed for a number, digit by digit or as its shortest
decimal, is read as the same number; only a negative zero loses its sign.
-/

namespace Gosub

namespace Decimal

open Binary64 (Within Canonical magnitudeBits)

-----------------------------------------------------------------------------------------
-- Digits
-----------------------------------------------------------------------------------------

theorem natOfDigits_eq (digits : List Char) : natOfDigits digits = Nat.ofDigitChars 10 digits 0 :=
  rfl

theorem isDigit_of_mem_digitChars {n : Nat} {c : Char} (member : c ∈ digitChars n)
    : c.isDigit = true :=
  Nat.isDigit_of_mem_toDigits (by decide) (by decide) member

theorem readDigits?_whole {digits : List Char} (negative : Bool) (filled : digits ≠ [])
    (digit : ∀ c ∈ digits, c.isDigit = true)
    : readDigits? negative digits = some (toFloat negative (natOfDigits digits) 0) := by
  have whole : digits.takeWhile Char.isDigit = digits := List.takeWhile_eq_self_iff.mpr digit
  have rest : digits.dropWhile Char.isDigit = [] := List.dropWhile_eq_nil_iff.mpr digit
  simp [readDigits?, whole, rest, filled, readExponent?]

theorem readDigits?_point {whole fraction : List Char} (negative : Bool) (filled : whole ≠ [])
    (wholeDigit : ∀ c ∈ whole, c.isDigit = true)
    (fractionDigit : ∀ c ∈ fraction, c.isDigit = true)
    : readDigits? negative (whole ++ '.' :: fraction)
      = some (toFloat negative (natOfDigits (whole ++ fraction)) (-fraction.length)) := by
  have before : (whole ++ '.' :: fraction).takeWhile Char.isDigit = whole := by
    rw [List.takeWhile_append_of_pos wholeDigit]
    simp
  have after : (whole ++ '.' :: fraction).dropWhile Char.isDigit = '.' :: fraction := by
    rw [List.dropWhile_append_of_pos wholeDigit]
    simp
  have digits : fraction.takeWhile Char.isDigit = fraction :=
    List.takeWhile_eq_self_iff.mpr fractionDigit
  have rest : fraction.dropWhile Char.isDigit = [] := List.dropWhile_eq_nil_iff.mpr fractionDigit
  simp [readDigits?, before, after, digits, rest, filled, readExponent?]

/-- A text that begins with a digit is no word for a special number. -/
theorem readMagnitude?_of_isDigit {c : Char} {cs : List Char} (negative : Bool)
    (digit : c.isDigit = true)
    : readMagnitude? negative (c :: cs) = readDigits? negative (c :: cs) := by
  have lower : c.toLower = c := by
    simp only [Char.isDigit, Bool.and_eq_true, decide_eq_true_eq] at digit
    unfold Char.toLower
    split
    · next upper => exact absurd (UInt32.le_trans upper.1 digit.2) (by decide)
    · rfl
  have noI : c ≠ 'i' := by rintro rfl; cases digit
  have noN : c ≠ 'n' := by rintro rfl; cases digit
  simp [readMagnitude?, lower, noI, noN]

/-- A text that begins with a digit, with or without a sign before it, is read by its digits. -/
theorem read?_signed {c : Char} {cs : List Char} (negative : Bool) (digit : c.isDigit = true)
    : read? (String.ofList (if negative then '-' :: c :: cs else c :: cs))
      = readDigits? negative (c :: cs) := by
  rw [← readMagnitude?_of_isDigit negative digit]
  cases negative with
  | true => simp [read?]
  | false =>
      have noMinus : c ≠ '-' := by rintro rfl; cases digit
      have noPlus : c ≠ '+' := by rintro rfl; cases digit
      simp [read?, noMinus, noPlus]

theorem read?_whole {digits : List Char} (negative : Bool) (filled : digits ≠ [])
    (digit : ∀ c ∈ digits, c.isDigit = true)
    : read? (String.ofList (if negative then '-' :: digits else digits))
      = some (toFloat negative (natOfDigits digits) 0) := by
  obtain ⟨c, cs, rfl⟩ := List.exists_cons_of_ne_nil filled
  rw [read?_signed negative (digit c List.mem_cons_self), readDigits?_whole negative filled digit]

theorem read?_point {whole fraction : List Char} (negative : Bool) (filled : whole ≠ [])
    (wholeDigit : ∀ c ∈ whole, c.isDigit = true)
    (fractionDigit : ∀ c ∈ fraction, c.isDigit = true)
    : read? (String.ofList
        (if negative then '-' :: (whole ++ '.' :: fraction) else whole ++ '.' :: fraction))
      = some (toFloat negative (natOfDigits (whole ++ fraction)) (-fraction.length)) := by
  rw [← readDigits?_point negative filled wholeDigit fractionDigit]
  obtain ⟨c, cs, rfl⟩ := List.exists_cons_of_ne_nil filled
  exact read?_signed negative (wholeDigit c List.mem_cons_self)

-----------------------------------------------------------------------------------------
-- Decimals
-----------------------------------------------------------------------------------------

/-- A decimal around a double is read as this double. -/
theorem toFloat_of_within {digits m : Nat} {exponent q : ℤ} (negative : Bool)
    (canonical : Canonical m q) (positive : 0 < m) (least : -1100 ≤ exponent)
    (most : exponent ≤ 1100) (within : Within m q (digits * (10 ^ exponent / 2 ^ q)))
    : toFloat negative digits exponent
      = Binary64.ofMagnitudeBits negative (magnitudeBits m q) := by
  have near : max (min exponent 1100) (-1100 - (digits.log2 : ℤ)) = exponent := by omega
  have ten : (10 : ℚ) ^ exponent
      = (Nat.pow 10 exponent.toNat : Nat) / (Nat.pow 10 (-exponent).toNat : Nat) :=
    Binary64.zpow_eq_ratio 10 exponent
  rw [ten] at within
  simp only [toFloat, near]
  split
  · next whole =>
    rw [Binary64.ofRatio, Binary64.nearestBits_eq canonical positive one_pos]
    have none : (-exponent).toNat = 0 := by omega
    simp only [none] at within
    convert within using 1
    push_cast
    ring
  · next fraction =>
    have denPositive : 0 < Nat.pow 10 (-exponent).toNat := Nat.pow_pos (by decide)
    rw [Binary64.ofRatio, Binary64.nearestBits_eq canonical positive denPositive]
    have none : exponent.toNat = 0 := by omega
    simp only [none] at within
    convert within using 1
    push_cast
    ring

theorem isDigit_of_mem_zeros {count : Nat} {c : Char} (member : c ∈ List.replicate count '0')
    : c.isDigit = true := by
  rw [List.eq_of_mem_replicate member]
  rfl

/-- The zeros at the end of a whole number belong to its digits. -/
theorem positional_whole {d : Decimal} (whole : 0 ≤ d.exponent)
    : ∃ digits, d.positional [] = digits ∧ digits ≠ [] ∧ (∀ c ∈ digits, c.isDigit = true)
        ∧ natOfDigits digits = d.digits * 10 ^ d.exponent.toNat := by
  refine ⟨digitChars d.digits ++ List.replicate d.exponent.toNat '0', ?_, ?_, ?_, ?_⟩
  · simp [positional, whole]
  · simp [digitChars, Nat.toDigits_ne_nil]
  · intro c member
    rcases List.mem_append.mp member with digit | zero
    · exact isDigit_of_mem_digitChars digit
    · exact isDigit_of_mem_zeros zero
  · rw [natOfDigits_eq, Nat.ofDigitChars_append, digitChars, Nat.ofDigitChars_ten_toDigits,
      Nat.ofDigitChars_replicate_zero, Nat.mul_comm]

/-- The digits after the point are as many as the exponent says, after zeros where there are fewer
digits.
-/
theorem positional_point {d : Decimal} (fraction : d.exponent < 0)
    : ∃ before after, d.positional [] = before ++ '.' :: after ∧ before ≠ []
        ∧ (∀ c ∈ before ++ after, c.isDigit = true) ∧ natOfDigits (before ++ after) = d.digits
        ∧ d.exponent = -after.length := by
  generalize padding : List.replicate ((-d.exponent).toNat + 1 - (digitChars d.digits).length) '0'
    ++ digitChars d.digits = padded
  have long : (-d.exponent).toNat < padded.length := by
    rw [← padding, List.length_append, List.length_replicate]
    omega
  refine ⟨padded.take (padded.length - (-d.exponent).toNat),
    padded.drop (padded.length - (-d.exponent).toNat), ?_, ?_, ?_, ?_, ?_⟩
  · simp [positional, Int.not_le.mpr fraction, padding]
  · intro none
    have := congrArg List.length none
    simp only [List.length_take, List.length_nil] at this
    omega
  · rw [List.take_append_drop, ← padding]
    intro c member
    rcases List.mem_append.mp member with zero | digit
    · exact isDigit_of_mem_zeros zero
    · exact isDigit_of_mem_digitChars digit
  · rw [List.take_append_drop, ← padding, natOfDigits_eq, Nat.ofDigitChars_append,
      Nat.ofDigitChars_replicate_zero, Nat.mul_zero, digitChars, Nat.ofDigitChars_ten_toDigits]
  · rw [List.length_drop]
    omega

/-- The text of a decimal around a double is read as this double. -/
theorem read?_positional {m : Nat} {q : ℤ} (negative : Bool) {d : Decimal}
    (canonical : Canonical m q) (positive : 0 < m) (least : -1100 ≤ d.exponent)
    (within : Within m q (d.digits * (10 ^ d.exponent / 2 ^ q)))
    : read? (String.ofList (if negative then '-' :: d.positional [] else d.positional []))
      = some (Binary64.ofMagnitudeBits negative (magnitudeBits m q)) := by
  rcases Int.lt_or_le d.exponent 0 with fraction | whole
  · obtain ⟨before, after, text, filled, digit, value, places⟩ := positional_point fraction
    rw [List.forall_mem_append] at digit
    rw [text, read?_point negative filled digit.1 digit.2, value, ← places,
      toFloat_of_within negative canonical positive least (by omega) within]
  · obtain ⟨digits, text, filled, digit, value⟩ := positional_whole whole
    rw [text, read?_whole negative filled digit, value]
    refine congrArg some (toFloat_of_within negative canonical positive (by decide) (by decide) ?_)
    convert within using 1
    obtain ⟨exponent, same⟩ := Int.eq_ofNat_of_zero_le whole
    simp only [same, Int.toNat_natCast, zpow_natCast, zpow_zero]
    push_cast
    ring

/-- An integer is printed as its sign and digits, and read by them. -/
theorem read?_toString (n : ℤ)
    : read? (toString n) = some (toFloat (decide (n < 0)) n.natAbs 0) := by
  have text : toString n = String.ofList
      (if decide (n < 0) then '-' :: digitChars n.natAbs else digitChars n.natAbs) := by
    rw [Int.toString_eq_repr, Int.repr_eq_if]
    by_cases negative : n < 0
    · have magnitude : (-n).toNat = n.natAbs := by omega
      simp [negative, Int.not_le.mpr negative, magnitude, Nat.repr_eq_ofList_toDigits, digitChars]
    · have magnitude : n.toNat = n.natAbs := by omega
      simp [negative, Int.not_lt.mp negative, magnitude, Nat.repr_eq_ofList_toDigits, digitChars]
  have filled : digitChars n.natAbs ≠ [] := Nat.toDigits_ne_nil
  have digit : ∀ c ∈ digitChars n.natAbs, c.isDigit = true := fun _ => isDigit_of_mem_digitChars
  rw [text, read?_whole _ filled digit, natOfDigits_eq, digitChars, Nat.ofDigitChars_ten_toDigits]

end Decimal

-----------------------------------------------------------------------------------------
-- Numbers
-----------------------------------------------------------------------------------------

namespace Binary64

theorem Within.self {m : Nat} {q : ℤ} : Within m q m := by
  have gap := Decimal.Grid.gapBelow_pos m q
  have positive : (1 : ℚ) ≤ Decimal.gapBelow m q := by exact_mod_cast gap.1
  refine ⟨by linarith, by linarith, ?_⟩
  rintro (tie | tie) <;> linarith

/-- A whole number is the number itself, with its sign. -/
theorem of_whole? {x : Float} {negative : Bool} {m : Nat} {q n : ℤ}
    (viewed : view x = .finite negative m q) (whole : whole? x = some n)
    : (n.natAbs : ℚ) = m * 2 ^ q ∧ (0 < m → decide (n < 0) = negative) := by
  have magnitude : ∃ k : Nat, (k : ℚ) = m * 2 ^ q ∧ n = if negative then -(k : ℤ) else k := by
    simp only [whole?, viewed, Option.map_eq_some_iff, Option.bind_eq_bind,
      Option.bind_eq_some_iff, Option.pure_def, Option.some.injEq] at whole
    obtain ⟨_, ⟨k, found, rfl⟩, rfl⟩ := whole
    refine ⟨k, ?_, rfl⟩
    rw [two_zpow_eq_ratio]
    split at found
    · next integral =>
      cases found
      have none : (-q).toNat = 0 := by omega
      simp [none]
    · next fractional =>
      split at found
      · next divided =>
        cases found
        have none : q.toNat = 0 := by omega
        have scale : ((Nat.pow 2 (-q).toNat : Nat) : ℚ) ≠ 0 := by
          exact_mod_cast (Nat.two_pow_pos _).ne'
        rw [Nat.cast_div (Nat.dvd_of_mod_eq_zero divided) scale, none]
        simp [div_eq_mul_inv]
      · cases found
  obtain ⟨k, same, rfl⟩ := magnitude
  have size : (if negative then -(k : ℤ) else k).natAbs = k := by split <;> simp
  rw [size]
  refine ⟨same, fun positive => ?_⟩
  have unit : (0 : ℚ) < 2 ^ q := zpow_pos two_pos q
  have : (0 : ℚ) < k := by
    rw [same]
    exact mul_pos (by exact_mod_cast positive) unit
  have : 0 < k := by exact_mod_cast this
  cases negative
  · simp
  · simp
    omega

end Binary64

namespace Value

/-- The number that a printed number is read as: the number itself without the sign of a zero. -/
def plainNumber (x : Float) : Float :=
  if x = -0.0 then 0.0 else x

theorem plainNumber_of_pos {x : Float} {negative : Bool} {m : Nat} {q : ℤ}
    (viewed : Binary64.view x = .finite negative m q) (positive : 0 < m)
    : plainNumber x = x := by
  refine if_neg ?_
  rintro rfl
  have zero : Binary64.view (-0.0) = .finite true 0 Binary64.minExponent := by decide +kernel
  rw [zero] at viewed
  cases viewed
  exact absurd positive (Nat.lt_irrefl 0)

/-- The shortest decimal of a number is read as this number. -/
theorem read?_write {x : Float} {negative : Bool} {m : Nat} {q : ℤ}
    (viewed : Binary64.view x = .finite negative m q) (positive : 0 < m)
    : Decimal.read? (Layout.plain.write x) = some x := by
  obtain ⟨canonical, restored⟩ := Binary64.of_view_finite viewed
  have least : -1100 ≤ (Decimal.shortest m q).exponent := by
    have := canonical.least
    simp only [Decimal.shortest, Decimal.fineExponent, Binary64.minExponent] at *
    omega
  have read := Decimal.read?_positional negative canonical positive least
    (Decimal.shortest_within canonical positive)
  rw [← restored] at read
  simpa [Layout.write, viewed, positive.ne', Layout.writeDecimal, Layout.plain] using read

/-- Every number is read back from its text. -/
theorem read?_printNumber (x : Float)
    : Decimal.read? (printNumber x) = some (plainNumber x) := by
  cases viewed : Binary64.view x with
  | notANumber =>
      rw [Binary64.of_view_notANumber viewed]
      decide +kernel
  | infinite negative =>
      rw [Binary64.of_view_infinite viewed]
      cases negative <;> decide +kernel
  | finite negative m q =>
      obtain ⟨canonical, restored⟩ := Binary64.of_view_finite viewed
      rcases Nat.eq_zero_or_pos m with rfl | positive
      · have least : q = Binary64.minExponent :=
          canonical.hidden.resolve_right (by decide)
        rw [restored, least]
        cases negative <;> decide +kernel
      · rw [plainNumber_of_pos viewed positive]
        unfold printNumber
        split
        · next n whole =>
          split
          · obtain ⟨size, sign⟩ := Binary64.of_whole? viewed whole
            have unit : (2 : ℚ) ^ q ≠ 0 := zpow_ne_zero q two_ne_zero
            have exact : Binary64.Within m q (n.natAbs * (10 ^ (0 : ℤ) / 2 ^ q)) := by
              rw [size, zpow_zero, mul_one_div, mul_div_cancel_right₀ _ unit]
              exact .self
            rw [Decimal.read?_toString, sign positive,
              Decimal.toFloat_of_within negative canonical positive (by decide) (by decide) exact,
              ← restored]
          · exact read?_write viewed positive
        · exact read?_write viewed positive

end Value

end Gosub
