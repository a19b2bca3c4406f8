import Mathlib
import ScriptWindows.Number.Binary64

/-!
# Whole numbers that are kept

A whole number of at most 53 bits becomes a floating point number without rounding, and is read
back from it.

Main result: `Binary64.toInt?_ofInt`.
-/

namespace ScriptWindows.Binary64

theorem denominator_pos (exponent : Int) : 0 < denominator exponent :=
  Nat.pow_pos Nat.two_pos

/-- A quotient without a remainder is read as a whole number. -/
theorem toInt?_of_quotient {negative : Bool} {mantissa n : Nat} {exponent : Int}
    (hExact : numerator mantissa exponent = n * denominator exponent) (hSmall : n ≤ maxWhole) :
    (finite negative mantissa exponent).toInt? = some (if negative then -(n : Int) else n) := by
  have hQuotient : n * denominator exponent / denominator exponent = n :=
    Nat.mul_div_cancel n (denominator_pos exponent)
  simp [toInt?, hExact, hQuotient, hSmall]

theorem binaryOrder_one {n : Nat} (h : n ≠ 0) : binaryOrder n 1 = n.log2 := by
  have hReached : Nat.pow 2 n.log2 ≤ n := Nat.log2_self_le h
  have hOne : Nat.log2 1 = 0 := by decide
  unfold binaryOrder
  simp only [hOne, Nat.cast_zero, sub_zero, Int.toNat_natCast, one_mul, Nat.cast_nonneg, if_true,
    if_pos hReached]

/-- A number of fewer bits than the mantissa has is moved up to fill it. -/
theorem ofRatio_one_of_short (negative : Bool) {n : Nat} (hPositive : n ≠ 0) (h : n.log2 < 52) :
    ofRatio negative n 1 =
      .finite negative (n * denominator (n.log2 - 52)) (n.log2 - 52) := by
  have hBelow : n < 2 ^ (n.log2 + 1) := Nat.lt_log2_self
  have hExponent : max ((n.log2 : Int) - ((53 : Nat) - 1)) minExponent = n.log2 - 52 := by
    simp only [minExponent]
    omega
  have hDown : ¬ (0 : Int) ≤ n.log2 - 52 := by omega
  have hScale : (-((n.log2 : Int) - 52)).toNat = 52 - n.log2 := by omega
  -- the highest bit of the number becomes the highest bit of the mantissa
  have hFits : n * 2 ^ (52 - n.log2) < 2 ^ 53 := by
    calc n * 2 ^ (52 - n.log2)
      _ < 2 ^ (n.log2 + 1) * 2 ^ (52 - n.log2) := by gcongr
      _ = 2 ^ 53 := by rw [← pow_add]; congr 1; omega
  have hRounded : roundRatio (n * 2 ^ (52 - n.log2)) 1 = n * 2 ^ (52 - n.log2) := by
    simpa using roundRatio_mul_right (n * 2 ^ (52 - n.log2)) one_pos
  have hFinite : ¬ maxExponent < (n.log2 : Int) - 52 := by
    simp only [maxExponent]
    omega
  unfold ofRatio
  simp only [if_neg hPositive, binaryOrder_one hPositive, precision, hExponent, if_neg hDown,
    denominator, hScale, Nat.pow_eq, hRounded, if_neg hFits.ne, if_neg hFinite]

theorem ofRatio_one_of_full (negative : Bool) {n : Nat} (h : n.log2 = 52) :
    ofRatio negative n 1 = .finite negative n 0 := by
  have hPositive : n ≠ 0 := by
    rintro rfl
    exact absurd h (by decide)
  have hFits : n ≠ 2 ^ 53 := by
    rintro rfl
    exact absurd h (by decide)
  norm_num at hFits
  have hRounded : roundRatio n 1 = n := by simpa using roundRatio_mul_right n one_pos
  unfold ofRatio
  simp [hPositive, binaryOrder_one hPositive, h, precision, minExponent, maxExponent, hRounded,
    hFits]

/-- A number that fits the mantissa is not rounded. -/
theorem toInt?_ofRatio_one (negative : Bool) {n : Nat} (h : n ≤ maxWhole) :
    (ofRatio negative n 1).toInt? = some (if negative then -(n : Int) else n) := by
  by_cases hZero : n = 0
  · subst hZero
    exact toInt?_of_quotient (by simp [numerator]) (Nat.zero_le _)
  have hAbove : 2 ^ n.log2 ≤ n := Nat.log2_self_le hZero
  rcases Nat.lt_trichotomy n.log2 52 with hShort | hFull | hLong
  · rw [ofRatio_one_of_short negative hZero hShort]
    refine toInt?_of_quotient ?_ h
    have hUp : ((n.log2 : Int) - 52).toNat = 0 := by omega
    simp [numerator, hUp]
  · rw [ofRatio_one_of_full negative hFull]
    exact toInt?_of_quotient (by simp [numerator, denominator]) h
  · -- of the numbers with a bit more only the largest that counts is left
    have hLargest : n = maxWhole := by
      have hPower : 2 ^ 53 ≤ 2 ^ n.log2 := Nat.pow_le_pow_right Nat.two_pos hLong
      exact le_antisymm h (hPower.trans hAbove)
    subst hLargest
    cases negative with
    | false => rfl
    | true => rfl

/-- **A whole number of at most 53 bits is kept.** -/
theorem toInt?_ofInt {n : Int} (h : n.natAbs ≤ maxWhole) : (ofInt n).toInt? = some n := by
  rw [ofInt, toInt?_ofRatio_one _ h]
  by_cases hNegative : n < 0
  · simp only [hNegative, decide_true, if_true, Option.some.injEq]
    omega
  · simp only [hNegative, decide_false, Bool.false_eq_true, if_false, Option.some.injEq]
    omega

end ScriptWindows.Binary64
