import SwapMonitor.Rules.Schema

namespace SwapMonitor.Rules
open Arithmetic

theorem bounded_exact (d : Decimal) : requireBoundedDecimal d = .ok () ↔
    digitCount d.coefficient ≤ MAX_DECIMAL_COEFFICIENT_DIGITS ∧
      d.exponent.natAbs ≤ MAX_DECIMAL_ABSOLUTE_EXPONENT ∧
      decimalSerializedCharacters d ≤ MAX_DECIMAL_SERIALIZED_CHARACTERS := by
  simp only [requireBoundedDecimal,check_ok,raiseIf_ok,decide_eq_false_iff_not,Nat.not_lt]
  rfl

-- Whatever has at most 256 digits and no digit beyond the 256th decimal place is short enough.
theorem serialized_short {d : Decimal} (digits : digitCount d.coefficient ≤ MAX_DECIMAL_COEFFICIENT_DIGITS)
    (low : -(MAX_DECIMAL_ABSOLUTE_EXPONENT : Int) ≤ d.exponent) (high : d.exponent ≤ 0) :
    decimalSerializedCharacters d ≤ MAX_DECIMAL_SERIALIZED_CHARACTERS := by
  simp only [MAX_DECIMAL_COEFFICIENT_DIGITS,MAX_DECIMAL_ABSOLUTE_EXPONENT] at digits low
  simp only [decimalSerializedCharacters,MAX_DECIMAL_SERIALIZED_CHARACTERS,
    show decimalDigits d = digitCount d.coefficient from rfl]
  split <;> split <;> (try split) <;> omega

theorem canonical_value (d : Decimal) : (canonicalForm d).toRat = d.toRat := by
  unfold canonicalForm
  by_cases zero : d.coefficient = 0
  · rw [if_pos zero,(toRat_zero d).mpr zero]
    exact (toRat_zero _).mpr rfl
  rw [if_neg zero]
  have value := strip_value (decimalDigits d) d.coefficient
  rw [toRat_parts d]
  generalize stripZeros (decimalDigits d) d.coefficient = stripped at value
  obtain ⟨digits,zeros⟩ := stripped
  simp only at value ⊢
  have whole : (d.coefficient : ℚ) * (10 : ℚ) ^ d.exponent = (digits : ℚ) * (10 : ℚ) ^ (d.exponent + zeros) := by
    rw [← value]
    push_cast
    rw [mul_assoc,← zpow_natCast,← zpow_add₀ (by norm_num : (10 : ℚ) ≠ 0),add_comm d.exponent]
  split
  · rename_i positive
    rw [toRat_parts]
    simp only [mul_assoc,whole]
    push_cast
    rw [mul_one,← zpow_natCast,Int.toNat_of_nonneg positive]
  · rw [toRat_parts]
    simp only [mul_assoc,whole]

theorem canonical_exponent (d : Decimal) : (canonicalForm d).exponent ≤ 0 ∧
    (d.exponent ≤ (canonicalForm d).exponent ∨ (canonicalForm d).exponent = 0) := by
  unfold canonicalForm
  split
  · simp
  · dsimp only
    split
    · simp
    · simp only
      omega

theorem canonical_low {d : Decimal} (bounded : requireBoundedDecimal d = .ok ()) :
    -(MAX_DECIMAL_ABSOLUTE_EXPONENT : Int) ≤ (canonicalForm d).exponent := by
  have limits := (bounded_exact d).mp bounded
  have exponent := canonical_exponent d
  simp only [MAX_DECIMAL_ABSOLUTE_EXPONENT] at limits ⊢
  omega

-- The size of a number against the digits its coefficient has once it is written out whole.
theorem digits_magnitude {d : Decimal} (high : d.exponent ≤ 0)
    (whole : d.exponent = 0 ∨ digitCount d.coefficient ≤ MAX_DECIMAL_COEFFICIENT_DIGITS) :
    digitCount d.coefficient ≤ MAX_DECIMAL_COEFFICIENT_DIGITS ↔ |d.toRat| < (10 : ℚ) ^ MAX_DECIMAL_COEFFICIENT_DIGITS := by
  have magnitude : |d.toRat| = (d.coefficient : ℚ) * (10 : ℚ) ^ d.exponent := by
    rw [toRat_parts,abs_mul,abs_mul,abs_of_pos (ten_pow_pos _),Nat.abs_cast]
    cases d.negative <;> simp
  rw [magnitude,digits_le (by decide)]
  rcases whole with zero | short
  · rw [zero,zpow_zero,mul_one]
    exact_mod_cast Iff.rfl
  · have small := (digits_le (by decide)).mp short
    refine iff_of_true small ?_
    have shrink : (10 : ℚ) ^ d.exponent ≤ 1 := zpow_le_one_of_nonpos₀ (by norm_num) high
    have cast : (d.coefficient : ℚ) < (10 : ℚ) ^ MAX_DECIMAL_COEFFICIENT_DIGITS := by exact_mod_cast small
    calc (d.coefficient : ℚ) * (10 : ℚ) ^ d.exponent ≤ (d.coefficient : ℚ) * 1 :=
          mul_le_mul_of_nonneg_left shrink (Nat.cast_nonneg _)
      _ = d.coefficient := mul_one _
      _ < (10 : ℚ) ^ MAX_DECIMAL_COEFFICIENT_DIGITS := cast

theorem strip_shorter {fuel n : Nat} : (stripZeros fuel n).1 ≤ n := by
  have value := strip_value fuel n
  have scaled := Nat.le_mul_of_pos_right (stripZeros fuel n).1 (Nat.pow_pos (n := (stripZeros fuel n).2) (by decide : 0 < 10))
  omega

-- A bounded number is bounded in its canonical form when it has at most 256 digits before the
-- decimal point.
theorem canonical_bounded {d : Decimal} (bounded : requireBoundedDecimal d = .ok ()) :
    requireBoundedDecimal (canonicalForm d) = .ok () ↔ |d.toRat| < (10 : ℚ) ^ MAX_DECIMAL_COEFFICIENT_DIGITS := by
  have limits := (bounded_exact d).mp bounded
  have high := (canonical_exponent d).1
  have low := canonical_low bounded
  have whole : (canonicalForm d).exponent = 0 ∨
      digitCount (canonicalForm d).coefficient ≤ MAX_DECIMAL_COEFFICIENT_DIGITS := by
    unfold canonicalForm
    split
    · exact .inl rfl
    · dsimp only
      split
      · exact .inl rfl
      · refine .inr ((digits_le (by decide)).mpr ?_)
        exact Nat.lt_of_le_of_lt strip_shorter ((digits_le (by decide)).mp limits.1)
  rw [← canonical_value d,← digits_magnitude high whole,bounded_exact]
  constructor
  · exact fun bounds => bounds.1
  · intro digits
    refine ⟨digits,?_,serialized_short digits low high⟩
    simp only [MAX_DECIMAL_ABSOLUTE_EXPONENT] at low ⊢
    omega

end SwapMonitor.Rules
