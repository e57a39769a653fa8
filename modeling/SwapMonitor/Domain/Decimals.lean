import SwapMonitor.Domain.EvidencePayload
import SwapMonitor.Arithmetic.Rounding
import Mathlib.Algebra.Order.Field.Power
import Mathlib.Tactic.FieldSimp
import Mathlib.Tactic.Positivity

namespace SwapMonitor
open Arithmetic

-- The coefficient with its sign.
def Decimal.signed (d : Decimal) : Int := if d.negative then -(d.coefficient : Int) else d.coefficient

def Decimal.ofSigned (coefficient exponent : Int) : Decimal := ⟨decide (coefficient < 0),coefficient.natAbs,exponent⟩

theorem natAbs_signed (d : Decimal) : d.signed.natAbs = d.coefficient := by
  unfold Decimal.signed
  split <;> simp

@[simp] theorem signed_of (coefficient exponent : Int) : (Decimal.ofSigned coefficient exponent).signed = coefficient := by
  unfold Decimal.ofSigned Decimal.signed
  by_cases negative : coefficient < 0
  · simp only [negative,decide_true,if_true]
    omega
  · simp only [negative,decide_false,Bool.false_eq_true,if_false]
    omega

@[simp] theorem exponent_of (coefficient exponent : Int) : (Decimal.ofSigned coefficient exponent).exponent = exponent := rfl

theorem toRat_signed (d : Decimal) : d.toRat = (d.signed : ℚ) * (10 : ℚ) ^ d.exponent := by
  have power : (if 0 ≤ d.exponent then (10 : ℚ) ^ d.exponent.toNat else ((10 : ℚ) ^ (-d.exponent).toNat)⁻¹) =
      (10 : ℚ) ^ d.exponent := by
    by_cases positive : 0 ≤ d.exponent
    · rw [if_pos positive,← zpow_natCast,Int.toNat_of_nonneg positive]
    · rw [if_neg positive,← zpow_natCast,Int.toNat_of_nonneg (by omega),zpow_neg,inv_inv]
  unfold Decimal.toRat
  rw [power,Decimal.signed]
  cases d.negative <;> simp

theorem toRat_parts (d : Decimal) :
    d.toRat = (if d.negative then -1 else 1) * (d.coefficient : ℚ) * (10 : ℚ) ^ d.exponent := by
  rw [toRat_signed,Decimal.signed]
  cases d.negative <;> simp

theorem toRat_of (coefficient exponent : Int) :
    (Decimal.ofSigned coefficient exponent).toRat = (coefficient : ℚ) * (10 : ℚ) ^ exponent := by
  rw [toRat_signed,signed_of,exponent_of]

theorem ten_pow_pos (exponent : Int) : (0 : ℚ) < (10 : ℚ) ^ exponent := by positivity

theorem toRat_pos (d : Decimal) : 0 < d.toRat ↔ 0 < d.signed := by
  rw [toRat_signed,mul_pos_iff_of_pos_right (ten_pow_pos _)]
  exact Int.cast_pos

theorem toRat_nonneg (d : Decimal) : 0 ≤ d.toRat ↔ 0 ≤ d.signed := by
  rw [toRat_signed,mul_nonneg_iff_of_pos_right (ten_pow_pos _)]
  exact Int.cast_nonneg_iff

theorem toRat_zero (d : Decimal) : d.toRat = 0 ↔ d.coefficient = 0 := by
  rw [toRat_signed,mul_eq_zero_iff_right (ten_pow_pos _).ne',Int.cast_eq_zero]
  have absolute := natAbs_signed d
  omega

-- A shift of the exponent is a factor of the coefficient.
theorem ten_pow_shift {low high : Int} (order : low ≤ high) :
    (10 : ℚ) ^ high = ((10 ^ (high - low).toNat : Int) : ℚ) * (10 : ℚ) ^ low := by
  have shift : (((high - low).toNat : Nat) : Int) = high - low := Int.toNat_of_nonneg (by omega)
  push_cast
  rw [← zpow_natCast,shift,← zpow_add₀ (by norm_num : (10 : ℚ) ≠ 0)]
  congr 1
  omega

theorem toRat_shift (d : Decimal) {low : Int} (order : low ≤ d.exponent) :
    d.toRat = ((d.signed * 10 ^ (d.exponent - low).toNat : Int) : ℚ) * (10 : ℚ) ^ low := by
  rw [toRat_signed,ten_pow_shift order]
  push_cast
  ring

end SwapMonitor
