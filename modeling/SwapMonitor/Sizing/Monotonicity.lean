import SwapMonitor.Sizing.Roundings
import SwapMonitor.Sizing.Specs
import SwapMonitor.Exceptions.Agreement

namespace SwapMonitor.Sizing
open Arithmetic Exceptions

theorem nearest_mono (mode : RoundingMode) {x y : ℚ} (order : x ≤ y) : mode.nearest x ≤ mode.nearest y := by
  rcases (Int.floor_le_floor order).lt_or_eq with apart | same
  · have low : mode.nearest x ≤ ⌊x⌋ + 1 := by rcases nearest_floor mode x with equal | ⟨next,_⟩ <;> omega
    have high : ⌊y⌋ ≤ mode.nearest y := by rcases nearest_floor mode y with equal | ⟨next,_⟩ <;> omega
    omega
  · -- two fractions over one whole number
    have below := Int.floor_le x
    have above := Int.lt_floor_add_one y
    unfold RoundingMode.nearest
    rw [same] at below ⊢
    generalize ⌊y⌋ = floor at *
    split
    · split
      · split <;> omega
      · rename_i neither
        split
        · rename_i either
          have negative : x < 0 := by
            by_contra nonneg
            exact neither (.inl (not_lt.mp nonneg))
          have inside : (floor : ℚ) < x := lt_of_le_of_ne below fun whole => neither (.inr whole.symm)
          rcases either with nonneg | whole
          · have floorNegative : (floor : ℚ) + 1 ≤ 0 := by
              have : (floor : ℚ) < 0 := by linarith
              exact_mod_cast this
            linarith
          · linarith
        · exact le_refl _
    · split
      · repeat' split
        all_goals omega
      · rename_i atLeast
        rw [if_neg (show ¬2 * (y - (floor : ℚ)) < 1 by linarith)]
        split
        · rename_i more
          rw [if_pos (show 1 < 2 * (y - (floor : ℚ)) by linarith)]
        · rename_i half
          by_cases equal : x = y
          · subst equal
            rw [if_neg half]
          · have less := lt_of_le_of_ne order equal
            rw [if_pos (show 1 < 2 * (y - (floor : ℚ)) by linarith)]
            repeat' split
            all_goals omega

theorem nearest_step (policy : DecimalRoundingPolicy) {x y : ℚ} (order : x ≤ y) : policy.nearest x ≤ policy.nearest y := by
  have positive := quantum_pos policy
  have counts : (policy.moneyRounding.nearest (x / policy.quantum) : ℚ) ≤ policy.moneyRounding.nearest (y / policy.quantum) := by
    exact_mod_cast nearest_mono policy.moneyRounding (div_le_div_of_nonneg_right order positive.le)
  exact mul_le_mul_of_nonneg_right counts positive.le

-- More of a candidate costs no less.
theorem spent_mono (configuration : SizingConfiguration) {price less more : ℚ} (positive : 0 < price) (order : less ≤ more) :
    spent configuration price less ≤ spent configuration price more := by
  have slippageRate := (slippage_rates configuration.slippageProfile).1.nonneg
  have feeRate := (fee_rates configuration.feeTaxProfile).1.nonneg
  have gross := nearest_step configuration.rounding (mul_le_mul_of_nonneg_right order positive.le)
  have slippage := nearest_step configuration.rounding (mul_le_mul_of_nonneg_right gross slippageRate)
  have fee := nearest_step configuration.rounding
    (mul_le_mul_of_nonneg_right (add_le_add gross slippage) feeRate)
  exact add_le_add (add_le_add gross slippage) fee

theorem spent_nonneg (configuration : SizingConfiguration) {price quantity : ℚ} (positive : 0 < price) (nonneg : 0 ≤ quantity) :
    0 ≤ spent configuration price quantity := by
  calc 0 = spent configuration price 0 := (spent_zero configuration price).symm
    _ ≤ spent configuration price quantity := spent_mono configuration positive nonneg

end SwapMonitor.Sizing
