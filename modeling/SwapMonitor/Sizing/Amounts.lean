import SwapMonitor.Sizing.Exactness

namespace SwapMonitor.Sizing
open Arithmetic Exceptions

def DecimalRoundingPolicy.quantum (policy : DecimalRoundingPolicy) : ℚ := policy.moneyQuantum.toRat

-- The amounts the two roundings make of a number.
def DecimalRoundingPolicy.nearest (policy : DecimalRoundingPolicy) (x : ℚ) : ℚ :=
  policy.moneyRounding.rounding.onto policy.quantum x

def DecimalRoundingPolicy.lowest (policy : DecimalRoundingPolicy) (x : ℚ) : ℚ := Rounding.floor.onto policy.quantum x

theorem quantum_pos (policy : DecimalRoundingPolicy) : 0 < policy.quantum := by
  have accepted := policy.accepted
  simp only [RoundingFields.postInit,bind_ok,raiseIf_ok] at accepted
  obtain ⟨_,_,positive⟩ := accepted
  exact not_le.mp (of_decide_eq_false positive)

theorem money_finishes {policy : DecimalRoundingPolicy} {value : Decimal} :
    Finishes (policy.money value) (fun money => money.toRat = policy.nearest value.toRat) ResourceLimit :=
  round_to_finishes (quantum_pos policy)

theorem credit_finishes {policy : DecimalRoundingPolicy} {value : Decimal} :
    Finishes (policy.moneyNotIncreasing value) (fun money => money.toRat = policy.lowest value.toRat) ResourceLimit :=
  floor_to_finishes (quantum_pos policy)

-- A rate that its profile accepted.
structure Rate (rate : Decimal) : Prop where
  nonneg : 0 ≤ rate.toRat
  share : rate.toRat ≤ 1

theorem rate_exact {rate : Decimal} {fieldName : String} {u : Unit} : requireRate rate fieldName = .ok u ↔ Rate rate := by
  unfold requireRate
  rw [raiseIf_ok,Bool.not_eq_false',decide_eq_true_eq]
  exact ⟨fun ⟨nonneg,share⟩ => ⟨nonneg,share⟩,fun rate => ⟨rate.nonneg,rate.share⟩⟩

theorem fee_rates (profile : FeeTaxProfile) :
    Rate profile.purchaseFeeRate ∧ Rate profile.saleFeeRate ∧ Rate profile.saleTaxRate := by
  have accepted := profile.accepted
  simp only [FeeTaxFields.postInit,bind_ok,rate_exact,exists_const] at accepted
  exact accepted

theorem slippage_rates (profile : SlippageProfile) : Rate profile.purchaseRate ∧ Rate profile.saleRate := by
  have accepted := profile.accepted
  simp only [SlippageFields.postInit,bind_ok,rate_exact,exists_const] at accepted
  exact accepted

theorem nonnegative_passes {value : Decimal} {fieldName : String} (nonneg : 0 ≤ value.toRat) :
    requireNonnegative value fieldName = .ok () :=
  (raiseIf_ok _ _ _ ()).mpr (decide_eq_false (not_lt.mpr nonneg))

theorem positive_passes {value : Decimal} {fieldName : String} (positive : 0 < value.toRat) :
    requirePositive value fieldName = .ok () := by
  have counted : value.coefficient ≠ 0 := fun zero => positive.ne' ((toRat_zero value).mpr zero)
  simp [requirePositive,nonnegative_passes positive.le,raiseIf,counted,Bind.bind,Except.bind]

section Amounts
variable {policy : DecimalRoundingPolicy} {fees : FeeTaxProfile} {slippage : SlippageProfile} {quantity price : Decimal}

-- The cost of a purchase: the value, the slippage on it and the fee on both, each rounded.
structure Purchased (policy : DecimalRoundingPolicy) (fees : FeeTaxProfile) (slippage : SlippageProfile)
    (quantity price : ℚ) (cost : PurchaseCost) : Prop where
  gross : cost.grossValue.toRat = policy.nearest (quantity * price)
  slipped : cost.slippageCost.toRat = policy.nearest (cost.grossValue.toRat * slippage.purchaseRate.toRat)
  charged : cost.fee.toRat =
    policy.nearest ((cost.grossValue.toRat + cost.slippageCost.toRat) * fees.purchaseFeeRate.toRat)
  total : cost.totalCash.toRat = cost.grossValue.toRat + cost.slippageCost.toRat + cost.fee.toRat
  grossNonneg : 0 ≤ cost.grossValue.toRat
  slippageNonneg : 0 ≤ cost.slippageCost.toRat
  feeNonneg : 0 ≤ cost.fee.toRat

theorem purchase_finishes (nonneg : 0 ≤ quantity.toRat) (positive : 0 < price.toRat) :
    Finishes (calculatePurchaseCost quantity price fees slippage policy)
      (Purchased policy fees slippage quantity.toRat price.toRat) ResourceLimit := by
  have step := quantum_pos policy
  obtain ⟨feeRate,_,_⟩ := fee_rates fees
  obtain ⟨slippageRate,_⟩ := slippage_rates slippage
  unfold calculatePurchaseCost
  apply finishes_after (nonnegative_passes nonneg)
  apply finishes_after (positive_passes positive)
  apply finishes_bind multiply_finishes
  intro value multiplied
  apply finishes_bind money_finishes
  intro gross grossRounded
  rw [multiplied] at grossRounded
  have grossNonneg : 0 ≤ gross.toRat := by
    rw [grossRounded]
    exact onto_nonneg step (mul_nonneg nonneg positive.le)
  apply finishes_bind multiply_finishes
  intro slippageShare multiplied
  apply finishes_bind money_finishes
  intro slippageCost slippageRounded
  rw [multiplied] at slippageRounded
  have slippageNonneg : 0 ≤ slippageCost.toRat := by
    rw [slippageRounded]
    exact onto_nonneg step (mul_nonneg grossNonneg slippageRate.nonneg)
  apply finishes_bind add_finishes
  intro charged added
  apply finishes_bind multiply_finishes
  intro feeShare multiplied
  apply finishes_bind money_finishes
  intro fee feeRounded
  rw [multiplied,added] at feeRounded
  have feeNonneg : 0 ≤ fee.toRat := by
    rw [feeRounded]
    exact onto_nonneg step (mul_nonneg (add_nonneg grossNonneg slippageNonneg) feeRate.nonneg)
  apply finishes_bind add_finishes
  intro charge added
  apply finishes_bind add_finishes
  intro sum summed
  apply finishes_bind money_finishes
  intro total totalRounded
  apply finishes_pure.mpr
  refine ⟨grossRounded,slippageRounded,feeRounded,?_,grossNonneg,slippageNonneg,feeNonneg⟩
  -- a sum of three multiples of the quantum is not rounded again
  rw [totalRounded,summed,added]
  apply onto_kept step
  rw [grossRounded,slippageRounded,feeRounded]
  exact grid_add (grid_add onto_grid onto_grid) onto_grid

-- The proceeds of a sale; what is left may be less than nothing.
structure Sold (policy : DecimalRoundingPolicy) (fees : FeeTaxProfile) (slippage : SlippageProfile)
    (quantity price : ℚ) (proceeds : SaleProceeds) : Prop where
  gross : proceeds.grossValue.toRat = policy.lowest (quantity * price)
  slipped : proceeds.slippageCost.toRat = policy.nearest (proceeds.grossValue.toRat * slippage.saleRate.toRat)
  charged : proceeds.fee.toRat =
    policy.nearest ((proceeds.grossValue.toRat - proceeds.slippageCost.toRat) * fees.saleFeeRate.toRat)
  taxed : proceeds.tax.toRat =
    policy.nearest ((proceeds.grossValue.toRat - proceeds.slippageCost.toRat) * fees.saleTaxRate.toRat)
  net : proceeds.netProceeds.toRat =
    proceeds.grossValue.toRat - proceeds.slippageCost.toRat - proceeds.fee.toRat - proceeds.tax.toRat
  atMost : proceeds.netProceeds.toRat ≤ proceeds.grossValue.toRat

theorem sale_finishes (nonneg : 0 ≤ quantity.toRat) (positive : 0 < price.toRat) :
    Finishes (calculateSaleProceeds quantity price fees slippage policy)
      (Sold policy fees slippage quantity.toRat price.toRat) ResourceLimit := by
  have step := quantum_pos policy
  obtain ⟨_,feeRate,taxRate⟩ := fee_rates fees
  obtain ⟨_,slippageRate⟩ := slippage_rates slippage
  unfold calculateSaleProceeds
  apply finishes_after (nonnegative_passes nonneg)
  apply finishes_after (positive_passes positive)
  apply finishes_bind multiply_finishes
  intro value multiplied
  apply finishes_bind credit_finishes
  intro gross grossRounded
  rw [multiplied] at grossRounded
  have grossGrid : OnGrid policy.quantum gross.toRat := by
    rw [grossRounded]
    exact onto_grid
  have grossNonneg : 0 ≤ gross.toRat := by
    rw [grossRounded]
    exact onto_nonneg step (mul_nonneg nonneg positive.le)
  apply finishes_bind multiply_finishes
  intro slippageShare multiplied
  apply finishes_bind money_finishes
  intro slippageCost slippageRounded
  rw [multiplied] at slippageRounded
  have slippageNonneg : 0 ≤ slippageCost.toRat := by
    rw [slippageRounded]
    exact onto_nonneg step (mul_nonneg grossNonneg slippageRate.nonneg)
  have slippageWithin : slippageCost.toRat ≤ gross.toRat := by
    rw [slippageRounded]
    exact onto_share step grossGrid grossNonneg slippageRate.share
  apply finishes_bind subtract_finishes
  intro post subtracted
  have postNonneg : 0 ≤ post.toRat := by
    rw [subtracted]
    exact sub_nonneg.mpr slippageWithin
  apply finishes_bind multiply_finishes
  intro feeShare multiplied
  apply finishes_bind money_finishes
  intro fee feeRounded
  rw [multiplied] at feeRounded
  have feeNonneg : 0 ≤ fee.toRat := by
    rw [feeRounded]
    exact onto_nonneg step (mul_nonneg postNonneg feeRate.nonneg)
  apply finishes_bind multiply_finishes
  intro taxShare multiplied
  apply finishes_bind money_finishes
  intro tax taxRounded
  rw [multiplied] at taxRounded
  have taxNonneg : 0 ≤ tax.toRat := by
    rw [taxRounded]
    exact onto_nonneg step (mul_nonneg postNonneg taxRate.nonneg)
  apply finishes_bind subtract_finishes
  intro afterFee withoutFee
  apply finishes_bind subtract_finishes
  intro afterTax withoutTax
  apply finishes_bind credit_finishes
  intro net netRounded
  rw [withoutTax,withoutFee,subtracted] at netRounded
  rw [subtracted] at feeRounded taxRounded
  have kept : net.toRat = gross.toRat - slippageCost.toRat - fee.toRat - tax.toRat := by
    rw [netRounded]
    apply onto_kept step
    apply grid_sub
    · apply grid_sub
      · apply grid_sub grossGrid
        rw [slippageRounded]
        exact onto_grid
      · rw [feeRounded]
        exact onto_grid
    · rw [taxRounded]
      exact onto_grid
  apply finishes_pure.mpr
  exact ⟨grossRounded,slippageRounded,feeRounded,taxRounded,kept,by rw [kept]; linarith⟩

end Amounts

end SwapMonitor.Sizing
