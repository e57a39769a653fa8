import SwapMonitor.Sizing.Funding

namespace SwapMonitor.Sizing
open Arithmetic Exceptions

section Sale
variable (request : SizingRequest)

-- What the sale brings before its fee and its tax.
def slippedValue : ℚ :=
  let gross := request.configuration.rounding.lowest
    (request.sourceSaleQuantity.value.toRat * request.sourceSalePrice.toRat)
  gross - request.configuration.rounding.nearest (gross * request.configuration.slippageProfile.saleRate.toRat)

-- The rounded fee and the rounded tax together are no more than that.
def Covered : Prop :=
  request.configuration.rounding.nearest (slippedValue request * request.configuration.feeTaxProfile.saleFeeRate.toRat) +
    request.configuration.rounding.nearest (slippedValue request * request.configuration.feeTaxProfile.saleTaxRate.toRat) ≤
      slippedValue request

instance : Decidable (Covered request) := inferInstanceAs (Decidable (_ ≤ _))

def LimitRaised : Prop := ∃ error, size request = .error error ∧ ResourceLimit error

-- A result with a sale between nothing and its gross value, or a Decimal beyond the limits.
def Answered : Prop :=
  (∃ result, size request = .ok result ∧ 0 ≤ result.sourceSale.netProceeds.toRat ∧
    result.sourceSale.netProceeds.toRat ≤ result.sourceSale.grossValue.toRat) ∨ LimitRaised request

end Sale

variable {request : SizingRequest}

theorem sold_covered {proceeds : SaleProceeds} (sold : Sold request.configuration.rounding
    request.configuration.feeTaxProfile request.configuration.slippageProfile
    request.sourceSaleQuantity.value.toRat request.sourceSalePrice.toRat proceeds) :
    0 ≤ proceeds.netProceeds.toRat ↔ Covered request := by
  have slipped : proceeds.grossValue.toRat - proceeds.slippageCost.toRat = slippedValue request := by
    rw [sold.slipped,sold.gross]
    rfl
  rw [sold.net,sold.charged,sold.taxed,slipped,sub_sub,sub_nonneg]
  rfl

theorem sizing_answered (authorized : Authorized request) :
    (Covered request → Answered request) ∧ (¬LimitRaised request → (Answered request ↔ Covered request)) := by
  have ends := size_finishes authorized
  have covers : ∀ result, size request = .ok result → Covered request ∧
      result.sourceSale.netProceeds.toRat ≤ result.sourceSale.grossValue.toRat := by
    intro result ran
    have sized := finishes_returned ends ran
    obtain ⟨proceeds,sold,same⟩ := sized.proceeds
    have nonneg := sized.netNonneg
    rw [same] at nonneg ⊢
    exact ⟨(sold_covered sold).mp nonneg,sold.atMost⟩
  have enough : Covered request → Answered request := by
    intro covered
    cases ran : size request with
    | ok result => exact .inl ⟨result,ran,(finishes_returned ends ran).netNonneg,(covers result ran).2⟩
    | error error =>
      rcases finishes_raised ends ran with limit | ⟨_,proceeds,sold,short⟩
      · exact .inr ⟨error,ran,limit⟩
      · exact absurd ((sold_covered sold).mpr covered) (not_le.mpr short)
  refine ⟨enough,fun unlimited => ⟨?_,enough⟩⟩
  intro answered
  rcases answered with ⟨result,ran,_⟩ | limited
  · exact (covers result ran).1
  · exact absurd limited unlimited

theorem sample_authorized {salePrice : Decimal} {configuration : SizingConfiguration} {accepted} :
    Authorized (sampleSale salePrice configuration accepted) :=
  ⟨sale_exact.mp (show ensureAuthorizedRotationSale samplePlan samplePosition tenPieces = .ok () by
    decide +kernel),
    candidate_exact.mp (show ensureCandidateInstrumentIsAuthorized samplePlan sampleGroup 9 7 = .ok () by decide)⟩

theorem sample_answered : Answered sampleSizingRequest := (sizing_answered sample_authorized).1 (by decide +kernel)

-- Half of one unit goes to the fee and half to the tax, and each half is rounded up to the unit.
def halvesConfiguration : SizingConfiguration where
  stages := [onlyStage]
  feeTaxProfile := ⟨⟨cents 0,cents 50,cents 50⟩,by decide +kernel⟩
  slippageProfile := noSlippage
  reserve := .ofNat 0
  minimumQuantity := .ofNat 1
  lotQuantity := .ofNat 1
  oddLotPolicy := .prohibited
  rounding := ⟨⟨.ofNat 1,.halfUp,.down⟩,by decide +kernel⟩
  accepted := by decide +kernel

def halvesRequest : SizingRequest := sampleSale ⟨false,1,-1⟩ halvesConfiguration (by decide +kernel)

theorem halves_refused : Authorized halvesRequest ∧
    size halvesRequest = .error ⟨.sizingError,"net_sale_proceeds must not be negative"⟩ ∧ ¬Answered halvesRequest := by
  have raised : size halvesRequest = .error ⟨.sizingError,"net_sale_proceeds must not be negative"⟩ := by decide +kernel
  refine ⟨sample_authorized,raised,?_⟩
  intro answered
  rcases answered with ⟨_,ran,_⟩ | ⟨error,ran,limit⟩
  · rw [raised] at ran
    cases ran
  · rw [raised] at ran
    cases ran
    cases limit.1

end SwapMonitor.Sizing
