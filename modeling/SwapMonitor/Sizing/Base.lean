import SwapMonitor.Domain.Invariants
import SwapMonitor.Services.RotationRun
import SwapMonitor.Sizing.Amounts
import SwapMonitor.Rules.Schema

namespace SwapMonitor.Sizing
open Arithmetic

inductive OddLotPolicy where
  | allowed | prohibited
  deriving DecidableEq, Repr

structure SizingStage where
  stageId : String
  allocationBasisPoints : Nat
  named : blank stageId = false
  within : 1 ≤ allocationBasisPoints ∧ allocationBasisPoints ≤ 10000
  deriving DecidableEq

theorem strip_named {value : String} (named : ¬blank value = true) : blank (Rules.strip value) = false := by
  cases stripped : blank (Rules.strip value) with
  | false => rfl
  | true => exact absurd (Rules.strip_blank stripped) named

-- The digits that int() takes in a text by default.
def INT_MAX_STR_DIGITS : Nat := 4300

-- SizingStage(...): the weight is kept as a number of basis points.
def SizingStage.create (stageId : String) (allocationWeight : Decimal) : Except PyError SizingStage :=
  if named : blank stageId then raise .sizingError "stage_id must not be blank"
  else do
    let normalizedStageId := Rules.strip stageId
    raiseIf (decide (256 < normalizedStageId.utf8ByteSize)) .sizingError "stage_id must be at most 256 UTF-8 bytes"
    raiseIf (!decide (0 < allocationWeight.toRat ∧ allocationWeight.toRat ≤ 1)) .sizingError
      "allocation_weight must be between zero and one"
    -- int("".join(str(digit) for digit in decimal_tuple.digits))
    raiseIf (decide (INT_MAX_STR_DIGITS < digitCount allocationWeight.coefficient)) .valueError ("Exceeds the limit (4300 digits) for integer " ++
      "string conversion: value has " ++ toString (digitCount allocationWeight.coefficient) ++
      " digits; use sys.set_int_max_str_digits() to increase the limit")
    let stripped := stripZeros (digitCount allocationWeight.coefficient) allocationWeight.coefficient
    let exponent := allocationWeight.exponent + stripped.2
    raiseIf (decide (exponent < -4)) .sizingError "allocation_weight must be exactly representable in basis points"
    let allocationBasisPoints := stripped.1 * 10 ^ (exponent + 4).toNat
    if within : 1 ≤ allocationBasisPoints ∧ allocationBasisPoints ≤ 10000 then
      pure ⟨normalizedStageId,allocationBasisPoints,strip_named named,within⟩
    else raise .sizingError "allocation_weight must be between 1 and 10,000 basis points"

def SizingStage.allocationWeight (stage : SizingStage) : Decimal := ⟨false,stage.allocationBasisPoints,-4⟩

structure ConfigurationFields where
  stages : List SizingStage
  feeTaxProfile : FeeTaxProfile
  slippageProfile : SlippageProfile
  reserve : Decimal
  minimumQuantity : Decimal
  lotQuantity : Decimal
  oddLotPolicy : OddLotPolicy
  rounding : DecimalRoundingPolicy
  deriving DecidableEq

def ConfigurationFields.postInit (fields : ConfigurationFields) : Except PyError Unit := do
  raiseIf fields.stages.isEmpty .sizingError "sizing configuration must contain at least one stage"
  raiseIf (!decide (fields.stages.map SizingStage.stageId).Nodup) .sizingError "stage ids must be unique"
  raiseIf (decide ((fields.stages.map SizingStage.allocationBasisPoints).sum ≠ 10000)) .sizingError
    "stage allocation basis points must total exactly 10,000"
  raiseIf (decide (fields.reserve.toRat < 0)) .sizingError "reserve must not be negative"
  raiseIf (decide (fields.minimumQuantity.toRat ≤ 0)) .sizingError "minimum_quantity must be positive"
  raiseIf (decide (fields.lotQuantity.toRat ≤ 0)) .sizingError "lot_quantity must be positive"
  raiseIf (decide (fields.lotQuantity.toRat < fields.minimumQuantity.toRat)) .sizingError
    "minimum_quantity must not exceed lot_quantity"

structure SizingConfiguration extends ConfigurationFields where
  accepted : toConfigurationFields.postInit = .ok ()
  deriving DecidableEq

structure RequestFields where
  plan : RotationPlan
  candidateGroup : CandidateGroup
  portfolioOwnerId : UUID
  sourcePosition : Position
  sourceSaleQuantity : Quantity
  sourceSalePrice : Decimal
  candidate : UUID
  candidatePrice : Decimal
  availableCash : Decimal
  configuration : SizingConfiguration

def RequestFields.postInit (fields : RequestFields) : Except PyError Unit := do
  raiseIf (decide (fields.sourceSalePrice.toRat ≤ 0) || decide (fields.candidatePrice.toRat ≤ 0)) .sizingError
    "source_sale_price and candidate_price must be positive"
  raiseIf (decide (fields.availableCash.toRat < 0)) .sizingError "available_cash must not be negative"

structure SizingRequest extends RequestFields where
  accepted : toRequestFields.postInit = .ok ()

structure SourceSaleAudit where
  sourcePositionId : UUID
  quantity : Quantity
  grossValue : Decimal
  slippageCost : Decimal
  fee : Decimal
  tax : Decimal
  netProceeds : Decimal
  deriving DecidableEq

structure StageSizing where
  stageId : String
  allocationWeight : Decimal
  targetValue : Decimal
  purchaseQuantity : Quantity
  requiredPurchaseValue : Decimal
  slippageCost : Decimal
  fee : Decimal
  totalCash : Decimal
  deriving DecidableEq

structure SizingResult where
  status : SizingStatus
  actionable : Bool
  sourceSale : SourceSaleAudit
  stages : List StageSizing
  availableCash : Decimal
  netSaleProceeds : Decimal
  reserve : Decimal
  requiredPurchaseValue : Decimal
  configuredCosts : Decimal
  totalRequiredCash : Decimal
  remainingCash : Decimal
  reason : Option String
  deriving DecidableEq

def notNegative (value : Decimal) (fieldName : String) : Except PyError Unit :=
  raiseIf (decide (value.toRat < 0)) .sizingError (fieldName ++ " must not be negative")

-- SizingResult.__post_init__
def SizingResult.postInit (result : SizingResult) : Except PyError Unit := do
  raiseIf (result.actionable != decide (result.status = .actionable)) .sizingError
    "actionable must match an ACTIONABLE sizing status"
  raiseIf result.stages.isEmpty .sizingError "sizing result must retain configured stage evidence"
  notNegative result.availableCash "available_cash"
  notNegative result.netSaleProceeds "net_sale_proceeds"
  notNegative result.reserve "reserve"
  notNegative result.requiredPurchaseValue "required_purchase_value"
  notNegative result.configuredCosts "configured_costs"
  notNegative result.totalRequiredCash "total_required_cash"
  notNegative result.remainingCash "remaining_cash"
  if result.actionable then
    let funding ← addDecimals result.availableCash result.netSaleProceeds
    raiseIf (decide (funding.toRat < result.totalRequiredCash.toRat)) .sizingError
      "actionable sizing result violates funding inequality"
  else pure ()

-- What the constructors of a configuration and of a request established.
structure Configured (fields : ConfigurationFields) : Prop where
  staged : fields.stages ≠ []
  reserveNonneg : 0 ≤ fields.reserve.toRat
  minimumPositive : 0 < fields.minimumQuantity.toRat
  lotPositive : 0 < fields.lotQuantity.toRat
  minimumLot : fields.minimumQuantity.toRat ≤ fields.lotQuantity.toRat

theorem configuration_accepted (configuration : SizingConfiguration) :
    Configured configuration.toConfigurationFields := by
  have accepted := configuration.accepted
  simp only [ConfigurationFields.postInit,bind_ok,raiseIf_ok,exists_const,List.isEmpty_eq_false_iff,ne_eq,
    decide_eq_false_iff_not,not_lt,not_le] at accepted
  obtain ⟨staged,_,_,reserve,minimum,lot,within⟩ := accepted
  exact ⟨staged,reserve,minimum,lot,within⟩

structure Priced (fields : RequestFields) : Prop where
  salePrice : 0 < fields.sourceSalePrice.toRat
  candidatePrice : 0 < fields.candidatePrice.toRat
  cashNonneg : 0 ≤ fields.availableCash.toRat

theorem request_accepted (request : SizingRequest) : Priced request.toRequestFields := by
  have accepted := request.accepted
  simp only [RequestFields.postInit,bind_ok,raiseIf_ok,exists_const,Bool.or_eq_false_iff,
    decide_eq_false_iff_not,not_lt,not_le] at accepted
  obtain ⟨⟨sale,candidate⟩,cash⟩ := accepted
  exact ⟨sale,candidate,cash⟩

-- The basis points hold the weight a stage was given exactly.
theorem stage_weight {stageId : String} {weight : Decimal} {stage : SizingStage}
    (created : SizingStage.create stageId weight = .ok stage) : stage.allocationWeight.toRat = weight.toRat := by
  unfold SizingStage.create at created
  split at created
  · cases created
  · simp only [bind_ok,raiseIf_ok,exists_const,Bool.not_eq_false',decide_eq_true_eq,decide_eq_false_iff_not,
      not_lt] at created
    obtain ⟨_,⟨positive,_⟩,_,fine,kept⟩ := created
    have digits := strip_value (digitCount weight.coefficient) weight.coefficient
    generalize stripZeros (digitCount weight.coefficient) weight.coefficient = stripped at digits fine kept
    split at kept
    · cases kept
      have unsigned : weight.negative = false := by
        cases sign : weight.negative with
        | false => rfl
        | true =>
          have signed := (toRat_pos weight).mp positive
          simp only [Decimal.signed,sign,if_true] at signed
          omega
      have shifted := ten_pow_shift fine
      rw [toRat_parts,toRat_parts]
      simp only [SizingStage.allocationWeight,unsigned,Bool.false_eq_true,if_false,one_mul]
      rw [← digits]
      push_cast at shifted ⊢
      rw [mul_assoc,show weight.exponent + stripped.2 + 4 = weight.exponent + stripped.2 - -4 by ring,← shifted,
        zpow_add₀ (by norm_num : (10 : ℚ) ≠ 0),zpow_natCast]
      ring
    · cases kept

end SwapMonitor.Sizing
