import SwapMonitor.Sizing.Base

namespace SwapMonitor.Sizing

def MAX_SIZING_ADJUSTMENT_SEARCH_STEPS : Nat := 4096

def zeroQuantity : Decimal := .ofNat 0

section Configuration
variable (configuration : SizingConfiguration) (candidatePrice : Decimal)

def purchaseCost (quantity : Decimal) : Except PyError PurchaseCost :=
  calculatePurchaseCost quantity candidatePrice configuration.feeTaxProfile configuration.slippageProfile
    configuration.rounding

def quantityIncrement : Decimal :=
  if configuration.oddLotPolicy = .allowed then configuration.minimumQuantity else configuration.lotQuantity

def quantityForTarget (targetValue unitCost : Decimal) : Except PyError Decimal := do
  let increment := quantityIncrement configuration
  let incrementCost ← multiplyDecimals unitCost increment
  let increments ← floorDivideDecimals targetValue incrementCost
  let quantity ← multiplyDecimals (.ofSigned increments 0) increment
  pure (if quantity.toRat < configuration.minimumQuantity.toRat then zeroQuantity else quantity)

def targetOf (spendable : Decimal) (stage : SizingStage) : Except PyError Decimal := do
  configuration.rounding.moneyNotIncreasing (← multiplyDecimals spendable stage.allocationWeight)

def initialQuantities (spendable : Decimal) : Except PyError (List Decimal) := do
  let unitCost := (← purchaseCost configuration candidatePrice (.ofNat 1)).totalCash
  if unitCost.toRat ≤ 0 then pure (configuration.stages.map fun _ => zeroQuantity)
  else configuration.stages.mapM fun stage => do
    quantityForTarget configuration (← targetOf configuration spendable stage) unitCost

def stageResult (stage : SizingStage) (targetValue quantity : Decimal) : Except PyError StageSizing := do
  let cost ← purchaseCost configuration candidatePrice quantity
  let purchaseQuantity ← Quantity.create quantity
  pure ⟨stage.stageId,stage.allocationWeight,targetValue,purchaseQuantity,cost.grossValue,cost.slippageCost,
    cost.fee,cost.totalCash⟩

-- The strict zips of the source go over as many quantities as there are stages.
def stageResults (spendable : Decimal) (quantities : List Decimal) : Except PyError (List StageSizing) :=
  (configuration.stages.zip quantities).mapM fun (stage,quantity) => do
    stageResult configuration candidatePrice stage (← targetOf configuration spendable stage) quantity

def zeroStages : Except PyError (List StageSizing) :=
  stageResults configuration candidatePrice zeroQuantity (configuration.stages.map fun _ => zeroQuantity)

def addPurchases : List Decimal → Decimal → Except PyError Decimal
  | [],purchaseTotal => pure purchaseTotal
  | quantity :: rest,purchaseTotal => do
    let cost ← purchaseCost configuration candidatePrice quantity
    addPurchases rest (← addDecimals purchaseTotal cost.totalCash)

def totalCash (quantities : List Decimal) : Except PyError Decimal :=
  addPurchases configuration candidatePrice quantities configuration.reserve

-- The binary search: none when the steps run out before the bounds meet.
def searchIncrements (affordable : Int → Except PyError Bool) : Nat → Int → Int → Except PyError (Option Int)
  | 0,lowerIncrements,upperIncrements =>
    pure (if lowerIncrements < upperIncrements then none else some lowerIncrements)
  | steps + 1,lowerIncrements,upperIncrements =>
    if lowerIncrements < upperIncrements then do
      let midpoint := (lowerIncrements + upperIncrements + 1).fdiv 2
      if ← affordable midpoint then searchIncrements affordable steps midpoint upperIncrements
      else searchIncrements affordable steps lowerIncrements (midpoint - 1)
    else pure (some lowerIncrements)

def affordableIncrements (quantities : List Decimal) (funding : Decimal) (adjustmentIndex : Nat) (increments : Int) :
    Except PyError Bool := do
  let candidateQuantity ← multiplyDecimals (.ofSigned increments 0) (quantityIncrement configuration)
  let total ← totalCash configuration candidatePrice (quantities.set adjustmentIndex candidateQuantity)
  pure (decide (total.toRat ≤ funding.toRat))

def maxAffordableStageQuantity (quantities : List Decimal) (funding : Decimal) (adjustmentIndex : Nat) :
    Except PyError (Option Decimal) := do
  let increment := quantityIncrement configuration
  let upperIncrements ← floorDivideDecimals (quantities.getD adjustmentIndex zeroQuantity) increment
  match ← searchIncrements (affordableIncrements configuration candidatePrice quantities funding adjustmentIndex)
      MAX_SIZING_ADJUSTMENT_SEARCH_STEPS 0 upperIncrements with
  | none => pure none
  | some increments => some <$> multiplyDecimals (.ofSigned increments 0) increment

-- The loop from the last stage down to the first: none where it gives up on every purchase.
def adjustQuantities (funding : Decimal) : Nat → List Decimal → Except PyError (Option (List Decimal))
  | 0,quantities => pure (some quantities)
  | index + 1,quantities => do
    let total ← totalCash configuration candidatePrice quantities
    if total.toRat ≤ funding.toRat then pure (some quantities)
    else if (quantities.getD index zeroQuantity).toRat < configuration.minimumQuantity.toRat then
      adjustQuantities funding index quantities
    else
      match ← maxAffordableStageQuantity configuration candidatePrice quantities funding index with
      | none => pure none
      | some adjusted => adjustQuantities funding index (quantities.set index adjusted)

def enforceFunding (funding : Decimal) (stages : List StageSizing) : Except PyError (List StageSizing) := do
  let quantities := stages.map fun stage => stage.purchaseQuantity.value
  match ← adjustQuantities configuration candidatePrice funding quantities.length quantities with
  | none => zeroStages configuration candidatePrice
  | some adjusted =>
    let total ← totalCash configuration candidatePrice adjusted
    if funding.toRat < total.toRat then zeroStages configuration candidatePrice
    else (configuration.stages.zip (stages.zip adjusted)).mapM fun (stage,existing,quantity) =>
      stageResult configuration candidatePrice stage existing.targetValue quantity

end Configuration

def sumStages : List StageSizing → Decimal → Decimal → Except PyError (Decimal × Decimal)
  | [],requiredPurchaseValue,totalPurchaseCash => pure (requiredPurchaseValue,totalPurchaseCash)
  | stage :: rest,requiredPurchaseValue,totalPurchaseCash => do
    let requiredPurchaseValue ← addDecimals requiredPurchaseValue stage.requiredPurchaseValue
    let totalPurchaseCash ← addDecimals totalPurchaseCash stage.totalCash
    sumStages rest requiredPurchaseValue totalPurchaseCash

def makeResult (status : SizingStatus) (sourceSale : SourceSaleAudit) (stages : List StageSizing)
    (availableCash netSaleProceeds reserve : Decimal) (reason : Option String) : Except PyError SizingResult := do
  let (requiredPurchaseValue,totalPurchaseCash) ← sumStages stages (.ofNat 0) (.ofNat 0)
  let configuredCosts ← subtractDecimals totalPurchaseCash requiredPurchaseValue
  let totalRequiredCash ← addDecimals totalPurchaseCash reserve
  let funding ← addDecimals availableCash netSaleProceeds
  let remainingCash ← subtractDecimals funding totalRequiredCash
  let remainingCash := if remainingCash.toRat < 0 then .ofNat 0 else remainingCash
  let result : SizingResult := ⟨status,decide (status = .actionable),sourceSale,stages,availableCash,netSaleProceeds,
    reserve,requiredPurchaseValue,configuredCosts,totalRequiredCash,remainingCash,reason⟩
  result.postInit
  pure result

def sourceSale (sourcePositionId : UUID) (quantity : Quantity) (proceeds : SaleProceeds) : SourceSaleAudit :=
  ⟨sourcePositionId,quantity,proceeds.grossValue,proceeds.slippageCost,proceeds.fee,proceeds.tax,proceeds.netProceeds⟩

def nonActionableResult (request : SizingRequest) (sale : SourceSaleAudit) (targetValue : Decimal)
    (status : SizingStatus) (reason : String) : Except PyError SizingResult := do
  let stages ← request.configuration.stages.mapM fun stage =>
    stageResult request.configuration request.candidatePrice stage targetValue zeroQuantity
  makeResult status sale stages request.availableCash sale.netProceeds request.configuration.reserve (some reason)

-- What is sized of the money that is left after the reserve.
def sizePurchases (request : SizingRequest) (sale : SourceSaleAudit) (funding : Decimal) : Except PyError SizingResult := do
  let configuration := request.configuration
  let spendable ← subtractDecimals funding configuration.reserve
  let quantities ← initialQuantities configuration request.candidatePrice spendable
  let stages ← stageResults configuration request.candidatePrice spendable quantities
  let stages ← enforceFunding configuration request.candidatePrice funding stages
  if stages.all fun stage => decide (stage.purchaseQuantity.value.coefficient = 0) then
    makeResult .noPurchaseQuantity sale stages request.availableCash sale.netProceeds configuration.reserve
      (some "configured_minimum_or_lot_prevents_purchase")
  else makeResult .actionable sale stages request.availableCash sale.netProceeds configuration.reserve none

def size (request : SizingRequest) : Except PyError SizingResult := do
  ensureAuthorizedRotationSale request.plan request.sourcePosition request.sourceSaleQuantity
  ensureCandidateInstrumentIsAuthorized request.plan request.candidateGroup request.candidate request.portfolioOwnerId
  let saleProceeds ← calculateSaleProceeds request.sourceSaleQuantity.value request.sourceSalePrice
    request.configuration.feeTaxProfile request.configuration.slippageProfile request.configuration.rounding
  let sale := sourceSale request.sourcePosition.positionId request.sourceSaleQuantity saleProceeds
  let funding ← addDecimals request.availableCash saleProceeds.netProceeds
  if funding.toRat < request.configuration.reserve.toRat then
    nonActionableResult request sale (.ofNat 0) .insufficientCash "funding_does_not_cover_reserve"
  else sizePurchases request sale funding

end SwapMonitor.Sizing
