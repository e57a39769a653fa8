import SwapMonitor.Sizing.Specs
import SwapMonitor.Guarantees.Schedules

namespace SwapMonitor.Sizing
open Arithmetic Exceptions

-- The total of the stages.
def purchases (sizings : List StageSizing) : ℚ := (sizings.map fun sizing => sizing.totalCash.toRat).sum

def grossPurchases (sizings : List StageSizing) : ℚ := (sizings.map fun sizing => sizing.requiredPurchaseValue.toRat).sum

theorem sum_finishes {sizings : List StageSizing} {gross total : Decimal} : Finishes (sumStages sizings gross total)
    (fun sums => sums.1.toRat = gross.toRat + grossPurchases sizings ∧ sums.2.toRat = total.toRat + purchases sizings)
    ResourceLimit := by
  induction sizings generalizing gross total with
  | nil => exact finishes_pure.mpr (by simp [grossPurchases,purchases])
  | cons sizing rest ih =>
    unfold sumStages
    apply finishes_bind add_finishes
    intro gross' grossAdded
    apply finishes_bind add_finishes
    intro total' totalAdded
    apply finishes_imp ih
    intro sums ⟨grossSum,totalSum⟩
    simp only [grossSum,grossAdded,totalSum,totalAdded,grossPurchases,purchases,List.map_cons,List.sum_cons,add_assoc,
      and_self]

theorem stage_amounts {configuration : SizingConfiguration} {price : ℚ} {stages : List SizingStage}
    {sizings : List StageSizing} (each : List.Forall₂ (Evidenced configuration price) stages sizings) :
    0 ≤ grossPurchases sizings ∧ grossPurchases sizings ≤ purchases sizings := by
  induction each with
  | nil => exact ⟨le_refl _,le_refl _⟩
  | @cons _ sizing _ rest evidence _ ih =>
    have gross := evidence.grossNonneg
    have slippage := evidence.slippageNonneg
    have fee := evidence.feeNonneg
    have total := evidence.total
    simp only [grossPurchases,purchases,List.map_cons,List.sum_cons] at ih ⊢
    constructor <;> linarith [ih.1,ih.2]

-- The one complaint of the result type that a sale can cause.
def SaleBelowZero (error : PyError) : Prop := error = ⟨.sizingError,"net_sale_proceeds must not be negative"⟩

theorem kept_nonnegative {value : Decimal} {fieldName : String} (nonneg : 0 ≤ value.toRat) :
    notNegative value fieldName = .ok () :=
  (raiseIf_ok _ _ _ ()).mpr (decide_eq_false (not_lt.mpr nonneg))

theorem refused_negative {value : Decimal} {fieldName : String} (negative : value.toRat < 0) :
    notNegative value fieldName = .error ⟨.sizingError,fieldName ++ " must not be negative"⟩ := by
  simp [notNegative,raiseIf,raise,negative]

-- Amounts that the result type accepts apart from the proceeds of the sale.
structure Consistent (result : SizingResult) : Prop where
  flagged : result.actionable = decide (result.status = .actionable)
  staged : result.stages ≠ []
  cash : 0 ≤ result.availableCash.toRat
  reserve : 0 ≤ result.reserve.toRat
  value : 0 ≤ result.requiredPurchaseValue.toRat
  costs : 0 ≤ result.configuredCosts.toRat
  total : 0 ≤ result.totalRequiredCash.toRat
  remaining : 0 ≤ result.remainingCash.toRat
  funded : result.actionable = true →
    result.totalRequiredCash.toRat ≤ result.availableCash.toRat + result.netSaleProceeds.toRat

theorem result_finishes {result : SizingResult} (consistent : Consistent result) :
    Finishes result.postInit (fun _ => 0 ≤ result.netSaleProceeds.toRat)
      (fun error => ResourceLimit error ∨ SaleBelowZero error ∧ result.netSaleProceeds.toRat < 0) := by
  unfold SizingResult.postInit
  apply finishes_after ((raiseIf_ok _ _ _ ()).mpr (by simp [consistent.flagged]))
  apply finishes_after ((raiseIf_ok _ _ _ ()).mpr (List.isEmpty_eq_false_iff.mpr consistent.staged))
  apply finishes_after (kept_nonnegative consistent.cash)
  by_cases short : result.netSaleProceeds.toRat < 0
  · exact finishes_stopped (refused_negative short) (.inr ⟨rfl,short⟩)
  · have nonneg := not_lt.mp short
    apply finishes_after (kept_nonnegative nonneg)
    apply finishes_after (kept_nonnegative consistent.reserve)
    apply finishes_after (kept_nonnegative consistent.value)
    apply finishes_after (kept_nonnegative consistent.costs)
    apply finishes_after (kept_nonnegative consistent.total)
    apply finishes_after (kept_nonnegative consistent.remaining)
    split
    · rename_i actionable
      apply finishes_bind (finishes_mono add_finishes (fun _ added => added) fun _ limit => .inl limit)
      intro funding added
      have passes := not_lt.mpr (consistent.funded actionable)
      rw [← added] at passes
      rw [show raiseIf _ _ _ = .ok () from (raiseIf_ok _ _ _ ()).mpr (decide_eq_false passes)]
      exact nonneg
    · exact finishes_pure.mpr nonneg

section Request
variable {request : SizingRequest} {sale : SourceSaleAudit} {sizings : List StageSizing}

-- A result that accounts for the money of its request.
structure Settled (request : SizingRequest) (sale : SourceSaleAudit) (result : SizingResult) : Prop where
  sold : result.sourceSale = sale
  cash : result.availableCash = request.availableCash
  net : result.netSaleProceeds = sale.netProceeds
  reserve : result.reserve = request.configuration.reserve
  each : List.Forall₂ (Evidenced request.configuration request.candidatePrice.toRat) request.configuration.stages result.stages
  permitted : ∀ sizing ∈ result.stages, Permitted request.configuration sizing.purchaseQuantity.value
  balanced : result.status ≠ .insufficientCash →
    request.availableCash.toRat + result.netSaleProceeds.toRat =
      request.configuration.reserve.toRat + purchases result.stages + result.remainingCash.toRat ∧
    0 ≤ result.remainingCash.toRat
  idle : result.status = .insufficientCash → ∀ sizing ∈ result.stages, sizing.purchaseQuantity.value.toRat = 0
  netNonneg : 0 ≤ sale.netProceeds.toRat

-- How sizing may fail once the sale and the candidate are authorized.
def Fails (sale : SourceSaleAudit) (error : PyError) : Prop :=
  ResourceLimit error ∨ SaleBelowZero error ∧ sale.netProceeds.toRat < 0

theorem fails_limit {α : Type} {x : Except PyError α} {returns : α → Prop} (ends : Finishes x returns ResourceLimit) :
    Finishes x returns (Fails sale) := finishes_mono ends (fun _ returned => returned) fun _ limit => .inl limit

theorem make_finishes {status : SizingStatus} {reason : Option String}
    (each : List.Forall₂ (Evidenced request.configuration request.candidatePrice.toRat) request.configuration.stages sizings)
    (permitted : ∀ sizing ∈ sizings, Permitted request.configuration sizing.purchaseQuantity.value)
    (funded : status ≠ .insufficientCash → request.configuration.reserve.toRat + purchases sizings ≤
      request.availableCash.toRat + sale.netProceeds.toRat)
    (idle : status = .insufficientCash → ∀ sizing ∈ sizings, sizing.purchaseQuantity.value.toRat = 0) :
    Finishes (makeResult status sale sizings request.availableCash sale.netProceeds request.configuration.reserve reason)
      (Settled request sale) (Fails sale) := by
  have configured := configuration_accepted request.configuration
  obtain ⟨grossNonneg,grossWithin⟩ := stage_amounts each
  unfold makeResult
  apply finishes_bind (fails_limit sum_finishes)
  intro ⟨gross,total⟩ ⟨grossSum,totalSum⟩
  simp only [(toRat_zero (.ofNat 0)).mpr rfl,zero_add] at grossSum totalSum
  apply finishes_bind (fails_limit subtract_finishes)
  intro costs subtracted
  apply finishes_bind (fails_limit add_finishes)
  intro totalRequired required
  apply finishes_bind (fails_limit add_finishes)
  intro funding added
  apply finishes_bind (fails_limit subtract_finishes)
  intro difference left
  rw [added,required,totalSum] at left
  dsimp only
  generalize kept : (if difference.toRat < 0 then Decimal.ofNat 0 else difference) = remaining
  have remainingNonneg : 0 ≤ remaining.toRat := by
    rw [← kept]
    split
    · exact ((toRat_zero _).mpr rfl).ge
    · rename_i nonneg
      exact not_lt.mp nonneg
  apply finishes_bind (result_finishes ?_)
  · intro _ netNonneg
    apply finishes_pure.mpr
    refine ⟨rfl,rfl,rfl,rfl,each,permitted,?_,idle,netNonneg⟩
    intro paid
    refine ⟨?_,remainingNonneg⟩
    have covered := funded paid
    rw [← kept,if_neg (by rw [left]; linarith),left]
    ring
  · refine ⟨rfl,?_,(request_accepted request).cashNonneg,configured.reserveNonneg,?_,?_,?_,remainingNonneg,?_⟩
    · rintro rfl
      exact configured.staged (List.forall₂_nil_right_iff.mp each)
    · rw [grossSum]
      exact grossNonneg
    · rw [subtracted,totalSum,grossSum]
      exact sub_nonneg.mpr grossWithin
    · rw [required,totalSum]
      exact add_nonneg (grossNonneg.trans grossWithin) configured.reserveNonneg
    · intro actionable
      have paid : status ≠ .insufficientCash := by
        rintro rfl
        cases actionable
      rw [required,totalSum,add_comm (purchases sizings)]
      exact funded paid

theorem non_actionable_finishes {target : Decimal} {reason : String} :
    Finishes (nonActionableResult request sale target .insufficientCash reason) (Settled request sale) (Fails sale) := by
  have priced := request_accepted request
  unfold nonActionableResult
  apply finishes_bind (fails_limit (finishes_mapM fun stage _ => stage_finishes zero_quantity.ge priced.candidatePrice))
  intro sizings each
  have unbought := (forall₂_right (each.imp fun _ _ sized => sized.2)).2
  apply make_finishes (each.imp fun _ _ sized => sized.1)
  · intro sizing member
    rw [unbought sizing member]
    exact zero_permitted
  · intro paid
    exact absurd rfl paid
  · intro _ sizing member
    rw [unbought sizing member]
    exact zero_quantity

theorem purchases_sized {funding : Decimal} (added : funding.toRat = request.availableCash.toRat + sale.netProceeds.toRat)
    (enough : request.configuration.reserve.toRat ≤ funding.toRat) :
    Finishes (sizePurchases request sale funding) (Settled request sale) (Fails sale) := by
  have priced := (request_accepted request).candidatePrice
  unfold sizePurchases
  apply finishes_bind (fails_limit subtract_finishes)
  intro spendable _
  apply finishes_bind (fails_limit (initial_finishes priced))
  intro quantities ⟨lengths,permitted⟩
  apply finishes_bind (fails_limit (stages_finishes lengths permitted priced))
  intro stages evidence
  apply finishes_bind (fails_limit (enforce_finishes priced evidence permitted enough))
  intro sizings funded
  have covered := funded.covered
  rw [added] at covered
  split
  · exact make_finishes funded.each funded.permitted (fun _ => covered) fun idle => by cases idle
  · exact make_finishes funded.each funded.permitted (fun _ => covered) fun idle => by cases idle

-- The proceeds of the sale, and a result that accounts for them unless they are below zero.
structure Sized (request : SizingRequest) (result : SizingResult) : Prop extends
    Settled request result.sourceSale result where
  proceeds : ∃ proceeds, Sold request.configuration.rounding request.configuration.feeTaxProfile
    request.configuration.slippageProfile request.sourceSaleQuantity.value.toRat request.sourceSalePrice.toRat proceeds ∧
    result.sourceSale = sourceSale request.sourcePosition.positionId request.sourceSaleQuantity proceeds

structure Authorized (request : SizingRequest) : Prop where
  sale : AuthorizedSale request.plan request.sourcePosition request.sourceSaleQuantity
  candidate : AuthorizedCandidate request.plan request.candidateGroup request.candidate request.portfolioOwnerId

def SoldBelowZero (request : SizingRequest) : Prop := ∃ proceeds,
  Sold request.configuration.rounding request.configuration.feeTaxProfile request.configuration.slippageProfile
    request.sourceSaleQuantity.value.toRat request.sourceSalePrice.toRat proceeds ∧ proceeds.netProceeds.toRat < 0

theorem size_finishes (authorized : Authorized request) : Finishes (size request) (Sized request)
    (fun error => ResourceLimit error ∨ SaleBelowZero error ∧ SoldBelowZero request) := by
  have priced := request_accepted request
  unfold size
  apply finishes_after (sale_exact.mpr authorized.sale)
  apply finishes_after (candidate_exact.mpr authorized.candidate)
  apply finishes_bind (finishes_mono (sale_finishes request.sourceSaleQuantity.nonneg priced.salePrice) (fun _ sold => sold)
    fun _ limit => .inl limit)
  intro proceeds sold
  apply finishes_bind (finishes_mono add_finishes (fun _ added => added) fun _ limit => .inl limit)
  intro funding added
  have finish : ∀ {outcome : Except PyError SizingResult},
      Finishes outcome (Settled request (sourceSale request.sourcePosition.positionId request.sourceSaleQuantity proceeds))
        (Fails (sourceSale request.sourcePosition.positionId request.sourceSaleQuantity proceeds)) →
      Finishes outcome (Sized request) (fun error => ResourceLimit error ∨ SaleBelowZero error ∧ SoldBelowZero request) := by
    intro outcome ends
    apply finishes_mono ends
    · intro result settled
      have same := settled.sold
      exact ⟨same.symm ▸ settled,proceeds,sold,same⟩
    · intro error fails
      exact fails.imp_right fun short => ⟨short.1,proceeds,sold,short.2⟩
  split
  · exact finish non_actionable_finishes
  · rename_i covered
    exact finish (purchases_sized added (not_lt.mp covered))

theorem size_authorized {result : SizingResult} (ran : size request = .ok result) : Authorized request := by
  unfold size at ran
  simp only [bind_ok] at ran
  obtain ⟨_,sale,_,candidate,_⟩ := ran
  exact ⟨sale_exact.mp sale,candidate_exact.mp candidate⟩

theorem stages_listed {price : ℚ} {stages : List SizingStage} {configuration : SizingConfiguration}
    (each : List.Forall₂ (Evidenced configuration price) stages sizings) :
    (sizings.map fun sizing => (sizing.stageId,sizing.allocationWeight)) =
      stages.map fun stage => (stage.stageId,stage.allocationWeight) := by
  induction each with
  | nil => rfl
  | cons evidence _ ih => rw [List.map_cons,List.map_cons,ih,evidence.named,evidence.weighed]

theorem stages_total {price : ℚ} {stages : List SizingStage} {configuration : SizingConfiguration}
    (each : List.Forall₂ (Evidenced configuration price) stages sizings) : ∀ sizing ∈ sizings,
    sizing.totalCash.toRat = sizing.requiredPurchaseValue.toRat + sizing.slippageCost.toRat + sizing.fee.toRat :=
  (forall₂_right (each.imp fun _ _ evidence => evidence.total)).2

theorem money_conserved {request : SizingRequest} {result : SizingResult} (ran : size request = .ok result) :
    (∀ sizing ∈ result.stages, sizing.totalCash.toRat =
      sizing.requiredPurchaseValue.toRat + sizing.slippageCost.toRat + sizing.fee.toRat) ∧
    (result.availableCash = request.availableCash ∧ result.netSaleProceeds = result.sourceSale.netProceeds ∧
      result.reserve = request.configuration.reserve) ∧
    (result.status ≠ .insufficientCash →
      result.availableCash.toRat + result.netSaleProceeds.toRat =
        result.reserve.toRat + (result.stages.map fun sizing => sizing.totalCash.toRat).sum + result.remainingCash.toRat ∧
      0 ≤ result.remainingCash.toRat) ∧
    (result.status = .insufficientCash → ∀ sizing ∈ result.stages, sizing.purchaseQuantity.value.toRat = 0) ∧
    (∀ sizing ∈ result.stages, Permitted request.configuration sizing.purchaseQuantity.value) ∧
    (result.stages.map fun sizing => (sizing.stageId,sizing.allocationWeight)) =
      request.configuration.stages.map fun stage => (stage.stageId,stage.allocationWeight) := by
  have sized := finishes_returned (size_finishes (size_authorized ran)) ran
  refine ⟨stages_total sized.each,⟨sized.cash,sized.net,sized.reserve⟩,?_,sized.idle,sized.permitted,stages_listed sized.each⟩
  rw [sized.cash,sized.reserve]
  exact sized.balanced

end Request

-- A whole number of hundredths.
def cents (amount : Nat) : Decimal := ⟨false,amount,-2⟩

def sampleGroup : CandidateGroup := ⟨3,7,[9],0,by decide⟩

def sampleRounding : DecimalRoundingPolicy := ⟨⟨cents 1,.halfEven,.down⟩,by decide +kernel⟩

def noSlippage : SlippageProfile := ⟨⟨cents 0,cents 0⟩,by decide +kernel⟩

theorem first_named : blank "first" = false := by decide
theorem second_named : blank "second" = false := by decide
theorem half_weighted : 1 ≤ 5000 ∧ 5000 ≤ 10000 := by decide

def sampleConfiguration : SizingConfiguration where
  stages := [⟨"first",2000,first_named,by decide⟩,⟨"second",3000,second_named,by decide⟩,⟨"third",5000,by decide,half_weighted⟩]
  feeTaxProfile := ⟨⟨cents 1,cents 1,cents 2⟩,by decide +kernel⟩
  slippageProfile := ⟨⟨cents 2,cents 1⟩,by decide +kernel⟩
  reserve := .ofNat 12
  minimumQuantity := .ofNat 1
  lotQuantity := .ofNat 10
  oddLotPolicy := .allowed
  rounding := sampleRounding
  accepted := by decide +kernel

-- Ten pieces of the source position are sold at this price.
def sampleSale (salePrice : Decimal) (configuration : SizingConfiguration)
    (accepted : (RequestFields.mk samplePlan sampleGroup 7 samplePosition tenPieces salePrice 9
      (.ofNat 10) (.ofNat 100) configuration).postInit = .ok ()) : SizingRequest := ⟨_,accepted⟩

def sampleSizingRequest : SizingRequest := sampleSale (.ofNat 20) sampleConfiguration (by decide +kernel)

theorem sample_conserved : ∃ result, size sampleSizingRequest = .ok result ∧ result.status = .actionable ∧
    result.availableCash.toRat + result.netSaleProceeds.toRat =
      result.reserve.toRat + (result.stages.map fun sizing => sizing.totalCash.toRat).sum + result.remainingCash.toRat := by
  have status : (size sampleSizingRequest).map SizingResult.status = .ok .actionable := by decide +kernel
  cases ran : size sampleSizingRequest with
  | error error => rw [ran] at status; cases status
  | ok result =>
    have actionable : result.status = .actionable := by
      rw [ran] at status
      exact Except.ok.inj status
    obtain ⟨_,_,balanced,_⟩ := money_conserved ran
    exact ⟨result,rfl,actionable,(balanced (by rw [actionable]; decide)).1⟩

end SwapMonitor.Sizing
