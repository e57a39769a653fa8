import SwapMonitor.Domain.Entities

namespace SwapMonitor

def ensureAuthorizedRotationSource (plan : RotationPlan) (position : Position) : Except PyError Unit := do
  raiseIf (!decide (position.positionId ∈ plan.sourcePositionIds)) .unauthorizedRotationSourceError
    "position is not an authorized rotation source"
  raiseIf (decide (position.portfolioId ≠ plan.portfolioId)) .unauthorizedRotationSourceError
    "rotation source is outside the plan portfolio"
  raiseIf (decide (position.status ≠ .opened)) .positionNotOpenError
    "only OPEN rotation sources are eligible for sale"
  raiseIf (decide (position.role = .protectedCore) || decide (position.positionId ∈ plan.protectedPositionIds))
    .protectedPositionSaleError "protected positions are never eligible for sale"

def ensureAuthorizedRotationSale (plan : RotationPlan) (position : Position) (saleQuantity : Quantity) :
    Except PyError Unit := do
  ensureAuthorizedRotationSource plan position
  raiseIf (decide (saleQuantity.value.toRat ≤ 0)) .nonPositiveSaleQuantityError
    "rotation sale quantity must be positive"
  raiseIf (decide (position.quantity.value.toRat < saleQuantity.value.toRat))
    .saleQuantityExceedsPositionError "sale quantity exceeds open position quantity"

-- What the two checks establish.
structure AuthorizedSource (plan : RotationPlan) (position : Position) : Prop where
  listed : position.positionId ∈ plan.sourcePositionIds
  inPortfolio : position.portfolioId = plan.portfolioId
  stillOpen : position.status = .opened
  notCore : position.role ≠ .protectedCore
  unprotected : position.positionId ∉ plan.protectedPositionIds

structure AuthorizedSale (plan : RotationPlan) (position : Position) (quantity : Quantity) : Prop
    extends AuthorizedSource plan position where
  positive : 0 < quantity.value.toRat
  held : quantity.value.toRat ≤ position.quantity.value.toRat

theorem source_exact : ensureAuthorizedRotationSource plan position = .ok () ↔
    AuthorizedSource plan position := by
  constructor
  · intro passed
    simp only [ensureAuthorizedRotationSource,bind_ok,raiseIf_ok,exists_const] at passed
    obtain ⟨listed,portfolio,opened,guarded⟩ := passed
    simp only [Bool.not_eq_false',decide_eq_true_eq,ne_eq,decide_not,Bool.or_eq_false_iff,
      decide_eq_false_iff_not] at listed portfolio opened guarded
    exact ⟨listed,portfolio,opened,guarded.1,guarded.2⟩
  · rintro ⟨listed,portfolio,opened,core,protection⟩
    simp [ensureAuthorizedRotationSource,raiseIf,listed,portfolio,opened,core,protection,Bind.bind,Except.bind]

theorem sale_exact : ensureAuthorizedRotationSale plan position quantity = .ok () ↔
    AuthorizedSale plan position quantity := by
  constructor
  · intro passed
    simp only [ensureAuthorizedRotationSale,bind_ok,raiseIf_ok,exists_const] at passed
    obtain ⟨_,source,positive,held⟩ := passed
    simp only [decide_eq_false_iff_not,not_le,not_lt] at positive held
    exact ⟨source_exact.mp source,positive,held⟩
  · rintro ⟨source,positive,held⟩
    simp [ensureAuthorizedRotationSale,source_exact.mpr source,raiseIf,not_le.mpr positive,not_lt.mpr held,
      Bind.bind,Except.bind]

-- Quantity(value)
def Quantity.create (value : Decimal) : Except PyError Quantity :=
  if nonneg : 0 ≤ value.toRat then .ok ⟨value,nonneg⟩
  else raise .negativeQuantityError "quantity must not be negative"

-- The branch of ensure_plan_reference_is_authorized for a CandidateGroup.
def ensurePlanReferenceIsAuthorized (plan : RotationPlan) (reference : CandidateGroup) (portfolioOwnerId : UUID) :
    Except PyError Unit := do
  raiseIf (!decide (reference.candidateGroupId ∈ plan.candidateGroupIds)) .planReferenceUnauthorizedError
    "candidate group is not attached to the plan"
  raiseIf (decide (reference.userId ≠ portfolioOwnerId)) .planReferenceUnauthorizedError
    "candidate group belongs to another user"

def ensureCandidateInstrumentIsAuthorized (plan : RotationPlan) (candidateGroup : CandidateGroup) (instrument : UUID)
    (portfolioOwnerId : UUID) : Except PyError Unit := do
  ensurePlanReferenceIsAuthorized plan candidateGroup portfolioOwnerId
  raiseIf (!decide (instrument ∈ candidateGroup.instruments)) .candidateInstrumentUnauthorizedError
    "instrument is not authorized by the candidate group"

structure AuthorizedCandidate (plan : RotationPlan) (candidateGroup : CandidateGroup) (instrument : UUID)
    (portfolioOwnerId : UUID) : Prop where
  attached : candidateGroup.candidateGroupId ∈ plan.candidateGroupIds
  owned : candidateGroup.userId = portfolioOwnerId
  allowed : instrument ∈ candidateGroup.instruments

theorem candidate_exact {plan : RotationPlan} {candidateGroup : CandidateGroup} {instrument portfolioOwnerId : UUID} :
    ensureCandidateInstrumentIsAuthorized plan candidateGroup instrument portfolioOwnerId = .ok () ↔
      AuthorizedCandidate plan candidateGroup instrument portfolioOwnerId := by
  constructor
  · intro passed
    simp only [ensureCandidateInstrumentIsAuthorized,ensurePlanReferenceIsAuthorized,bind_ok,raiseIf_ok,
      exists_const] at passed
    obtain ⟨⟨attached,owned⟩,allowed⟩ := passed
    simp only [Bool.not_eq_false',decide_eq_true_eq,ne_eq,decide_not] at attached owned allowed
    exact ⟨attached,owned,allowed⟩
  · intro held
    obtain ⟨attached,owned,allowed⟩ := held
    simp [ensureCandidateInstrumentIsAuthorized,ensurePlanReferenceIsAuthorized,raiseIf,attached,owned,allowed,
      Bind.bind,Except.bind]

end SwapMonitor
