import SwapMonitor.Application.ConcludedFinalizations

namespace SwapMonitor
open Interleaving

section Programs
variable {s : Session} {lease : LockLease} {seed : UUID → Option RecommendationStateRecord} {t : Instant}
  {L : ScanLedger} {j : Log} {scan : LogicalScanRun} {plan : RotationPlan}

-- What the guarded part of an evaluation hands on.
def Evaluation (plan : RotationPlan) (scan : LogicalScanRun) (result : StrategyRun × Session.Finalized) (L : ScanLedger)
    (j : Log) : Prop :=
  ∃ x : StoredRun, result.1 = x.run ∧ x.candidate.plan = plan ∧ Adjudicated scan x result.2 L j

end Programs

-- A scan's lease that is free is taken, and given back at the end.
section Leases
variable {s : Session} {seed : UUID → Option RecommendationStateRecord} {t : Instant} {L : ScanLedger} {w : World}
  {plan : RotationPlan}

end Leases

-- A call that may do what it asks for: the plan and the configuration snapshot are what it says,
-- its scan can be identified, and its actor may write in the plan's portfolio.
structure Ready (c : Coordinator) (request : RunCoordinatorRequest) (scanRequest : ScanLockRequest) : Prop where
  plan : c.getPlan request = .ok request.plan
  snapshot : ∃ persisted, c.getConfigurationSnapshot request = .ok persisted ∧
    persisted.reference = request.configurationSnapshot ∧ persisted.targetReferenceId = request.plan.rotationPlanId
  asked : request.scanLockRequest c.deployment = .ok scanRequest
  permitted : ∃ owner, requirePortfolioMutation c.deployment request.plan.portfolioId request.accessContext = .ok owner
  correlated : request.correlationId.length ≤ 256

section Calls
variable {c : Coordinator} {seed : UUID → Option RecommendationStateRecord} {thread : Nat} {t : Instant} {w : World}
  {request : RunCoordinatorRequest} {scanRequest : ScanLockRequest}

theorem Ready.entitled (ready : Ready c request scanRequest) (distinct : Function.Injective c.deployment.sha256) :
    Session.Entitled ⟨c,thread,request,scanRequest⟩ request.plan :=
  ⟨⟨request_plan ready.asked,request_identified ready.asked,plan_found ready.plan⟩,ready.permitted,distinct,
    ready.correlated⟩

end Calls
end SwapMonitor
