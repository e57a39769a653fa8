import SwapMonitor.Application.Documenting

namespace SwapMonitor
open Interleaving
open Function (update update_self update_of_ne)

section Programs
variable {s : Session} {seed : UUID → Option RecommendationStateRecord} {base : Log} {scan : LogicalScanRun}
  {plan : RotationPlan} {run : StrategyRun} {identity : FinalStrategyIdentity}

end Programs

-- Leases: who acquires one registers the portfolio of the plan, and only its own is freed.
section Leases
variable {s : Session} {seed : UUID → Option RecommendationStateRecord} {base : Log} {plan : RotationPlan}

end Leases

section Calls
variable {c : Coordinator} {seed : UUID → Option RecommendationStateRecord} {thread : Nat}

-- The request names its plan in its scan identity too.
theorem request_identified {d : Deployment} {request : RunCoordinatorRequest} {scanRequest : ScanLockRequest}
    (asked : request.scanLockRequest d = .ok scanRequest) :
    scanRequest.identity.rotationPlanId = request.plan.rotationPlanId := by
  unfold RunCoordinatorRequest.scanLockRequest at asked
  split at asked
  · cases asked
  · simp only [bind_ok,pure_ok] at asked
    obtain ⟨_,_,rfl⟩ := asked
    rfl

variable {nextUuid : UUID} {pool : Pool World Input PyError RunCoordinatorResult}

end Calls
end SwapMonitor
