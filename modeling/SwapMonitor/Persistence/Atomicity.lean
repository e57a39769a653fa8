import SwapMonitor.Exceptions.Bodies
import SwapMonitor.Persistence.Repositories

namespace SwapMonitor
open Function (update)
open Bodies

namespace Stores
variable (d : Deployment) (access : AccessContext) (w : Stores)

-- The methods that write, statement by statement.
namespace Body

def createOrRecover (request : ScanLockRequest) (createdAt : Instant) : Body PyError Stores LogicalScanRun := do
  let _ ← check fun _ => requirePortfolioMutation d request.plan.portfolioId access
  let existing ← fetch fun w => w.scansByKey (request.key d)
  match existing with
  | some existing => do
    check fun _ => raiseIf (!matchesRequest d existing request) .valueError
      "scan lock key resolves to different scan identity components"
    pure existing
  | none => do
    let scan ← fetch fun w => newScan d w request createdAt
    assign fun w => {w with nextUuid := w.nextUuid + 1}
    assign fun w => {w with scansById := update w.scansById scan.logicalScanRunId (some scan)}
    assign fun w => {w with scansByKey := update w.scansByKey scan.scanLockKey (some scan)}
    assign fun w => {w with attemptsByScan := update w.attemptsByScan scan.logicalScanRunId []}
    pure scan

def recordAttempt (attempt : ScanAttempt) : Body PyError Stores Unit := do
  let scan ← check fun w => getScan d access w attempt.logicalScanRunId
  let _ ← check fun _ => requirePortfolioMutation d scan.portfolioId access
  let attempts ← fetch fun w => w.attemptsByScan scan.logicalScanRunId
  check fun _ => raiseIf (attempts.any fun stored => stored.attemptNumber == attempt.attemptNumber) .valueError
    "logical scan attempt_number must be unique"
  check fun w => validateAttemptReferences w scan attempt attempts
  check fun _ => raiseIf (decide (scan.status = .completed) && attempt.finalStrategyRunId.isNone)
    .logicalScanAlreadyCompletedError "completed logical scans can record only final strategy run evidence"
  check fun _ => validateScanAttemptAppend attempts attempt
  assign fun w => {w with attemptsByScan := update w.attemptsByScan scan.logicalScanRunId (attempts ++ [attempt])}

def attachFinalStrategyRun (logicalScanRunId : UUID) (plan : RotationPlan) (strategyRunId : UUID) (completedAt : Instant) :
    Body PyError Stores LogicalScanRun := do
  let scan ← check fun w => getScan d access w logicalScanRunId
  let _ ← check fun _ => requirePortfolioMutation d scan.portfolioId access
  check fun _ => raiseIf (decide (scan.rotationPlanId ≠ plan.rotationPlanId ∨ scan.portfolioId ≠ plan.portfolioId))
    .valueError "logical scan must belong to the supplied rotation plan"
  check fun _ => raiseIf (decide (scan.status = .completed)) .logicalScanAlreadyCompletedError
    "logical scan already has a final strategy run"
  check fun w => raiseIf
    (decide ((w.runsByLogicalScan logicalScanRunId).map (·.strategyRunId) ≠ some strategyRunId)) .valueError
    "logical scan final strategy run was not persisted"
  check fun w => raiseIf (!(w.attemptsByScan logicalScanRunId).any fun attempt =>
      attempt.status == .succeeded && attempt.finalStrategyRunId == some strategyRunId) .valueError
    "logical scan requires durable final success evidence before completion"
  let completed ← check fun _ => completeScan scan strategyRunId completedAt
  assign fun w => {w with scansById := update w.scansById logicalScanRunId (some completed)}
  assign fun w => {w with scansByKey := update w.scansByKey completed.scanLockKey (some completed)}
  pure completed

def recordOrGet (plan : RotationPlan) (run : StrategyRun) (idempotencyKey : Digest) (logicalScanRunId : Option UUID) :
    Body PyError Stores StrategyRun := do
  let _ ← check fun _ => requirePortfolioMutation d plan.portfolioId access
  check fun _ => raiseIf (decide (run.rotationPlanId ≠ plan.rotationPlanId ∨ run.portfolioId ≠ plan.portfolioId)) .valueError
    "strategy run must belong to the supplied rotation plan"
  let existing ← fetch fun w => w.runsByKey (plan.rotationPlanId,idempotencyKey)
  match existing with
  | some existing => do
    check fun w => raiseIf
      (!existing.same run || decide (w.logicalScanByKey (plan.rotationPlanId,idempotencyKey) ≠ logicalScanRunId))
      .idempotencyConflictError "idempotency key already records a different strategy run"
    pure existing
  | none => do
    check fun w => requireOpenScan d access w plan logicalScanRunId
    assign fun w => {w with runsByKey := update w.runsByKey (plan.rotationPlanId,idempotencyKey) (some run)}
    assign fun w => {w with runsById := update w.runsById run.strategyRunId (some run)}
    assign fun w => {w with
      logicalScanByKey := update w.logicalScanByKey (plan.rotationPlanId,idempotencyKey) logicalScanRunId}
    assign fun w => match logicalScanRunId with
      | some scanId => {w with runsByLogicalScan := update w.runsByLogicalScan scanId (some run)}
      | none => w
    pure run

end Body

-- Each of them returns with all its writes done, or raises with none of them.
theorem created_atomic (request : ScanLockRequest) (createdAt : Instant) :
    Body.createOrRecover d access request createdAt w = settled (w.createOrRecover d access request createdAt) w := by
  unfold Body.createOrRecover Stores.createOrRecover
  refine checked fun _ _ => ?_
  rw [fetched]
  cases stored : w.scansByKey (request.key d) with
  | some existing => exact checked fun _ _ => rfl
  | none => rfl

theorem attempted_atomic (attempt : ScanAttempt) : Body.recordAttempt d access attempt w =
    settled ((w.recordAttempt d access attempt).map fun stores => ((),stores)) w := by
  unfold Body.recordAttempt Stores.recordAttempt
  simp only [bind_mapped]
  refine checked fun _ _ => checked fun _ _ => ?_
  rw [fetched]
  exact checked fun _ _ => checked fun _ _ => checked fun _ _ => checked fun _ _ => rfl

theorem attached_atomic (logicalScanRunId : UUID) (plan : RotationPlan) (strategyRunId : UUID) (completedAt : Instant) :
    Body.attachFinalStrategyRun d access logicalScanRunId plan strategyRunId completedAt w =
      settled (w.attachFinalStrategyRun d access logicalScanRunId plan strategyRunId completedAt) w := by
  unfold Body.attachFinalStrategyRun Stores.attachFinalStrategyRun
  exact checked fun _ _ => checked fun _ _ => checked fun _ _ => checked fun _ _ => checked fun _ _ =>
    checked fun _ _ => checked fun _ _ => rfl

theorem recorded_atomic (plan : RotationPlan) (run : StrategyRun) (idempotencyKey : Digest)
    (logicalScanRunId : Option UUID) : Body.recordOrGet d access plan run idempotencyKey logicalScanRunId w =
      settled (w.recordOrGet d access plan run idempotencyKey logicalScanRunId) w := by
  cases stored : w.runsByKey (plan.rotationPlanId,idempotencyKey) with
  | some existing =>
    simp only [Body.recordOrGet,Stores.recordOrGet,stored]
    refine checked fun _ _ => checked fun _ _ => ?_
    rw [fetched]
    simp only [stored]
    exact checked fun _ _ => rfl
  | none =>
    rw [stored_when_free d access w stored,Body.recordOrGet]
    refine checked fun _ _ => checked fun _ _ => ?_
    rw [fetched]
    simp only [stored]
    refine checked fun _ _ => ?_
    cases logicalScanRunId <;> rfl

end Stores

end SwapMonitor
