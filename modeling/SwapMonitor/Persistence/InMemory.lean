import SwapMonitor.Application.FinalizationEvidence
import Mathlib.Logic.Function.Basic
import Mathlib.Data.List.Sort

namespace SwapMonitor
open Function (update)

structure LockLease where
  leaseId : UUID
  key : Digest
  deriving DecidableEq, Repr

-- Of a persisted configuration the coordinator reads its reference and its target.
structure PersistedConfigurationSnapshot where
  reference : ConfigurationSnapshotRef
  targetOwnership : Ownership
  targetReferenceId : UUID
  deriving DecidableEq, Repr

-- The dictionaries of the in-memory adapters that a scan writes, and the next fresh uuid4.
structure Stores where
  records : UUID → Option RecommendationStateRecord
  scansById : UUID → Option LogicalScanRun
  scansByKey : Digest → Option LogicalScanRun
  attemptsByScan : UUID → List ScanAttempt
  runsByKey : UUID × Digest → Option StrategyRun
  runsById : UUID → Option StrategyRun
  logicalScanByKey : UUID × Digest → Option UUID
  runsByLogicalScan : UUID → Option StrategyRun
  intentsByKey : Digest → Option ChildIntent
  intentKeysByStrategyRun : UUID → List Digest
  leases : Digest → Option LockLease
  leasePortfolios : UUID → Option UUID
  leaseKeys : UUID → Option Digest
  nextUuid : UUID

-- Fresh adapters, but for the recommendation records an earlier process may have left.
def Stores.initial (seed : UUID → Option RecommendationStateRecord) (nextUuid : UUID) : Stores where
  records := seed
  scansById := fun _ => none
  scansByKey := fun _ => none
  attemptsByScan := fun _ => []
  runsByKey := fun _ => none
  runsById := fun _ => none
  logicalScanByKey := fun _ => none
  runsByLogicalScan := fun _ => none
  intentsByKey := fun _ => none
  intentKeysByStrategyRun := fun _ => []
  leases := fun _ => none
  leasePortfolios := fun _ => none
  leaseKeys := fun _ => none
  nextUuid := nextUuid

namespace Stores
variable (d : Deployment) (access : AccessContext) (w : Stores)

section RecommendationStates

def idleRecord (plan : RotationPlan) (createdAt : Instant) : RecommendationStateRecord where
  rotationPlanId := plan.rotationPlanId
  portfolioId := plan.portfolioId
  state := .idle
  remainingStagesHalted := false
  revision := 0
  updatedAt := createdAt
  accepted := rfl

def getOrCreateState (plan : RotationPlan) (createdAt : Instant) :
    Except PyError (RecommendationStateRecord × Stores) := do
  let _ ← requirePortfolioMutation d plan.portfolioId access
  match w.records plan.rotationPlanId with
  | some existing => do
    raiseIf (decide (existing.portfolioId ≠ plan.portfolioId)) .valueError
      "recommendation state plan portfolio does not match"
    pure (existing,w)
  | none =>
    let record := idleRecord plan createdAt
    pure (record,{w with records := update w.records plan.rotationPlanId (some record)})

-- The fields record_transition writes.
def transitioned (plan : RotationPlan) (previous stored : RecommendationStateRecord)
    (next : RecommendationState × Bool) (changedAt : Instant) (fence : Option (UUID × Digest)) : RecordFields where
  rotationPlanId := plan.rotationPlanId
  portfolioId := plan.portfolioId
  state := next.1
  remainingStagesHalted := next.2
  revision := previous.revision + 1
  updatedAt := changedAt
  finalizationStrategyRunId := fence.map (·.1)
  finalizationStrategyKey := fence.map (·.2)
  legacyFinalizationClaimStatus := stored.legacyFinalizationClaimStatus
  legacyFinalizationStrategyRunId := stored.legacyFinalizationStrategyRunId
  legacyFinalizationStrategyKey := stored.legacyFinalizationStrategyKey

def recordTransition (plan : RotationPlan) (previous : RecommendationStateRecord)
    (next : RecommendationState × Bool) (changedAt : Instant) (fence : Option (UUID × Digest)) :
    Except PyError (RecommendationStateRecord × Stores) := do
  let _ ← requirePortfolioMutation d plan.portfolioId access
  match w.records plan.rotationPlanId with
  | none => raise .notFoundForActor "recommendation state was not found for actor"
  | some stored => do
    raiseIf (decide (previous ≠ stored)) .idempotencyConflictError
      "recommendation state changed before transition could persist"
    raiseIf (decide (previous.portfolioId ≠ plan.portfolioId)) .valueError
      "recommendation state plan portfolio does not match"
    let updated ← RecommendationStateRecord.create (transitioned plan previous stored next changedAt fence)
    pure (updated,{w with records := update w.records plan.rotationPlanId (some updated)})

end RecommendationStates

section LogicalScans

def matchesRequest (scan : LogicalScanRun) (request : ScanLockRequest) : Bool :=
  scan.rotationPlanId == request.plan.rotationPlanId && scan.portfolioId == request.plan.portfolioId &&
    decide (scan.identity = request.identity) && scan.scanLockKey == request.key d

def newScan (request : ScanLockRequest) (createdAt : Instant) : LogicalScanRun where
  logicalScanRunId := w.nextUuid
  rotationPlanId := request.plan.rotationPlanId
  portfolioId := request.plan.portfolioId
  marketSessionDate := request.identity.marketSessionDate
  scanWindowStart := request.identity.scanWindowStart
  scanInterval := request.identity.scanInterval
  marketTimezone := request.identity.marketTimezone
  configurationSnapshotHash := request.identity.configurationSnapshotHash
  scanLockKey := request.key d
  status := .running
  createdAt := createdAt
  completedAt := none
  finalStrategyRunId := none
  outcome := trivial

def getByLockKey (request : ScanLockRequest) : Except PyError (Option LogicalScanRun) := do
  let _ ← requirePortfolioRead d request.plan.portfolioId access
  match w.scansByKey (request.key d) with
  | none => pure none
  | some scan => do
    raiseIf (!matchesRequest d scan request) .valueError
      "scan lock key resolves to different scan identity components"
    pure (some scan)

def createOrRecover (request : ScanLockRequest) (createdAt : Instant) :
    Except PyError (LogicalScanRun × Stores) := do
  let _ ← requirePortfolioMutation d request.plan.portfolioId access
  match w.scansByKey (request.key d) with
  | some existing => do
    raiseIf (!matchesRequest d existing request) .valueError
      "scan lock key resolves to different scan identity components"
    pure (existing,w)
  | none =>
    let scan := newScan d w request createdAt
    pure (scan,{w with
      scansById := update w.scansById scan.logicalScanRunId (some scan)
      scansByKey := update w.scansByKey scan.scanLockKey (some scan)
      attemptsByScan := update w.attemptsByScan scan.logicalScanRunId []
      nextUuid := w.nextUuid + 1})

def getScan (logicalScanRunId : UUID) : Except PyError LogicalScanRun :=
  match w.scansById logicalScanRunId with
  | none => raise .notFoundForActor "logical scan was not found for actor"
  | some scan => do
    let _ ← requirePortfolioRead d scan.portfolioId access
    pure scan

def listAttempts (logicalScanRunId : UUID) : Except PyError (List ScanAttempt) := do
  let _ ← getScan d access w logicalScanRunId
  pure ((w.attemptsByScan logicalScanRunId).insertionSort fun a b => a.attemptNumber ≤ b.attemptNumber)

-- max(attempts, key=attempt_number), the first of equals
def latestAttempt : List ScanAttempt → Option ScanAttempt
  | [] => none
  | a :: rest =>
    match latestAttempt rest with
    | some b => if a.attemptNumber < b.attemptNumber then some b else some a
    | none => some a

def validateScanAttemptAppend (existing : List ScanAttempt) (candidate : ScanAttempt) : Except PyError Unit :=
  match latestAttempt existing with
  | none => do
    raiseIf (decide (candidate.attemptNumber ≠ 1)) .valueError "the first scan attempt must be numbered one"
    raiseIf candidate.recoveryOfAttemptId.isSome .valueError
      "the first scan attempt cannot recover another attempt"
  | some previous => do
    raiseIf (decide (candidate.attemptNumber ≠ previous.attemptNumber + 1)) .valueError
      "scan attempt numbers must be sequential"
    if existing.any (fun a => a.status == .succeeded) then
      raiseIf (!(candidate.finalStrategyRunId.isSome ||
          candidate.duplicateOfAttemptId.isSome && candidate.recoveryOfAttemptId.isNone)) .valueError
        "succeeded scan attempts cannot accept new work"
    else do
      raiseIf (decide (candidate.recoveryOfAttemptId ≠ some previous.scanAttemptId)) .valueError
        "scan attempt recovery must reference the previous attempt"
      raiseIf (decide (previous.recoveryDecision ∉ [.resume,.retry])) .valueError
        "previous scan attempt is not recoverable"

def validateDuplicateReference (attempt : ScanAttempt) (existing : List ScanAttempt) : Except PyError Unit :=
  match attempt.duplicateOfAttemptId with
  | none => pure ()
  | some id =>
    match existing.find? (·.scanAttemptId == id) with
    | none => raise .valueError "scan attempt duplicate reference must exist in the same logical scan"
    | some original =>
      raiseIf (decide (original.status ≠ .succeeded)) .valueError
        "scan attempt duplicate reference must target a succeeded attempt"

def validateFinalReference (scan : LogicalScanRun) (attempt : ScanAttempt) : Except PyError Unit :=
  match attempt.finalStrategyRunId with
  | none => pure ()
  | some id => do
    raiseIf (decide ((w.runsByLogicalScan scan.logicalScanRunId).map (·.strategyRunId) ≠ some id)) .valueError
      "final strategy run reference must be the scan's actual final run"
    raiseIf (decide (scan.status = .completed ∧ scan.finalStrategyRunId ≠ some id)) .valueError
      "final strategy run reference must be the scan's actual final run"

-- _validate_attempt_references
def validateAttemptReferences (scan : LogicalScanRun) (attempt : ScanAttempt) (existing : List ScanAttempt) :
    Except PyError Unit := do
  raiseIf (attempt.recoveryOfAttemptId.any fun id => !existing.any (·.scanAttemptId == id)) .valueError
    "scan attempt recovery reference must exist in the same logical scan"
  validateDuplicateReference attempt existing
  validateFinalReference w scan attempt

def recordAttempt (attempt : ScanAttempt) : Except PyError Stores := do
  let scan ← getScan d access w attempt.logicalScanRunId
  let _ ← requirePortfolioMutation d scan.portfolioId access
  let attempts := w.attemptsByScan scan.logicalScanRunId
  raiseIf (attempts.any fun stored => stored.attemptNumber == attempt.attemptNumber) .valueError
    "logical scan attempt_number must be unique"
  validateAttemptReferences w scan attempt attempts
  raiseIf (decide (scan.status = .completed) && attempt.finalStrategyRunId.isNone)
    .logicalScanAlreadyCompletedError "completed logical scans can record only final strategy run evidence"
  validateScanAttemptAppend attempts attempt
  pure {w with attemptsByScan := update w.attemptsByScan scan.logicalScanRunId (attempts ++ [attempt])}

-- replace(scan, status=COMPLETED, ...) runs the constructor again.
def completeScan (scan : LogicalScanRun) (strategyRunId : UUID) (completedAt : Instant) :
    Except PyError LogicalScanRun :=
  if ordered : scan.createdAt ≤ completedAt then
    .ok {scan with
      status := .completed,completedAt := some completedAt,finalStrategyRunId := some strategyRunId,
      outcome := ordered}
  else raise .valueError "logical scan completed_at cannot be before created_at"

def attachFinalStrategyRun (logicalScanRunId : UUID) (plan : RotationPlan) (strategyRunId : UUID)
    (completedAt : Instant) : Except PyError (LogicalScanRun × Stores) := do
  let scan ← getScan d access w logicalScanRunId
  let _ ← requirePortfolioMutation d scan.portfolioId access
  raiseIf (decide (scan.rotationPlanId ≠ plan.rotationPlanId ∨ scan.portfolioId ≠ plan.portfolioId)) .valueError
    "logical scan must belong to the supplied rotation plan"
  raiseIf (decide (scan.status = .completed)) .logicalScanAlreadyCompletedError
    "logical scan already has a final strategy run"
  raiseIf (decide ((w.runsByLogicalScan logicalScanRunId).map (·.strategyRunId) ≠ some strategyRunId)) .valueError
    "logical scan final strategy run was not persisted"
  raiseIf (!(w.attemptsByScan logicalScanRunId).any fun attempt =>
      attempt.status == .succeeded && attempt.finalStrategyRunId == some strategyRunId) .valueError
    "logical scan requires durable final success evidence before completion"
  let completed ← completeScan scan strategyRunId completedAt
  pure (completed,{w with
    scansById := update w.scansById logicalScanRunId (some completed)
    scansByKey := update w.scansByKey completed.scanLockKey (some completed)})

end LogicalScans

section StrategyRuns

def recordOrGetRun (plan : RotationPlan) (run : StrategyRun) (idempotencyKey : Digest)
    (logicalScanRunId : UUID) : Except PyError (StrategyRun × Stores) := do
  let _ ← requirePortfolioMutation d plan.portfolioId access
  raiseIf (decide (run.rotationPlanId ≠ plan.rotationPlanId ∨ run.portfolioId ≠ plan.portfolioId)) .valueError
    "strategy run must belong to the supplied rotation plan"
  let key := (plan.rotationPlanId,idempotencyKey)
  match w.runsByKey key with
  | some existing => do
    raiseIf (!existing.same run || decide (w.logicalScanByKey key ≠ some logicalScanRunId))
      .idempotencyConflictError "idempotency key already records a different strategy run"
    pure (existing,w)
  | none => do
    let scan ← getScan d access w logicalScanRunId
    raiseIf (decide (scan.rotationPlanId ≠ plan.rotationPlanId ∨ scan.portfolioId ≠ plan.portfolioId)) .valueError
      "logical scan must belong to the supplied rotation plan"
    raiseIf (w.runsByLogicalScan logicalScanRunId).isSome .logicalScanAlreadyCompletedError
      "logical scan already has a final strategy run"
    pure (run,{w with
      runsByKey := update w.runsByKey key (some run)
      runsById := update w.runsById run.strategyRunId (some run)
      logicalScanByKey := update w.logicalScanByKey key (some logicalScanRunId)
      runsByLogicalScan := update w.runsByLogicalScan logicalScanRunId (some run)})

def getForLogicalScan (logicalScanRunId : UUID) : Except PyError (Option StrategyRun) := do
  let scan ← getScan d access w logicalScanRunId
  let _ ← requirePortfolioRead d scan.portfolioId access
  pure (w.runsByLogicalScan logicalScanRunId)

end StrategyRuns

section ChildIntents

def recordOrGetIntent (intent : ChildIntent) : Except PyError (ChildIntent × Stores) := do
  let _ ← requirePortfolioMutation d intent.portfolioId access
  match w.runsById intent.strategyRunId with
  | none => raise .valueError "child intent references a missing strategy run"
  | some strategyRun => do
    raiseIf (decide (strategyRun.rotationPlanId ≠ intent.rotationPlanId ∨
        strategyRun.portfolioId ≠ intent.portfolioId)) .valueError
      "child intent strategy run does not match its plan scope"
    raiseIf (decide (finalStrategyKeyFromRun strategyRun ≠ some (.digest intent.finalStrategyKey))) .valueError
      "child intent final strategy key does not match strategy run"
    match w.intentsByKey intent.intentKey with
    | some existing => do
      let _ ← requirePortfolioRead d existing.portfolioId access
      raiseIf (!sameLogicalChildIntent existing intent) .idempotencyConflictError
        "child intent key already records different evidence"
      pure (existing,w)
    | none => pure (intent,{w with
        intentsByKey := update w.intentsByKey intent.intentKey (some intent)
        intentKeysByStrategyRun := update w.intentKeysByStrategyRun intent.strategyRunId
          (w.intentKeysByStrategyRun intent.strategyRunId ++ [intent.intentKey])})

def requireIntentsRead : List ChildIntent → Except PyError Unit
  | [] => pure ()
  | intent :: rest => do
    let _ ← requirePortfolioRead d intent.portfolioId access
    requireIntentsRead rest

def listIntents (strategyRunId : UUID) : Except PyError (List ChildIntent) := do
  let intents := (w.intentKeysByStrategyRun strategyRunId).filterMap w.intentsByKey
  requireIntentsRead d access intents
  pure intents

end ChildIntents

section Locks

def acquireScanLock (request : ScanLockRequest) : Except PyError (Option LockLease × Stores) := do
  let _ ← requirePortfolioMutation d request.plan.portfolioId access
  if (w.leases (request.key d)).isSome then pure (none,w)
  else
    let lease : LockLease := ⟨w.nextUuid,request.key d⟩
    pure (some lease,{w with
      leases := update w.leases lease.key (some lease)
      leasePortfolios := update w.leasePortfolios lease.leaseId (some request.plan.portfolioId)
      leaseKeys := update w.leaseKeys lease.leaseId (some lease.key)
      nextUuid := w.nextUuid + 1})

def release (lease : LockLease) : Except PyError Stores :=
  match w.leasePortfolios lease.leaseId,w.leaseKeys lease.leaseId with
  | some portfolioId,some storedKey => do
    let _ ← requirePortfolioMutation d portfolioId access
    raiseIf (decide (lease.key ≠ storedKey)) .valueError "lease key does not match the acquired lock"
    pure {w with
      leases := update w.leases storedKey none
      leasePortfolios := update w.leasePortfolios lease.leaseId none
      leaseKeys := update w.leaseKeys lease.leaseId none}
  | _,_ => pure w

end Locks
end Stores

-- The position store as it stands at one read.
def getPosition (d : Deployment) (access : AccessContext) (positions : UUID → Option Position)
    (positionId : UUID) : Except PyError Position :=
  match positions positionId with
  | none => raise .notFoundForActor "position was not found for actor"
  | some position => do
    let _ ← requirePortfolioRead d position.portfolioId access
    pure position

end SwapMonitor
