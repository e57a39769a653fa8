import SwapMonitor.Domain.EvidencePayload
import Mathlib.Data.List.Nodup

namespace SwapMonitor

inductive PositionRole where
  | rotationSource | protectedCore | normal | cashProxy
  deriving DecidableEq, Repr

inductive PositionStatus where
  | opened | closed
  deriving DecidableEq, Repr

inductive LogicalScanStatus where
  | running | completed
  deriving DecidableEq, Repr

inductive ScanAttemptStatus where
  | running | failed | degraded | succeeded
  deriving DecidableEq, Repr

inductive FinalizationDisposition where
  | applied | superseded
  deriving DecidableEq, Repr

inductive ScanAttemptRecoveryDecision where
  | resume | retry | finalize
  deriving DecidableEq, Repr

structure Position where
  positionId : UUID
  portfolioId : UUID
  instrument : UUID
  quantity : Quantity
  role : PositionRole
  status : PositionStatus
  openedAt : Instant
  closedAt : Option Instant
  positive : 0 < quantity.value.toRat
  history : match status,closedAt with
    | .opened,none => True
    | .closed,some closed => openedAt ≤ closed
    | _,_ => False

structure RotationPlan where
  rotationPlanId : UUID
  portfolioId : UUID
  candidateGroupIds : List UUID
  sourcePositionIds : List UUID
  protectedPositionIds : List UUID
  createdAt : Instant
  grouped : candidateGroupIds ≠ []
  groupsUnique : candidateGroupIds.Nodup
  sourcesUnique : sourcePositionIds.Nodup
  protectedUnique : protectedPositionIds.Nodup
  disjoint : ∀ id ∈ sourcePositionIds, id ∉ protectedPositionIds
  deriving DecidableEq

structure CandidateGroup where
  candidateGroupId : UUID
  userId : UUID
  instruments : List UUID
  createdAt : Instant
  instrumentsUnique : instruments.Nodup
  deriving DecidableEq

-- The clocks are those of the two datetimes, configuration_snapshot.created_at and occurred_at.
structure StrategyRun where
  strategyRunId : UUID
  rotationPlanId : UUID
  portfolioId : UUID
  configurationSnapshot : ConfigurationSnapshotRef
  marketDataSnapshotId : Text
  stateTransition : String
  outputs : Evidence
  occurredAt : Instant
  createdClock : Clock := {}
  occurredClock : Clock := {}

-- StrategyRun(...): the outputs are checked as they are given and kept frozen.
def StrategyRun.create (fields : StrategyRun) : Except PyError StrategyRun := do
  raiseIf fields.marketDataSnapshotId.blank .valueError "market_data_snapshot_id must not be blank"
  raiseIf (blank fields.stateTransition) .valueError "state_transition must not be blank"
  raiseIf (match fields.outputs with | .map _ => false | _ => true)
    .invalidStrategyRunEvidenceError "outputs must be a mapping"
  preflightEvidencePayload fields.outputs
  let frozenOutputs := freezeEvidence fields.outputs
  let _ ← measureEncodedEvidenceBytes frozenOutputs MAX_STRATEGY_RUN_OUTPUT_UTF8_BYTES
  pure {fields with outputs := frozenOutputs}

def StrategyRun.created (run : StrategyRun) : AwareDatetime := ⟨run.configurationSnapshot.createdAt,run.createdClock⟩

def StrategyRun.occurred (run : StrategyRun) : AwareDatetime := ⟨run.occurredAt,run.occurredClock⟩

-- == of the dataclass, with a given one of datetimes.
def StrategyRun.sameBy (datetimes : AwareDatetime → AwareDatetime → Bool) (a b : StrategyRun) : Bool :=
  a.strategyRunId == b.strategyRunId && a.rotationPlanId == b.rotationPlanId && a.portfolioId == b.portfolioId &&
    a.configurationSnapshot.snapshotId == b.configurationSnapshot.snapshotId &&
    a.configurationSnapshot.contentHash == b.configurationSnapshot.contentHash && datetimes a.created b.created &&
    a.marketDataSnapshotId == b.marketDataSnapshotId && a.stateTransition == b.stateTransition &&
    Evidence.sameBy datetimes a.outputs b.outputs && datetimes a.occurred b.occurred

def StrategyRun.same : StrategyRun → StrategyRun → Bool := StrategyRun.sameBy AwareDatetime.same

theorem StrategyRun.same_ids {a b : StrategyRun} (same : a.same b = true) :
    a.strategyRunId = b.strategyRunId ∧ a.portfolioId = b.portfolioId := by
  simp only [StrategyRun.same,StrategyRun.sameBy,Bool.and_eq_true,beq_iff_eq] at same
  obtain ⟨⟨⟨⟨⟨⟨⟨⟨⟨id,_⟩,portfolio⟩,_⟩,_⟩,_⟩,_⟩,_⟩,_⟩,_⟩ := same
  exact ⟨id,portfolio⟩

-- The identity format version is the one constant every constructor insists on.
structure LogicalScanRun where
  logicalScanRunId : UUID
  rotationPlanId : UUID
  portfolioId : UUID
  marketSessionDate : Date
  scanWindowStart : Instant
  scanInterval : String
  marketTimezone : String
  configurationSnapshotHash : Digest
  scanLockKey : Digest
  status : LogicalScanStatus
  createdAt : Instant
  completedAt : Option Instant
  finalStrategyRunId : Option UUID
  outcome : match status,completedAt,finalStrategyRunId with
    | .running,none,none => True
    | .completed,some completed,some _ => createdAt ≤ completed
    | _,_,_ => False

def LogicalScanRun.identity (scan : LogicalScanRun) : ScanIdentity :=
  ⟨scan.rotationPlanId,scan.marketSessionDate,scan.scanWindowStart,scan.scanInterval,
    scan.configurationSnapshotHash,scan.marketTimezone⟩

structure AttemptFields where
  scanAttemptId : UUID
  logicalScanRunId : UUID
  attemptNumber : Nat
  status : ScanAttemptStatus
  configurationSnapshotHash : Digest
  marketDataSnapshotId : Option Text
  marketDataContentHash : Option Digest
  triggerCorrelationId : String
  actorCorrelationId : String
  startedAt : Instant
  completedAt : Option Instant
  failureCode : Option String := none
  failureDetail : Option String := none
  recoveryOfAttemptId : Option UUID := none
  duplicateOfAttemptId : Option UUID := none
  finalStrategyRunId : Option UUID := none
  configurationSnapshotId : Option UUID := none
  configurationSnapshotCreatedAt : Option Instant := none
  finalStrategyKey : Option Digest := none
  finalStrategyIdentityFormatVersion : Option String := none
  finalizationDisposition : Option FinalizationDisposition := none
  deriving DecidableEq

-- _require_bounded_text
def unboundedText (value : String) (maximumLength : Nat) : Bool :=
  blank value || decide (maximumLength < value.length)

def AttemptFields.validateStatusEvidence (a : AttemptFields) : Except PyError Unit :=
  let hasMarketData := a.marketDataSnapshotId.isSome
  let hasFailure := a.failureCode.isSome || a.failureDetail.isSome
  if a.status = .running then do
    raiseIf (a.completedAt.isSome || hasMarketData || hasFailure || a.finalizationDisposition.isSome)
      .valueError "RUNNING attempts cannot have completed outcome evidence"
    raiseIf (a.duplicateOfAttemptId.isSome || a.finalStrategyRunId.isSome) .valueError
      "RUNNING attempts cannot have final or duplicate references"
  else do
    raiseIf a.completedAt.isNone .valueError "terminal scan attempts require completed_at"
    if a.status = .failed ∨ a.status = .degraded then do
      raiseIf (a.failureCode.isNone || a.failureDetail.isNone) .valueError
        "failure_code and failure_detail are required for failed evidence"
      raiseIf a.finalStrategyRunId.isSome .valueError
        "failed or degraded attempts cannot have a final strategy run"
      raiseIf a.duplicateOfAttemptId.isSome .valueError
        "failed or degraded attempts cannot be duplicate results"
      raiseIf a.finalizationDisposition.isSome .valueError
        "failed or degraded attempts cannot have finalization evidence"
      raiseIf (decide (a.status = .degraded) && !hasMarketData) .valueError
        "DEGRADED attempts require market_data evidence"
    else do
      raiseIf hasFailure .valueError "SUCCEEDED attempts cannot have failure evidence"
      if a.duplicateOfAttemptId.isSome then do
        raiseIf hasMarketData .valueError "duplicate successes cannot repeat market_data evidence"
        raiseIf a.finalStrategyRunId.isSome .valueError
          "duplicate successes cannot create a final strategy run"
        raiseIf a.finalizationDisposition.isSome .valueError
          "duplicate successes cannot have finalization evidence"
      else do
        raiseIf (!hasMarketData) .valueError "SUCCEEDED attempts require market_data evidence"
        raiseIf (a.finalizationDisposition.isSome &&
            (a.finalStrategyRunId.isNone || a.finalStrategyKey.isNone)) .valueError
          "finalization disposition requires final strategy run and key evidence"

def AttemptFields.postInit (a : AttemptFields) : Except PyError Unit := do
  raiseIf (decide (a.attemptNumber < 1)) .valueError "attempt_number must be positive"
  raiseIf (a.configurationSnapshotId.isNone != a.configurationSnapshotCreatedAt.isNone) .valueError
    "configuration_snapshot_id and configuration_snapshot_created_at must be supplied together"
  raiseIf (a.marketDataSnapshotId.any Text.blank) .valueError
    "market_data_snapshot_id must not be blank when supplied"
  raiseIf (a.marketDataSnapshotId.isNone != a.marketDataContentHash.isNone) .valueError
    "market_data_snapshot_id and market_data_content_hash must be supplied together"
  raiseIf (a.finalStrategyKey.isNone != a.finalStrategyIdentityFormatVersion.isNone) .valueError
    "final_strategy_key and final_strategy_identity_format_version must be supplied together"
  raiseIf (a.finalStrategyKey.isSome && a.finalStrategyIdentityFormatVersion.any
      fun version => decide (version = "") || decide (16 < version.length)) .valueError
    "final_strategy_identity_format_version must be non-blank"
  raiseIf (unboundedText a.triggerCorrelationId 256) .valueError
    "trigger_correlation_id must be non-blank and at most 256 characters"
  raiseIf (unboundedText a.actorCorrelationId 256) .valueError
    "actor_correlation_id must be non-blank and at most 256 characters"
  raiseIf (a.completedAt.any fun completed => decide (completed < a.startedAt)) .valueError
    "attempt completed_at cannot be before started_at"
  raiseIf (a.failureCode.any fun code => unboundedText code 64) .valueError
    "failure_code must be non-blank and at most 64 characters"
  raiseIf (a.failureDetail.any fun detail => unboundedText detail 1024) .valueError
    "failure_detail must be non-blank and at most 1024 characters"
  raiseIf (decide (a.recoveryOfAttemptId = some a.scanAttemptId)) .valueError
    "recovery_of_attempt_id cannot reference this attempt"
  raiseIf (decide (a.duplicateOfAttemptId = some a.scanAttemptId)) .valueError
    "duplicate_of_attempt_id cannot reference this attempt"
  a.validateStatusEvidence

-- An attempt that exists has passed its constructor.
structure ScanAttempt extends AttemptFields where
  accepted : toAttemptFields.postInit = .ok ()

def ScanAttempt.create (fields : AttemptFields) : Except PyError ScanAttempt :=
  match accepted : fields.postInit with
  | .ok () => .ok ⟨fields,accepted⟩
  | .error error => .error error

theorem create_fields {fields : AttemptFields} {attempt : ScanAttempt}
    (created : ScanAttempt.create fields = .ok attempt) : attempt.toAttemptFields = fields := by
  unfold ScanAttempt.create at created
  split at created
  · cases created; rfl
  · cases created

def AttemptFields.recoveryDecision (a : AttemptFields) : ScanAttemptRecoveryDecision :=
  match a.status with
  | .running => .resume
  | .failed | .degraded => .retry
  | .succeeded => .finalize

def AttemptFields.configurationSnapshot (a : AttemptFields) : Option ConfigurationSnapshotRef :=
  match a.configurationSnapshotId,a.configurationSnapshotCreatedAt with
  | some snapshotId,some createdAt => some ⟨snapshotId,a.configurationSnapshotHash,createdAt⟩
  | _,_ => none

-- A plan with one source position, and one with none.
def samplePlan : RotationPlan where
  rotationPlanId := 1
  portfolioId := 2
  candidateGroupIds := [3]
  sourcePositionIds := [4]
  protectedPositionIds := []
  createdAt := 0
  grouped := by decide
  groupsUnique := by decide
  sourcesUnique := by decide
  protectedUnique := by decide
  disjoint := by decide

def restingPlan : RotationPlan where
  rotationPlanId := 1
  portfolioId := 2
  candidateGroupIds := [3]
  sourcePositionIds := []
  protectedPositionIds := []
  createdAt := 0
  grouped := by decide
  groupsUnique := by decide
  sourcesUnique := by decide
  protectedUnique := by decide
  disjoint := by decide

end SwapMonitor
