import SwapMonitor.Exceptions.Checks
import SwapMonitor.Persistence.Columns

namespace SwapMonitor
open Clocks Exceptions

section RecommendationStates

-- A row of recommendation_states.
structure RecommendationStateModel where
  rotationPlanId : UUID
  portfolioId : UUID
  state : String
  remainingStagesHalted : Bool
  finalizationStrategyRunId : Option UUID
  finalizationStrategyKey : Option Digest
  legacyFinalizationClaimStatus : String
  legacyFinalizationStrategyRunId : Option UUID
  legacyFinalizationStrategyKey : Option Digest
  revision : Nat
  updatedAt : ColumnDatetime
  deriving DecidableEq

-- revision >= 0 holds of every number of the model.
def RecommendationStateModel.checks (row : RecommendationStateModel) : List (String × Bool) :=
  [("ck_recommendation_state_finalization_fence",
      row.finalizationStrategyRunId.isNone && row.finalizationStrategyKey.isNone ||
        row.finalizationStrategyRunId.isSome && row.finalizationStrategyKey.isSome),
    ("ck_recommendation_state_legacy_claim_status",
      ["NOT_APPLICABLE","CLAIMED","NO_CLAIM","AMBIGUOUS"].contains row.legacyFinalizationClaimStatus),
    ("ck_recommendation_state_legacy_claim_evidence",
      row.legacyFinalizationClaimStatus == "CLAIMED" && row.legacyFinalizationStrategyRunId.isSome &&
          row.legacyFinalizationStrategyKey.isSome ||
        row.legacyFinalizationClaimStatus != "CLAIMED" && row.legacyFinalizationStrategyRunId.isNone &&
          row.legacyFinalizationStrategyKey.isNone),
    ("ck_recommendation_state_value",["IDLE","WATCHING","NEAR_TRIGGER","ACTION_PENDING",
      "ACTION_NOTIFIED","DATA_DEGRADED","INVALIDATED","PARTIALLY_EXECUTED","WAITING_CONFIRMATION","STAGE_COMPLETED",
      "ROTATION_COMPLETED","PAUSED"].contains row.state)]

def recommendationStateToModel (dialect : Dialect) (record : RecommendationStateRecord) : RecommendationStateModel where
  rotationPlanId := record.rotationPlanId
  portfolioId := record.portfolioId
  state := record.state.value
  remainingStagesHalted := record.remainingStagesHalted
  finalizationStrategyRunId := record.finalizationStrategyRunId
  finalizationStrategyKey := record.finalizationStrategyKey
  legacyFinalizationClaimStatus := StrEnum.value record.legacyFinalizationClaimStatus
  legacyFinalizationStrategyRunId := record.legacyFinalizationStrategyRunId
  legacyFinalizationStrategyKey := record.legacyFinalizationStrategyKey
  revision := record.revision
  updatedAt := dialect.persisted record.updatedAt

def recommendationStateFromModel (model : RecommendationStateModel) : Except PyError RecommendationStateRecord := do
  let state ← StrEnum.ofValue model.state
  let legacyFinalizationClaimStatus ← StrEnum.ofValue model.legacyFinalizationClaimStatus
  RecommendationStateRecord.create {
    rotationPlanId := model.rotationPlanId
    portfolioId := model.portfolioId
    state
    remainingStagesHalted := model.remainingStagesHalted
    revision := model.revision
    updatedAt := model.updatedAt.restored
    finalizationStrategyRunId := model.finalizationStrategyRunId
    finalizationStrategyKey := model.finalizationStrategyKey
    legacyFinalizationClaimStatus
    legacyFinalizationStrategyRunId := model.legacyFinalizationStrategyRunId
    legacyFinalizationStrategyKey := model.legacyFinalizationStrategyKey}

theorem record_recreated (record : RecommendationStateRecord) :
    RecommendationStateRecord.create record.toRecordFields = .ok record := by
  unfold RecommendationStateRecord.create
  split
  · rfl
  · rename_i error raised
    cases record.accepted.symm.trans raised

theorem record_restored (dialect : Dialect) (record : RecommendationStateRecord) :
    recommendationStateFromModel (recommendationStateToModel dialect record) = .ok record := by
  have state : StrEnum.ofValue record.state.value = .ok record.state := StrEnum.value_read record.state
  simp only [recommendationStateFromModel,recommendationStateToModel,state,StrEnum.value_read,persisted_restored,Bind.bind,Except.bind]
  exact record_recreated record

theorem record_checked (dialect : Dialect) (record : RecommendationStateRecord) :
    ∀ check ∈ (recommendationStateToModel dialect record).checks, check.2 = true := by
  have accepted := record.accepted
  simp only [RecordFields.postInit,bind_ok,raiseIf_ok,exists_const,bne_eq_false_iff_eq,Bool.or_eq_false_iff] at accepted
  obtain ⟨fence,legacy,claimed⟩ := accepted
  simp only [RecommendationStateModel.checks,recommendationStateToModel,List.forall_mem_cons,List.not_mem_nil,
    false_implies,implies_true,and_true]
  refine ⟨?_,?_,?_,?_⟩
  · cases run : record.finalizationStrategyRunId <;> cases key : record.finalizationStrategyKey <;> simp_all
  · cases record.legacyFinalizationClaimStatus <;> rfl
  · cases status : record.legacyFinalizationClaimStatus <;> cases run : record.legacyFinalizationStrategyRunId <;>
      cases key : record.legacyFinalizationStrategyKey <;> simp_all [StrEnum.value]
  · cases record.state <;> rfl

end RecommendationStates

section LogicalScans

-- A row of logical_scan_runs, which holds neither the portfolio nor the final run.
structure LogicalScanRunModel where
  logicalScanRunId : UUID
  rotationPlanId : UUID
  marketSessionDate : Date
  scanWindowStart : ColumnDatetime
  scanInterval : String
  marketTimezone : String
  configurationSnapshotHash : Digest
  scanLockKey : Digest
  status : String
  completedAt : Option ColumnDatetime
  createdAt : ColumnDatetime
  deriving DecidableEq

def LogicalScanRunModel.checks (row : LogicalScanRunModel) : List (String × Bool) :=
  [("ck_logical_scan_run_status",["RUNNING","COMPLETED"].contains row.status),
    ("ck_logical_scan_run_completion",row.status == "RUNNING" && row.completedAt.isNone ||
      row.status == "COMPLETED" && row.completedAt.isSome)]

-- The constructor arguments of a logical scan.
structure ScanFields where
  logicalScanRunId : UUID
  rotationPlanId : UUID
  portfolioId : UUID
  marketSessionDate : Date
  scanWindowStart : Instant
  scanInterval : String
  marketTimezone : String
  configurationSnapshotHash : Digest
  scanLockKey : Digest
  status : LogicalScanStatus
  createdAt : Instant
  completedAt : Option Instant
  finalStrategyRunId : Option UUID

def ScanFields.identity (scan : ScanFields) : ScanIdentity :=
  ⟨scan.rotationPlanId,scan.marketSessionDate,scan.scanWindowStart,scan.scanInterval,
    scan.configurationSnapshotHash,scan.marketTimezone⟩

def ScanFields.validateOutcome (scan : ScanFields) : Except PyError Unit :=
  match scan.status with
  | .running => raiseIf (scan.completedAt.isSome || scan.finalStrategyRunId.isSome) .valueError
      "RUNNING logical scans cannot have final result evidence"
  | .completed => do
    raiseIf (scan.completedAt.isNone || scan.finalStrategyRunId.isNone) .valueError
      "COMPLETED logical scans require final result evidence"
    raiseIf (scan.completedAt.any fun completed => decide (completed < scan.createdAt)) .valueError
      "logical scan completed_at cannot be before created_at"

def ScanFields.postInit (d : Deployment) (scan : ScanFields) : Except PyError Unit := do
  raiseIf (blank scan.scanInterval) .valueError "logical scan identity fields must not be blank"
  scan.identity.postInit d
  raiseIf (decide (scan.scanLockKey ≠ scan.identity.key d)) .valueError "scan_lock_key must match the scan identity"
  scan.validateOutcome

theorem scan_outcome {scan : ScanFields} : scan.validateOutcome = .ok () ↔
    match scan.status,scan.completedAt,scan.finalStrategyRunId with
    | .running,none,none => True
    | .completed,some completed,some _ => scan.createdAt ≤ completed
    | _,_,_ => False := by
  unfold ScanFields.validateOutcome
  cases scan.status <;> cases scan.completedAt <;> cases scan.finalStrategyRunId <;> simp [bind_ok,raiseIf_ok]

theorem scan_accepted {d : Deployment} {scan : ScanFields} (accepted : scan.postInit d = .ok ()) : scan.validateOutcome = .ok () := by
  simp only [ScanFields.postInit,bind_ok] at accepted
  obtain ⟨_,_,_,_,_,_,outcome⟩ := accepted
  exact outcome

def ScanFields.scan (scan : ScanFields) (outcome : scan.validateOutcome = .ok ()) : LogicalScanRun where
  logicalScanRunId := scan.logicalScanRunId
  rotationPlanId := scan.rotationPlanId
  portfolioId := scan.portfolioId
  marketSessionDate := scan.marketSessionDate
  scanWindowStart := scan.scanWindowStart
  scanInterval := scan.scanInterval
  marketTimezone := scan.marketTimezone
  configurationSnapshotHash := scan.configurationSnapshotHash
  scanLockKey := scan.scanLockKey
  status := scan.status
  createdAt := scan.createdAt
  completedAt := scan.completedAt
  finalStrategyRunId := scan.finalStrategyRunId
  outcome := scan_outcome.mp outcome

-- LogicalScanRun(...)
def LogicalScanRun.create (d : Deployment) : ScanFields → Except PyError LogicalScanRun :=
  build (ScanFields.postInit d) fun scan accepted => scan.scan (scan_accepted accepted)

def LogicalScanRun.fields (scan : LogicalScanRun) : ScanFields where
  logicalScanRunId := scan.logicalScanRunId
  rotationPlanId := scan.rotationPlanId
  portfolioId := scan.portfolioId
  marketSessionDate := scan.marketSessionDate
  scanWindowStart := scan.scanWindowStart
  scanInterval := scan.scanInterval
  marketTimezone := scan.marketTimezone
  configurationSnapshotHash := scan.configurationSnapshotHash
  scanLockKey := scan.scanLockKey
  status := scan.status
  createdAt := scan.createdAt
  completedAt := scan.completedAt
  finalStrategyRunId := scan.finalStrategyRunId

def LogicalScanRun.Constructed (d : Deployment) (scan : LogicalScanRun) : Prop := scan.fields.postInit d = .ok ()

def logicalScanToModel (dialect : Dialect) (scan : LogicalScanRun) : LogicalScanRunModel where
  logicalScanRunId := scan.logicalScanRunId
  rotationPlanId := scan.rotationPlanId
  marketSessionDate := scan.marketSessionDate
  scanWindowStart := dialect.persisted scan.scanWindowStart
  scanInterval := scan.scanInterval
  marketTimezone := scan.marketTimezone
  configurationSnapshotHash := scan.configurationSnapshotHash
  scanLockKey := scan.scanLockKey
  status := StrEnum.value scan.status
  completedAt := scan.completedAt.map dialect.persisted
  createdAt := dialect.persisted scan.createdAt

def logicalScanFromModel (d : Deployment) (model : LogicalScanRunModel) (portfolioId : UUID) (finalStrategyRunId : Option UUID) :
    Except PyError LogicalScanRun := do
  let status ← StrEnum.ofValue model.status
  -- the one column that may hold what a caller gave
  let completedAt ← model.completedAt.mapM restoreDatetime
  LogicalScanRun.create d {
    logicalScanRunId := model.logicalScanRunId
    rotationPlanId := model.rotationPlanId
    portfolioId
    marketSessionDate := model.marketSessionDate
    scanWindowStart := model.scanWindowStart.restored
    scanInterval := model.scanInterval
    marketTimezone := model.marketTimezone
    configurationSnapshotHash := model.configurationSnapshotHash
    scanLockKey := model.scanLockKey
    status
    createdAt := model.createdAt.restored
    completedAt := completedAt.map (·.instant)
    finalStrategyRunId}

theorem scan_recreated {d : Deployment} {scan : LogicalScanRun} (constructed : scan.Constructed d) :
    LogicalScanRun.create d scan.fields = .ok scan := build_accepted constructed

theorem columns_restored (dialect : Dialect) (value : Option Instant) :
    (value.map dialect.persisted).map ColumnDatetime.restored = value := by
  cases value with
  | none => rfl
  | some value => simp

theorem scan_restored {d : Deployment} {scan : LogicalScanRun} (dialect : Dialect) (constructed : scan.Constructed d)
    (shown : ∀ completedAt, scan.completedAt = some completedAt → Shown completedAt) :
    logicalScanFromModel d (logicalScanToModel dialect scan) scan.portfolioId scan.finalStrategyRunId = .ok scan := by
  have read : (scan.completedAt.map dialect.persisted).mapM restoreDatetime = .ok (scan.completedAt.map fun at_time => ⟨at_time,{}⟩) := by
    cases completed : scan.completedAt with
    | none => rfl
    | some completedAt =>
      have restored := restore_ok.mpr ⟨persisted_readable dialect (shown completedAt completed),rfl⟩
      rw [persisted_restored] at restored
      simp [restored,Functor.map,Except.map]
  simp only [logicalScanFromModel,logicalScanToModel,StrEnum.value_read,persisted_restored,read,Bind.bind,Except.bind]
  rw [Option.map_map,show ((·.instant) ∘ fun at_time => (⟨at_time,{}⟩ : AwareDatetime)) = id from rfl,Option.map_id_fun,id]
  exact scan_recreated constructed

theorem scan_checked (dialect : Dialect) (scan : LogicalScanRun) : ∀ check ∈ (logicalScanToModel dialect scan).checks, check.2 = true := by
  have outcome := scan.outcome
  simp only [LogicalScanRunModel.checks,logicalScanToModel,List.forall_mem_cons,List.not_mem_nil,false_implies,implies_true,and_true]
  cases status : scan.status <;> cases completed : scan.completedAt <;> cases final : scan.finalStrategyRunId <;>
    simp_all [StrEnum.value]

end LogicalScans

section ScanAttempts

-- A row of scan_attempts.
structure ScanAttemptModel where
  scanAttemptId : UUID
  logicalScanRunId : UUID
  attemptNumber : Nat
  status : String
  configurationSnapshotHash : Digest
  configurationSnapshotId : Option UUID
  configurationSnapshotCreatedAt : Option ColumnDatetime
  marketDataSnapshotId : Option Text
  marketDataContentHash : Option Digest
  finalStrategyKey : Option Digest
  finalStrategyIdentityFormatVersion : Option String
  triggerCorrelationId : String
  actorCorrelationId : String
  startedAt : ColumnDatetime
  completedAt : Option ColumnDatetime
  failureCode : Option String
  failureDetail : Option String
  recoveryOfAttemptId : Option UUID
  duplicateOfAttemptId : Option UUID
  finalStrategyRunId : Option UUID
  finalizationDisposition : Option String
  deriving DecidableEq

-- length(value) > 0 AND length(value) <= bound
def bounded (value : String) (bound : Nat) : Bool := decide (0 < value.length) && decide (value.length ≤ bound)

def ScanAttemptModel.checks (row : ScanAttemptModel) : List (String × Bool) :=
  [("ck_scan_attempt_number_positive",decide (0 < row.attemptNumber)),
    ("ck_scan_attempt_status",["RUNNING","FAILED","DEGRADED","SUCCEEDED"].contains row.status),
    ("ck_scan_attempt_completion",row.status == "RUNNING" && row.completedAt.isNone ||
      ["FAILED","DEGRADED","SUCCEEDED"].contains row.status && row.completedAt.isSome),
    ("ck_scan_attempt_failure_evidence",
      ["FAILED","DEGRADED"].contains row.status && row.failureCode.isSome && row.failureDetail.isSome ||
        ["RUNNING","SUCCEEDED"].contains row.status && row.failureCode.isNone && row.failureDetail.isNone),
    ("ck_scan_attempt_evidence_bounds",bounded row.triggerCorrelationId 256 && bounded row.actorCorrelationId 256 &&
      row.failureCode.all (fun code => decide (code.length ≤ 64)) &&
      row.failureDetail.all fun detail => decide (detail.length ≤ 1024)),
    ("ck_scan_attempt_finalization_disposition",
      row.finalizationDisposition.all fun disposition => ["APPLIED","SUPERSEDED"].contains disposition),
    ("ck_scan_attempt_finalization_evidence",row.finalizationDisposition.isNone ||
      row.status == "SUCCEEDED" && row.finalStrategyRunId.isSome && row.finalStrategyKey.isSome)]

def scanAttemptToModel (dialect : Dialect) (attempt : ScanAttempt) : ScanAttemptModel where
  scanAttemptId := attempt.scanAttemptId
  logicalScanRunId := attempt.logicalScanRunId
  attemptNumber := attempt.attemptNumber
  status := StrEnum.value attempt.status
  configurationSnapshotHash := attempt.configurationSnapshotHash
  configurationSnapshotId := attempt.configurationSnapshotId
  configurationSnapshotCreatedAt := attempt.configurationSnapshotCreatedAt.map dialect.persisted
  marketDataSnapshotId := attempt.marketDataSnapshotId
  marketDataContentHash := attempt.marketDataContentHash
  finalStrategyKey := attempt.finalStrategyKey
  finalStrategyIdentityFormatVersion := attempt.finalStrategyIdentityFormatVersion
  triggerCorrelationId := attempt.triggerCorrelationId
  actorCorrelationId := attempt.actorCorrelationId
  startedAt := dialect.persisted attempt.startedAt
  completedAt := attempt.completedAt.map dialect.persisted
  failureCode := attempt.failureCode
  failureDetail := attempt.failureDetail
  recoveryOfAttemptId := attempt.recoveryOfAttemptId
  duplicateOfAttemptId := attempt.duplicateOfAttemptId
  finalStrategyRunId := attempt.finalStrategyRunId
  finalizationDisposition := attempt.finalizationDisposition.map StrEnum.value

def scanAttemptFromModel (model : ScanAttemptModel) : Except PyError ScanAttempt := do
  let status ← StrEnum.ofValue model.status
  let finalizationDisposition ← StrEnum.ofColumn model.finalizationDisposition
  ScanAttempt.create {
    scanAttemptId := model.scanAttemptId
    logicalScanRunId := model.logicalScanRunId
    attemptNumber := model.attemptNumber
    status
    configurationSnapshotHash := model.configurationSnapshotHash
    marketDataSnapshotId := model.marketDataSnapshotId
    marketDataContentHash := model.marketDataContentHash
    triggerCorrelationId := model.triggerCorrelationId
    actorCorrelationId := model.actorCorrelationId
    startedAt := model.startedAt.restored
    completedAt := model.completedAt.map ColumnDatetime.restored
    failureCode := model.failureCode
    failureDetail := model.failureDetail
    recoveryOfAttemptId := model.recoveryOfAttemptId
    duplicateOfAttemptId := model.duplicateOfAttemptId
    finalStrategyRunId := model.finalStrategyRunId
    configurationSnapshotId := model.configurationSnapshotId
    configurationSnapshotCreatedAt := model.configurationSnapshotCreatedAt.map ColumnDatetime.restored
    finalStrategyKey := model.finalStrategyKey
    finalStrategyIdentityFormatVersion := model.finalStrategyIdentityFormatVersion
    finalizationDisposition}

theorem attempt_recreated (attempt : ScanAttempt) : ScanAttempt.create attempt.toAttemptFields = .ok attempt := by
  unfold ScanAttempt.create
  split
  · rfl
  · rename_i error raised
    cases attempt.accepted.symm.trans raised

theorem attempt_restored (dialect : Dialect) (attempt : ScanAttempt) :
    scanAttemptFromModel (scanAttemptToModel dialect attempt) = .ok attempt := by
  simp only [scanAttemptFromModel,scanAttemptToModel,StrEnum.value_read,StrEnum.column_read,persisted_restored,columns_restored,
    Bind.bind,Except.bind]
  exact attempt_recreated attempt

theorem bounded_text {value : String} {bound : Nat} (accepted : unboundedText value bound = false) : bounded value bound = true := by
  simp only [unboundedText,Bool.or_eq_false_iff,decide_eq_false_iff_not,not_lt] at accepted
  obtain ⟨text,short⟩ := accepted
  have some_text : value.length ≠ 0 := by
    intro empty
    rw [String.length_eq_zero_iff.mp empty] at text
    cases text
  simp only [bounded,Bool.and_eq_true,decide_eq_true_eq]
  exact ⟨Nat.pos_of_ne_zero some_text,short⟩

theorem attempt_checked (dialect : Dialect) (attempt : ScanAttempt) :
    ∀ check ∈ (scanAttemptToModel dialect attempt).checks, check.2 = true := by
  have accepted := attempt.accepted
  simp only [AttemptFields.postInit,bind_ok,raiseIf_ok,exists_const] at accepted
  obtain ⟨number,-,-,-,-,-,trigger,actor,-,code,detail,-,-,evidence⟩ := accepted
  have short : ∀ (text : Option String) (bound : Nat), (text.any fun t => unboundedText t bound) = false →
      (text.all fun t => decide (t.length ≤ bound)) = true := by
    intro text bound short
    cases text with
    | none => rfl
    | some text =>
      have both := bounded_text short
      simp only [bounded,Bool.and_eq_true,decide_eq_true_eq] at both
      simpa using both.2
  simp only [ScanAttemptModel.checks,List.forall_mem_cons,List.not_mem_nil,false_implies,implies_true,and_true,decide_eq_true_eq]
  simp only [scanAttemptToModel,bounded_text trigger,bounded_text actor,short _ _ code,short _ _ detail,Bool.and_true,true_and]
  have disposed : ((attempt.finalizationDisposition.map StrEnum.value).all fun disposition =>
      ["APPLIED","SUPERSEDED"].contains disposition) = true := by
    cases attempt.finalizationDisposition with
    | none => rfl
    | some disposition => cases disposition <;> rfl
  have positive : 0 < attempt.attemptNumber := by
    simp only [decide_eq_false_iff_not,not_lt] at number
    exact number
  rw [disposed]
  refine ⟨positive,?_⟩
  cases status : attempt.status <;>
    simp only [AttemptFields.validateStatusEvidence,status,reduceCtorEq,if_true,if_false,or_false,or_true,either_ok,bind_ok,raiseIf_ok,
      exists_const,Bool.or_eq_false_iff] at evidence
  · simp_all [StrEnum.value]
  · simp_all [StrEnum.value]
  · simp_all [StrEnum.value]
  · rcases evidence.2.2 with duplicate | final
    · simp_all [StrEnum.value]
    · -- a disposition that is given brings its run and its key along
      cases given : attempt.finalizationDisposition <;> simp_all [StrEnum.value]

end ScanAttempts

section ChildIntents

-- A row of child_intents.
structure ChildIntentModel where
  childIntentId : UUID
  rotationPlanId : UUID
  portfolioId : UUID
  strategyRunId : UUID
  finalStrategyKey : Digest
  finalStrategyIdentityFormatVersion : String
  purpose : String
  intentKey : Digest
  createdAt : ColumnDatetime
  deriving DecidableEq

def ChildIntent.postInit (d : Deployment) (intent : ChildIntent) : Except PyError Unit := do
  raiseIf (decide (intent.finalStrategyIdentityFormatVersion ≠ FINAL_STRATEGY_IDENTITY_FORMAT_VERSION)) .valueError
    "child intent uses an unsupported final strategy identity format"
  raiseIf (decide (intent.intentKey ≠ childIntentKey d intent.finalStrategyKey intent.purpose)) .valueError
    "intent_key must match the final strategy key and purpose"

-- ChildIntent(...)
def ChildIntent.create (d : Deployment) (intent : ChildIntent) : Except PyError ChildIntent := do
  intent.postInit d
  pure intent

def ChildIntent.Constructed (d : Deployment) (intent : ChildIntent) : Prop := intent.postInit d = .ok ()

def childIntentToModel (dialect : Dialect) (intent : ChildIntent) : ChildIntentModel where
  childIntentId := intent.childIntentId
  rotationPlanId := intent.rotationPlanId
  portfolioId := intent.portfolioId
  strategyRunId := intent.strategyRunId
  finalStrategyKey := intent.finalStrategyKey
  finalStrategyIdentityFormatVersion := intent.finalStrategyIdentityFormatVersion
  purpose := StrEnum.value intent.purpose
  intentKey := intent.intentKey
  createdAt := dialect.persisted intent.createdAt

def childIntentFromModel (d : Deployment) (model : ChildIntentModel) : Except PyError ChildIntent := do
  let purpose ← StrEnum.ofValue model.purpose
  ChildIntent.create d {
    childIntentId := model.childIntentId
    rotationPlanId := model.rotationPlanId
    portfolioId := model.portfolioId
    strategyRunId := model.strategyRunId
    finalStrategyKey := model.finalStrategyKey
    finalStrategyIdentityFormatVersion := model.finalStrategyIdentityFormatVersion
    purpose
    intentKey := model.intentKey
    createdAt := model.createdAt.restored}

theorem intent_recreated {d : Deployment} {intent : ChildIntent} (constructed : intent.Constructed d) :
    ChildIntent.create d intent = .ok intent := by
  rw [ChildIntent.create,show intent.postInit d = .ok () from constructed]
  rfl

theorem intent_restored {d : Deployment} {intent : ChildIntent} (dialect : Dialect) (constructed : intent.Constructed d) :
    childIntentFromModel d (childIntentToModel dialect intent) = .ok intent := by
  simp only [childIntentFromModel,childIntentToModel,StrEnum.value_read,persisted_restored,Bind.bind,Except.bind]
  exact intent_recreated constructed

end ChildIntents

end SwapMonitor
