import SwapMonitor.Relational.Tables
import SwapMonitor.Persistence.Repositories
import SwapMonitor.Persistence.Rows
import SwapMonitor.Persistence.StrategyRuns

namespace SwapMonitor
open Relational

-- What the sessions of a process share: how their database keeps timestamps, and whether it enforces foreign keys.
structure Engine where
  deployment : Deployment
  dialect : Dialect
  foreignKeys : Bool

-- A row of rotation_plans; what a plan refers to is in tables of its own.
structure RotationPlanModel where
  rotationPlanId : UUID
  portfolioId : UUID
  createdAt : ColumnDatetime
  deriving DecidableEq

-- A configuration snapshot stands as its mapper restores it.
structure Database where
  rotationPlans : List RotationPlanModel
  configurationSnapshots : List PersistedConfigurationSnapshot
  recommendationStates : List RecommendationStateModel
  logicalScanRuns : List LogicalScanRunModel
  scanAttempts : List ScanAttemptModel
  strategyRuns : List StrategyRunModel
  childIntents : List ChildIntentModel

def integrityError (constraint : String) : PyError := ⟨.operationFailed "IntegrityError",constraint⟩

-- A foreign key, where it is enforced; one of several columns refers to nothing while one of them is null.
def Engine.references (e : Engine) (name : String) (known : Bool) : String × Bool := (name,!e.foreignKeys || known)

-- with session.begin_nested(): session.add(model); session.flush()
def flush (checks : List (String × Bool)) (indexes : List (Index Row)) (row : Row) (rows : List Row) : Except PyError (List Row) :=
  match insert checks indexes row rows with
  | .ok rows => .ok rows
  | .error constraint => .error (integrityError constraint)

namespace Database

section Rows
variable (db : Database)

def plan (rotationPlanId : UUID) : Option RotationPlanModel := lookup (·.rotationPlanId) rotationPlanId db.rotationPlans
def state (rotationPlanId : UUID) : Option RecommendationStateModel := lookup (·.rotationPlanId) rotationPlanId db.recommendationStates
def scan (scanId : UUID) : Option LogicalScanRunModel := lookup (·.logicalScanRunId) scanId db.logicalScanRuns
def scanOfKey (key : Digest) : Option LogicalScanRunModel := lookup (·.scanLockKey) key db.logicalScanRuns
def attemptsOf (scanId : UUID) : List ScanAttemptModel := db.scanAttempts.filter (·.logicalScanRunId == scanId)
def run (strategyRunId : UUID) : Option StrategyRunModel := lookup (·.strategyRunId) strategyRunId db.strategyRuns
def runOfScan (scanId : UUID) : Option StrategyRunModel := lookup (·.logicalScanRunId) (some scanId) db.strategyRuns
def runOfKey (rotationPlanId : UUID) (key : String) : Option StrategyRunModel :=
  lookup (fun run => (run.rotationPlanId,run.idempotencyKey)) (rotationPlanId,key) db.strategyRuns
def intent (intentKey : Digest) : Option ChildIntentModel := lookup (·.intentKey) intentKey db.childIntents
def snapshot (snapshotId : UUID) : Option PersistedConfigurationSnapshot :=
  lookup (·.reference.snapshotId) snapshotId db.configurationSnapshots

def knowsRun (strategyRunId : Option UUID) : Bool := strategyRunId.all fun id => (db.run id).isSome

end Rows

section Constraints

def stateIndexes : List (Index RecommendationStateModel) :=
  [index "recommendation_states_pkey" everywhere (·.rotationPlanId),
    index "uq_recommendation_state_legacy_finalization_strategy_run" (·.legacyFinalizationStrategyRunId.isSome)
      (·.legacyFinalizationStrategyRunId)]

def scanIndexes : List (Index LogicalScanRunModel) :=
  [index "logical_scan_runs_pkey" everywhere (·.logicalScanRunId),
    index "logical_scan_runs_scan_lock_key_key" everywhere (·.scanLockKey)]

def attemptIndexes : List (Index ScanAttemptModel) :=
  [index "scan_attempts_pkey" everywhere (·.scanAttemptId),
    index "uq_scan_attempt_number" everywhere fun attempt => (attempt.logicalScanRunId,attempt.attemptNumber),
    index "uq_scan_attempt_same_scan_identity" everywhere fun attempt => (attempt.logicalScanRunId,attempt.scanAttemptId)]

def runIndexes : List (Index StrategyRunModel) :=
  [index "strategy_runs_pkey" everywhere (·.strategyRunId),
    index "uq_strategy_run_key" everywhere fun run => (run.rotationPlanId,run.idempotencyKey),
    index "uq_strategy_run_logical_scan" (·.logicalScanRunId.isSome) (·.logicalScanRunId),
    index "uq_strategy_run_logical_scan_identity" (·.logicalScanRunId.isSome) fun run => (run.logicalScanRunId,run.strategyRunId)]

def intentIndexes : List (Index ChildIntentModel) :=
  [index "child_intents_pkey" everywhere (·.childIntentId),
    index "uq_child_intent_key" everywhere (·.intentKey),
    index "uq_child_intent_run_purpose" everywhere fun intent => (intent.strategyRunId,intent.purpose)]

variable (e : Engine) (db : Database)

def knowsPlan (rotationPlanId : UUID) : Bool := (db.plan rotationPlanId).isSome
def knowsPortfolio (portfolioId : UUID) : Bool := (e.deployment.portfolioOwners portfolioId).isSome
def knowsAttempt (scanId : UUID) (attemptId : Option UUID) : Bool :=
  attemptId.all fun id => (db.attemptsOf scanId).any (·.scanAttemptId == id)

def stateReferences (row : RecommendationStateModel) : List (String × Bool) :=
  [e.references "recommendation_states_rotation_plan_id_fkey" (db.knowsPlan row.rotationPlanId),
    e.references "recommendation_states_portfolio_id_fkey" (knowsPortfolio e row.portfolioId),
    e.references "recommendation_states_finalization_strategy_run_id_fkey" (db.knowsRun row.finalizationStrategyRunId),
    e.references "recommendation_states_legacy_finalization_strategy_run_id_fkey"
      (db.knowsRun row.legacyFinalizationStrategyRunId)]

def scanReferences (row : LogicalScanRunModel) : List (String × Bool) :=
  [e.references "logical_scan_runs_rotation_plan_id_fkey" (db.knowsPlan row.rotationPlanId)]

def attemptReferences (row : ScanAttemptModel) : List (String × Bool) :=
  [e.references "scan_attempts_logical_scan_run_id_fkey" (db.scan row.logicalScanRunId).isSome,
    e.references "scan_attempts_configuration_snapshot_id_fkey"
      (row.configurationSnapshotId.all fun id => (db.snapshot id).isSome),
    e.references "fk_scan_attempt_recovery_same_scan" (db.knowsAttempt row.logicalScanRunId row.recoveryOfAttemptId),
    e.references "fk_scan_attempt_duplicate_same_scan" (db.knowsAttempt row.logicalScanRunId row.duplicateOfAttemptId),
    e.references "fk_scan_attempt_final_strategy_same_scan" (row.finalStrategyRunId.all fun id =>
      (db.runOfScan row.logicalScanRunId).any (·.strategyRunId == id))]

def runReferences (row : StrategyRunModel) : List (String × Bool) :=
  [e.references "strategy_runs_rotation_plan_id_fkey" (db.knowsPlan row.rotationPlanId),
    e.references "strategy_runs_portfolio_id_fkey" (knowsPortfolio e row.portfolioId),
    e.references "strategy_runs_logical_scan_run_id_fkey" (row.logicalScanRunId.all fun id => (db.scan id).isSome),
    e.references "strategy_runs_configuration_snapshot_id_fkey" (db.snapshot row.configurationSnapshotId).isSome]

def intentReferences (row : ChildIntentModel) : List (String × Bool) :=
  [e.references "child_intents_rotation_plan_id_fkey" (db.knowsPlan row.rotationPlanId),
    e.references "child_intents_portfolio_id_fkey" (knowsPortfolio e row.portfolioId),
    e.references "child_intents_strategy_run_id_fkey" (db.run row.strategyRunId).isSome]

end Constraints

-- What a session has read is an earlier state of the tables, and what it writes goes to the current one.
variable (e : Engine) (access : AccessContext) (seen current : Database)

section RecommendationStates

-- A row of the plan, whether it was found at first or only after the insertion failed.
def storedState (plan : RotationPlan) (model : RecommendationStateModel) : Except PyError RecommendationStateRecord := do
  raiseIf (decide (model.portfolioId ≠ plan.portfolioId)) .valueError "recommendation state plan portfolio does not match"
  recommendationStateFromModel model

def getOrCreateState (plan : RotationPlan) (createdAt : Instant) : Except PyError (RecommendationStateRecord × Database) := do
  let _ ← requirePortfolioMutation e.deployment plan.portfolioId access
  match seen.state plan.rotationPlanId with
  | some model => do
    let stored ← storedState plan model
    pure (stored,current)
  | none =>
    let record := Stores.idleRecord plan createdAt
    let model := recommendationStateToModel e.dialect record
    match flush (stateReferences e current model ++ model.checks) stateIndexes model current.recommendationStates with
    | .ok rows => pure (record,{current with recommendationStates := rows})
    | .error error =>
      match current.state plan.rotationPlanId with
      | none => .error error
      | some existing => do
        let stored ← storedState plan existing
        pure (stored,current)

def getState (rotationPlanId : UUID) : Except PyError RecommendationStateRecord :=
  match seen.state rotationPlanId with
  | none => raise .notFoundForActor "recommendation state was not found for actor"
  | some model => do
    let _ ← requirePortfolioRead e.deployment model.portfolioId access
    recommendationStateFromModel model

-- The WHERE clause of the update.
def unchanged (plan : RotationPlan) (previous : RecommendationStateRecord) (row : RecommendationStateModel) : Bool :=
  row.rotationPlanId == plan.rotationPlanId && (row.portfolioId == previous.portfolioId && row.revision == previous.revision &&
    row.state == previous.state.value && row.remainingStagesHalted == previous.remainingStagesHalted)

-- Its SET clause.
def written (updated row : RecommendationStateModel) : RecommendationStateModel :=
  {updated with rotationPlanId := row.rotationPlanId,portfolioId := row.portfolioId}

def transition (plan : RotationPlan) (previous : RecommendationStateRecord) (next : RecommendationState × Bool)
    (changedAt : Instant) (finalizationStrategyRunId : Option UUID) (finalizationStrategyKey : Option Digest) :
    Except PyError (RecommendationStateRecord × Database) := do
  let _ ← requirePortfolioMutation e.deployment plan.portfolioId access
  match seen.state plan.rotationPlanId with
  | none => raise .notFoundForActor "recommendation state was not found for actor"
  | some model => do
    let stored ← recommendationStateFromModel model
    raiseIf (decide (previous ≠ stored)) .idempotencyConflictError
      "recommendation state changed before transition could persist"
    raiseIf (decide (stored.portfolioId ≠ plan.portfolioId)) .valueError
      "recommendation state plan portfolio does not match"
    let updated ← RecommendationStateRecord.create
      {Stores.transitioned plan stored stored next changedAt none with finalizationStrategyRunId,finalizationStrategyKey}
    let row := recommendationStateToModel e.dialect updated
    raiseIf (decide (current.recommendationStates.countP (unchanged plan previous) ≠ 1)) .idempotencyConflictError
      "recommendation state changed before transition could persist"
    match (stateReferences e current row ++ row.checks).find? (!·.2) with
    | some constraint => .error (integrityError constraint.1)
    | none => pure (updated,{current with
        recommendationStates := update (unchanged plan previous) (written row) current.recommendationStates})

end RecommendationStates

section LogicalScans

def planPortfolioId (db : Database) (rotationPlanId : UUID) : Except PyError UUID :=
  match db.plan rotationPlanId with
  | some plan => .ok plan.portfolioId
  | none => raise .valueError "logical scan references a missing rotation plan"

-- _to_domain: the final run is the one the relation holds.
def scanToDomain (db : Database) (model : LogicalScanRunModel) (portfolioId : UUID) : Except PyError LogicalScanRun :=
  logicalScanFromModel e.deployment model portfolioId
    (if model.status = "COMPLETED" then (db.runOfScan model.logicalScanRunId).map (·.strategyRunId) else none)

-- _for_request
def scanForRequest (db : Database) (model : LogicalScanRunModel) (request : ScanLockRequest) : Except PyError LogicalScanRun := do
  let portfolioId ← db.planPortfolioId model.rotationPlanId
  raiseIf (!(model.rotationPlanId == request.plan.rotationPlanId && portfolioId == request.plan.portfolioId &&
      model.marketSessionDate == request.identity.marketSessionDate &&
      model.scanWindowStart.restored == request.identity.scanWindowStart &&
      model.scanInterval == request.identity.scanInterval && model.marketTimezone == request.identity.marketTimezone &&
      model.configurationSnapshotHash == request.identity.configurationSnapshotHash &&
      model.scanLockKey == request.key e.deployment)) .valueError
    "scan lock key resolves to different scan identity components"
  let _ ← requirePortfolioRead e.deployment portfolioId access
  scanToDomain e db model portfolioId

def newScan (fresh : UUID) (request : ScanLockRequest) (createdAt : Instant) : LogicalScanRun where
  logicalScanRunId := fresh
  rotationPlanId := request.plan.rotationPlanId
  portfolioId := request.plan.portfolioId
  marketSessionDate := request.identity.marketSessionDate
  scanWindowStart := request.identity.scanWindowStart
  scanInterval := request.identity.scanInterval
  marketTimezone := request.identity.marketTimezone
  configurationSnapshotHash := request.identity.configurationSnapshotHash
  scanLockKey := request.key e.deployment
  status := .running
  createdAt := createdAt
  completedAt := none
  finalStrategyRunId := none
  outcome := trivial

def createOrRecover (fresh : UUID) (request : ScanLockRequest) (createdAt : Instant) :
    Except PyError (LogicalScanRun × Database) := do
  let _ ← requirePortfolioMutation e.deployment request.plan.portfolioId access
  match seen.scanOfKey (request.key e.deployment) with
  | some existing => do
    let scan ← scanForRequest e access seen existing request
    pure (scan,current)
  | none =>
    let scan := newScan e fresh request createdAt
    let model := logicalScanToModel e.dialect scan
    match insert (scanReferences e current model ++ model.checks) scanIndexes model current.logicalScanRuns with
    | .ok rows => pure (scan,{current with logicalScanRuns := rows})
    | .error constraint =>
      -- _is_scan_lock_conflict
      if constraint = "logical_scan_runs_scan_lock_key_key" then
        match current.scanOfKey (request.key e.deployment) with
        | none => .error (integrityError constraint)
        | some existing => do
          let scan ← scanForRequest e access current existing request
          pure (scan,current)
      else .error (integrityError constraint)

def getByLockKey (request : ScanLockRequest) : Except PyError (Option LogicalScanRun) := do
  let _ ← requirePortfolioRead e.deployment request.plan.portfolioId access
  match seen.scanOfKey (request.key e.deployment) with
  | none => pure none
  | some model => do
    let scan ← scanForRequest e access seen model request
    pure (some scan)

def getScan (scanId : UUID) : Except PyError LogicalScanRun :=
  match seen.scan scanId with
  | none => raise .notFoundForActor "logical scan was not found for actor"
  | some model => do
    let portfolioId ← seen.planPortfolioId model.rotationPlanId
    let _ ← requirePortfolioRead e.deployment portfolioId access
    scanToDomain e seen model portfolioId

def listAttempts (scanId : UUID) : Except PyError (List ScanAttempt) := do
  let _ ← getScan e access seen scanId
  ((seen.attemptsOf scanId).insertionSort fun a b => a.attemptNumber ≤ b.attemptNumber).mapM scanAttemptFromModel

-- The attempt of the same scan that a new one refers to.
def attemptOf (scanId attemptId : UUID) : Option ScanAttemptModel := (seen.attemptsOf scanId).find? (·.scanAttemptId == attemptId)

-- The run of a scan, when it is the one a new attempt names.
def finalRunOf (scanId strategyRunId : UUID) : Option StrategyRunModel :=
  seen.strategyRuns.find? fun run => run.logicalScanRunId == some scanId && run.strategyRunId == strategyRunId

def validateDuplicateReference (attempt : ScanAttempt) : Except PyError Unit :=
  match attempt.duplicateOfAttemptId with
  | none => pure ()
  | some id =>
    match seen.attemptOf attempt.logicalScanRunId id with
    | none => raise .valueError "scan attempt duplicate reference must exist in the same logical scan"
    | some duplicate => raiseIf (duplicate.status != "SUCCEEDED") .valueError
        "scan attempt duplicate reference must target a succeeded attempt"

def validateFinalReference (scan : LogicalScanRun) (attempt : ScanAttempt) : Except PyError Unit :=
  match attempt.finalStrategyRunId with
  | none => pure ()
  | some id => do
    raiseIf (seen.finalRunOf attempt.logicalScanRunId id).isNone .valueError
      "final strategy run reference must be the scan's actual final run"
    raiseIf (decide (scan.status = .completed ∧ scan.finalStrategyRunId ≠ some id)) .valueError
      "final strategy run reference must be the scan's actual final run"

-- _validate_attempt_references
def validateAttemptReferences (scan : LogicalScanRun) (attempt : ScanAttempt) : Except PyError Unit := do
  raiseIf (attempt.recoveryOfAttemptId.any fun id => (seen.attemptOf attempt.logicalScanRunId id).isNone) .valueError
    "scan attempt recovery reference must exist in the same logical scan"
  seen.validateDuplicateReference attempt
  seen.validateFinalReference scan attempt

def recordAttempt (attempt : ScanAttempt) : Except PyError Database := do
  let scan ← getScan e access seen attempt.logicalScanRunId
  let _ ← requirePortfolioMutation e.deployment scan.portfolioId access
  let existing ← listAttempts e access seen attempt.logicalScanRunId
  seen.validateAttemptReferences scan attempt
  raiseIf (decide (scan.status = .completed) && attempt.finalStrategyRunId.isNone)
    .logicalScanAlreadyCompletedError "completed logical scans can record only final strategy run evidence"
  Stores.validateScanAttemptAppend existing attempt
  let model := scanAttemptToModel e.dialect attempt
  let rows ← flush (attemptReferences e current model ++ model.checks) attemptIndexes model current.scanAttempts
  pure {current with scanAttempts := rows}

-- model.status = COMPLETED; model.completed_at = completed_at
def completedRow (completedAt : ColumnDatetime) (row : LogicalScanRunModel) : LogicalScanRunModel :=
  {row with status := "COMPLETED",completedAt := some completedAt}

-- What must hold before the row is written.
def requireFinalEvidence (model : LogicalScanRunModel) (plan : RotationPlan) (strategyRunId : UUID) : Except PyError UUID := do
  let portfolioId ← seen.planPortfolioId model.rotationPlanId
  let _ ← requirePortfolioMutation e.deployment portfolioId access
  raiseIf (decide (model.rotationPlanId ≠ plan.rotationPlanId ∨ portfolioId ≠ plan.portfolioId)) .valueError
    "logical scan must belong to the supplied rotation plan"
  raiseIf (model.status == "COMPLETED") .logicalScanAlreadyCompletedError "logical scan already has a final strategy run"
  raiseIf (seen.finalRunOf model.logicalScanRunId strategyRunId).isNone .valueError
    "logical scan final strategy run was not persisted"
  raiseIf (!(seen.attemptsOf model.logicalScanRunId).any fun attempt =>
      attempt.status == "SUCCEEDED" && attempt.finalStrategyRunId == some strategyRunId) .valueError
    "logical scan requires durable final success evidence before completion"
  pure portfolioId

-- The row is flushed before the constructor of the result may raise; the session's own copy keeps the datetime it was given.
def attachFinalStrategyRun (scanId : UUID) (plan : RotationPlan) (strategyRunId : UUID) (completedAt : AwareDatetime) :
    Except PyError LogicalScanRun × Database :=
  match seen.scan scanId with
  | none => (raise .notFoundForActor "logical scan was not found for actor",current)
  | some model =>
    match requireFinalEvidence e access seen model plan strategyRunId with
    | .error error => (.error error,current)
    | .ok portfolioId =>
      (scanToDomain e seen (completedRow (.aware completedAt) model) portfolioId,{current with
        logicalScanRuns := update (·.logicalScanRunId == scanId) (completedRow (e.dialect.column completedAt))
          current.logicalScanRuns})

end LogicalScans

section StrategyRuns

-- _validate_configuration_snapshot_reference
def validateConfigurationSnapshotReference (run : StrategyRun) (plan : RotationPlan) (planOwnerId : UUID) : Except PyError Unit :=
  match seen.snapshot run.configurationSnapshot.snapshotId with
  | none => raise .valueError "configuration snapshot was not found"
  | some persisted => do
    let declared := run.configurationSnapshot
    -- the persisted datetime was restored in UTC
    raiseIf (decide (persisted.reference.snapshotId ≠ declared.snapshotId) ||
        decide (persisted.reference.contentHash ≠ declared.contentHash) ||
        !(⟨persisted.reference.createdAt,{}⟩ : AwareDatetime).same run.created) .valueError
      "strategy run configuration snapshot does not match persisted canonical snapshot"
    raiseIf (!match persisted.targetOwnership with
      | .system => true
      | .user owner => owner == planOwnerId
      | .portfolio portfolioId => portfolioId == plan.portfolioId) .valueError
      "configuration snapshot target ownership does not authorize plan"

-- _exact_strategy_run_retry
def exactStrategyRunRetry (stored : StrategyRunModel) (candidate : StrategyRun) (logicalScanRunId : Option UUID) :
    Except PyError StrategyRun := do
  let existing ← strategyRunFromModel stored
  requireExactStrategyRunRetry existing candidate stored.logicalScanRunId logicalScanRunId
  pure existing

-- The checks on the logical scan a new run is to be linked to.
def requireRunningScan (plan : RotationPlan) : Option UUID → Except PyError Unit
  | none => pure ()
  | some scanId => do
    let scan ← getScan e access seen scanId
    raiseIf (decide (scan.rotationPlanId ≠ plan.rotationPlanId ∨ scan.portfolioId ≠ plan.portfolioId)) .valueError
      "logical scan must belong to the supplied rotation plan"
    raiseIf (decide (scan.status = .completed)) .logicalScanAlreadyCompletedError
      "logical scan already has a final strategy run"

def recordOrGetRun (plan : RotationPlan) (run : StrategyRun) (idempotencyKey : Digest) (logicalScanRunId : Option UUID) :
    Except PyError (StrategyRun × Database) := do
  let planOwnerId ← requirePortfolioMutation e.deployment plan.portfolioId access
  raiseIf (decide (run.rotationPlanId ≠ plan.rotationPlanId ∨ run.portfolioId ≠ plan.portfolioId)) .valueError
    "strategy run must belong to the supplied rotation plan"
  seen.validateConfigurationSnapshotReference run plan planOwnerId
  match seen.runOfKey plan.rotationPlanId (digestText idempotencyKey) with
  | some stored => do
    let existing ← exactStrategyRunRetry stored run logicalScanRunId
    pure (existing,current)
  | none => do
    requireRunningScan e access seen plan logicalScanRunId
    let model ← strategyRunToModel run (digestText idempotencyKey) logicalScanRunId
    match insert (runReferences e current model) runIndexes model current.strategyRuns with
    | .ok rows => pure (run,{current with strategyRuns := rows})
    | .error constraint =>
      -- _is_strategy_run_idempotency_conflict, then _is_logical_scan_final_conflict
      if constraint = "uq_strategy_run_key" then
        match current.runOfKey plan.rotationPlanId (digestText idempotencyKey) with
        | none => .error (integrityError constraint)
        | some stored => do
          let existing ← exactStrategyRunRetry stored run logicalScanRunId
          pure (existing,current)
      else if constraint ∈ ["uq_strategy_run_logical_scan","uq_strategy_run_logical_scan_identity"] then
        raise .logicalScanAlreadyCompletedError "logical scan already has a final strategy run"
      else .error (integrityError constraint)

def getForLogicalScan (scanId : UUID) : Except PyError (Option StrategyRun) := do
  let scan ← getScan e access seen scanId
  match seen.runOfScan scan.logicalScanRunId with
  | none => pure none
  | some model => do
    raiseIf (decide (model.rotationPlanId ≠ scan.rotationPlanId ∨ model.portfolioId ≠ scan.portfolioId)) .valueError
      "logical scan final strategy run does not match its plan scope"
    let run ← strategyRunFromModel model
    pure (some run)

end StrategyRuns

section ChildIntents

-- A stored intent, whether it was found at first or only after the insertion failed.
def exactIntentRetry (model : ChildIntentModel) (candidate : ChildIntent) : Except PyError ChildIntent := do
  let restored ← childIntentFromModel e.deployment model
  let _ ← requirePortfolioRead e.deployment restored.portfolioId access
  raiseIf (!sameLogicalChildIntent restored candidate) .idempotencyConflictError
    "child intent key already records different evidence"
  pure restored

def recordOrGetIntent (intent : ChildIntent) : Except PyError (ChildIntent × Database) := do
  let _ ← requirePortfolioMutation e.deployment intent.portfolioId access
  match seen.run intent.strategyRunId with
  | none => raise .valueError "child intent references a missing strategy run"
  | some strategyRun => do
    raiseIf (decide (strategyRun.rotationPlanId ≠ intent.rotationPlanId ∨ strategyRun.portfolioId ≠ intent.portfolioId))
      .valueError "child intent strategy run does not match its plan scope"
    -- _final_strategy_key_from_strategy_run_model
    let restored ← strategyRunFromModel strategyRun
    raiseIf (decide (finalStrategyKeyFromRun restored ≠ some (.digest intent.finalStrategyKey))) .valueError
      "child intent final strategy key does not match strategy run"
    match seen.intent intent.intentKey with
    | some existing => do
      let stored ← exactIntentRetry e access existing intent
      pure (stored,current)
    | none =>
      let model := childIntentToModel e.dialect intent
      match flush (intentReferences e current model) intentIndexes model current.childIntents with
      | .ok rows => pure (intent,{current with childIntents := rows})
      | .error error =>
        match current.intent intent.intentKey with
        | none => .error error
        | some existing => do
          let stored ← exactIntentRetry e access existing intent
          pure (stored,current)

def getIntent (intentKey : Digest) : Except PyError ChildIntent :=
  match seen.intent intentKey with
  | none => raise .notFoundForActor "child intent was not found for actor"
  | some model => do
    let _ ← requirePortfolioRead e.deployment model.portfolioId access
    childIntentFromModel e.deployment model

def listIntents (strategyRunId : UUID) : Except PyError (List ChildIntent) := do
  let models := (seen.childIntents.filter (·.strategyRunId == strategyRunId)).insertionSort fun a b => a.intentKey ≤ b.intentKey
  let intents ← models.mapM (childIntentFromModel e.deployment)
  Stores.requireIntentsRead e.deployment access intents
  pure intents

end ChildIntents
end Database
end SwapMonitor
