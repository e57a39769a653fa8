import SwapMonitor.Application.Session

namespace SwapMonitor
open Interleaving

inductive AuditValue where
  | none
  | text (value : Text)
  | uuid (value : UUID)
  | flag (value : Bool)
  | number (value : Nat)
  | trigger (value : TriggerSource)
  | disposition (value : RunDisposition)
  | status (value : ScanAttemptStatus)
  | statuses (value : List ScanAttemptStatus)
  | scanComponents (value : ScanIdentity)
  | finalComponents (value : FinalStrategyIdentity)

abbrev Audit := List (String × AuditValue)

-- audit[key] = value
def Audit.set (audit : Audit) (key : String) (value : AuditValue) : Audit :=
  if audit.any (·.1 == key) then audit.map fun entry => if entry.1 == key then (key,value) else entry
  else audit ++ [(key,value)]

structure ExistingResultReference where
  scanLockKey : Digest
  logicalScanRunId : Option UUID

structure RunCoordinatorResult where
  disposition : RunDisposition
  strategyRun : Option StrategyRun
  scanLockKey : Digest
  logicalScanRunId : Option UUID
  finalStrategyKey : Option Text
  audit : Audit
  existingResult : Option ExistingResultReference := none

-- "actor:" followed by the actor's id
def actorCorrelation (access : AccessContext) : String := "actor:" ++ uuidText access.actorUserId

namespace Session
variable (s : Session)

def listAttempts (scan : LogicalScanRun) : Run (List ScanAttempt) :=
  s.read fun w => w.listAttempts s.d s.access scan.logicalScanRunId

def getForLogicalScan (scan : LogicalScanRun) : Run (Option StrategyRun) :=
  s.read fun w => w.getForLogicalScan s.d s.access scan.logicalScanRunId

def recordAttempt (build : Input → Stores → AttemptFields) : Run ScanAttempt :=
  s.perform fun input w => do
    let attempt ← ScanAttempt.create (build input w)
    let w' ← {w with nextUuid := w.nextUuid + 1}.recordAttempt s.d s.access attempt
    pure (attempt,w',[.attemptRecorded attempt])

def getOrCreateState (plan : RotationPlan) (learned : RecommendationStateRecord → List Fact) :
    Run RecommendationStateRecord :=
  s.perform fun input w => do
    let (record,w') ← w.getOrCreateState s.d s.access plan input.now
    pure (record,w',learned record ++ if (w.records plan.rotationPlanId).isNone then [.stateCreated record] else [])

def recordTransition (plan : RotationPlan) (previous : RecommendationStateRecord)
    (next : RecommendationState × Bool) (fence : Option (UUID × Digest)) : Run RecommendationStateRecord :=
  s.perform fun input w => do
    let (updated,w') ← w.recordTransition s.d s.access plan previous next input.now fence
    pure (updated,w',[.transitioned previous updated])

def attachFinalStrategyRun (plan : RotationPlan) (scan : LogicalScanRun) (strategyRun : StrategyRun) :
    Run LogicalScanRun :=
  s.perform fun input w => do
    let (completed,w') ← w.attachFinalStrategyRun s.d s.access scan.logicalScanRunId plan
      strategyRun.strategyRunId input.now
    pure (completed,w',[.completed completed])

def baseAudit (scan : LogicalScanRun) (finalIdentity : Option FinalStrategyIdentity)
    (terminalAttempt : Option ScanAttempt) (marketDataActionable : Bool) (attempts : List ScanAttempt) : Audit :=
  [("actor_id",.uuid s.access.actorUserId),
    ("attempt_disposition",(terminalAttempt.map fun a => AuditValue.status a.status).getD .none),
    ("attempt_statuses",.statuses (attempts.map (·.status))),
    ("configuration_snapshot_hash",.text (.digest s.request.configurationSnapshot.contentHash)),
    ("configuration_snapshot_id",.uuid s.request.configurationSnapshot.snapshotId),
    ("correlation_id",.text (.plain s.request.correlationId)),
    ("market_data_actionable",.flag marketDataActionable),
    ("scan_lock_key",.text (.digest scan.scanLockKey)),
    ("scan_lock_key_components",.scanComponents scan.identity),
    ("trigger_source",.trigger s.request.triggerSource)] ++
  (match terminalAttempt with
    | none => []
    | some a => [("failure_code",(a.failureCode.map fun code => AuditValue.text (.plain code)).getD .none),
      ("market_data_content_hash",(a.marketDataContentHash.map fun hash => AuditValue.text (.digest hash)).getD .none),
      ("market_data_snapshot_id",(a.marketDataSnapshotId.map AuditValue.text).getD .none)]) ++
  (match finalIdentity with
    | none => []
    | some i => [("final_strategy_key",.text (.digest (i.key s.d))),
      ("final_strategy_key_components",.finalComponents i)])

-- _audit
def audit (scan : LogicalScanRun) (finalIdentity : Option FinalStrategyIdentity)
    (terminalAttempt : Option ScanAttempt) (marketDataActionable : Bool) : Run Audit := do
  let attempts ← s.listAttempts scan
  pure (s.baseAudit scan finalIdentity terminalAttempt marketDataActionable attempts)

-- _duplicate_result
def duplicateResult : RunCoordinatorResult :=
  let disposition := if s.request.triggerSource = .api then .apiConflict else .schedulerSkipped
  {disposition := disposition,strategyRun := none,scanLockKey := s.scanLockKey,logicalScanRunId := none,
    finalStrategyKey := none,
    audit := [("actor_id",.uuid s.access.actorUserId),("attempt_disposition",.disposition disposition),
      ("correlation_id",.text (.plain s.request.correlationId)),("scan_lock_key",.text (.digest s.scanLockKey)),
      ("trigger_source",.trigger s.request.triggerSource)],
    existingResult := some ⟨s.scanLockKey,none⟩}

def result (disposition : RunDisposition) (strategyRun : Option StrategyRun) (scan : LogicalScanRun)
    (finalStrategyKey : Option Text) (audit : Audit) : RunCoordinatorResult :=
  {disposition := disposition,strategyRun := strategyRun,scanLockKey := s.scanLockKey,
    logicalScanRunId := some scan.logicalScanRunId,finalStrategyKey := finalStrategyKey,audit := audit}

def keyText (identity : FinalStrategyIdentity) : Text := .digest (identity.key s.d)

-- _superseded_result
def supersededResult (scan : LogicalScanRun) (strategyRun : StrategyRun) (finalIdentity : FinalStrategyIdentity)
    (terminalAttempt : ScanAttempt) : Run RunCoordinatorResult := do
  let audit ← s.audit scan (some finalIdentity) (some terminalAttempt) true
  pure (s.result .superseded (some strategyRun) scan (some (s.keyText finalIdentity))
    ((audit.set "attempt_disposition" (.disposition .superseded)).set "failure_code"
      (.text (.plain "FINALIZATION_SUPERSEDED"))))

-- _pending_finalization_result
def pendingFinalizationResult (scan : LogicalScanRun) (strategyRun : StrategyRun)
    (finalIdentity : Option FinalStrategyIdentity) (failureDetail : Option String) : Run RunCoordinatorResult := do
  let audit ← s.audit scan finalIdentity none true
  let pending := (audit.set "attempt_disposition" (.disposition .failed)).set "failure_code"
    (.text (.plain "FINALIZATION_PENDING"))
  let detailed := match failureDetail with
    | none => pending
    | some detail => pending.set "failure_detail" (.text (.plain detail))
  pure (s.result .failed none scan
    (match finalIdentity with
      | none => finalKeyFromRun strategyRun
      | some identity => some (s.keyText identity)) detailed)

-- _retry_exhausted_result
def retryExhaustedResult (scan : LogicalScanRun) : Run RunCoordinatorResult := do
  let audit ← s.audit scan none none false
  pure (s.result .retryExhausted none scan none
    (((audit.set "attempt_disposition" (.disposition .retryExhausted)).set "failure_code"
      (.text (.plain "RETRY_LIMIT_REACHED"))).set "max_provider_attempts" (.number s.self.maxProviderAttempts)))

-- The newest attempt the predicate accepts.
def lastAttempt (attempts : List ScanAttempt) (accepts : ScanAttempt → Bool) : Option ScanAttempt :=
  attempts.reverse.find? accepts

def isFinal (strategyRun : StrategyRun) (attempt : ScanAttempt) : Bool :=
  attempt.status == .succeeded && attempt.finalStrategyRunId == some strategyRun.strategyRunId

-- _record_recovered_final_attempt
def recordRecoveredFinalAttempt (scan : LogicalScanRun) (strategyRun : StrategyRun)
    (finalIdentity : FinalStrategyIdentity) (disposition : FinalizationDisposition) : Run ScanAttempt := do
  let attempts ← s.listAttempts scan
  match (lastAttempt attempts (isFinal strategyRun)).filter fun existing =>
      existing.finalizationDisposition == some disposition ||
        (disposition == .applied && existing.finalizationDisposition.isNone) with
  | some existing => pure existing
  | none =>
    match attempts.getLast? with
    | none => Program.throw ⟨.runCoordinatorInvariantError,"pending finalization has no provider attempt"⟩
    | some previous => do
      let (snapshotId,contentHash) ← Program.done (marketEvidenceFromRun strategyRun)
      s.recordAttempt fun input w => {
        scanAttemptId := w.nextUuid
        logicalScanRunId := scan.logicalScanRunId
        attemptNumber := attempts.length + 1
        status := .succeeded
        configurationSnapshotHash := strategyRun.configurationSnapshot.contentHash
        configurationSnapshotId := some strategyRun.configurationSnapshot.snapshotId
        configurationSnapshotCreatedAt := some strategyRun.configurationSnapshot.createdAt
        marketDataSnapshotId := some snapshotId
        marketDataContentHash := match contentHash with | .digest hash => some hash | _ => none
        finalStrategyKey := some (finalIdentity.key s.d)
        finalStrategyIdentityFormatVersion := some finalIdentity.formatVersion
        triggerCorrelationId := s.request.correlationId
        actorCorrelationId := actorCorrelation s.access
        startedAt := previous.startedAt
        completedAt := some input.now
        recoveryOfAttemptId := some previous.scanAttemptId
        finalStrategyRunId := some strategyRun.strategyRunId
        finalizationDisposition := some disposition}

-- _finalize_superseded_candidate
def finalizeSupersededCandidate (plan : RotationPlan) (scan : LogicalScanRun) (strategyRun : StrategyRun)
    (finalIdentity : FinalStrategyIdentity) : Run RunCoordinatorResult := do
  let finished ← Program.catching PyError.isException do
    let terminal ← s.recordRecoveredFinalAttempt scan strategyRun finalIdentity .superseded
    let _ ← s.attachFinalStrategyRun plan scan strategyRun
    pure terminal
  match finished with
  | .error error => s.pendingFinalizationResult scan strategyRun (some finalIdentity) (some error.kind.name)
  | .ok terminal => s.supersededResult scan strategyRun finalIdentity terminal

-- _record_running_attempt
def recordRunningAttempt (scan : LogicalScanRun) : Run ScanAttempt := do
  let attempts ← s.listAttempts scan
  let previous := attempts.getLast?
  if (previous.map fun a => a.status) = some .succeeded then
    Program.throw ⟨.runCoordinatorInvariantError,"uncompleted scan retains a succeeded attempt"⟩
  else
    s.recordAttempt fun input w => {
      scanAttemptId := w.nextUuid
      logicalScanRunId := scan.logicalScanRunId
      attemptNumber := attempts.length + 1
      status := .running
      configurationSnapshotHash := s.request.configurationSnapshot.contentHash
      configurationSnapshotId := some s.request.configurationSnapshot.snapshotId
      configurationSnapshotCreatedAt := some s.request.configurationSnapshot.createdAt
      marketDataSnapshotId := none
      marketDataContentHash := none
      triggerCorrelationId := s.request.correlationId
      actorCorrelationId := actorCorrelation s.access
      startedAt := input.now
      completedAt := none
      recoveryOfAttemptId := previous.map (·.scanAttemptId)}

-- _provider_attempt_count
def providerAttemptCount (scan : LogicalScanRun) : Run Nat := do
  let attempts ← s.listAttempts scan
  pure (attempts.countP fun attempt => attempt.status == .running)

-- _record_terminal_attempt and _failed_terminal_attempt, which differ in what may be missing.
def recordTerminalAttempt (scan : LogicalScanRun) (previous : ScanAttempt) (status : ScanAttemptStatus)
    (snapshot : Option MarketDataSnapshot) (finalIdentity : Option FinalStrategyIdentity)
    (failureCode failureDetail : String) : Run ScanAttempt := do
  let attempts ← s.listAttempts scan
  s.recordAttempt fun input w => {
    scanAttemptId := w.nextUuid
    logicalScanRunId := scan.logicalScanRunId
    attemptNumber := attempts.length + 1
    status := status
    configurationSnapshotHash := s.request.configurationSnapshot.contentHash
    configurationSnapshotId := some s.request.configurationSnapshot.snapshotId
    configurationSnapshotCreatedAt := some s.request.configurationSnapshot.createdAt
    marketDataSnapshotId := snapshot.map (·.snapshotId)
    marketDataContentHash := snapshot.map (·.contentHash)
    finalStrategyKey := finalIdentity.map (·.key s.d)
    finalStrategyIdentityFormatVersion := finalIdentity.map (·.formatVersion)
    triggerCorrelationId := s.request.correlationId
    actorCorrelationId := actorCorrelation s.access
    startedAt := previous.startedAt
    completedAt := some input.now
    failureCode := some failureCode
    failureDetail := some failureDetail
    recoveryOfAttemptId := some previous.scanAttemptId}

-- _failed_result
def failedResult (scan : LogicalScanRun) (runningAttempt : ScanAttempt) (failureCode failureDetail : String)
    (snapshot : Option MarketDataSnapshot) (finalIdentity : Option FinalStrategyIdentity) :
    Run RunCoordinatorResult := do
  let terminal ← s.recordTerminalAttempt scan runningAttempt .failed snapshot finalIdentity
    failureCode failureDetail
  let audit ← s.audit scan finalIdentity (some terminal) false
  pure (s.result .failed none scan (finalIdentity.map s.keyText) audit)

-- _completed_result
def completedResult (scan : LogicalScanRun) : Run RunCoordinatorResult := do
  match ← s.getForLogicalScan scan with
  | none => Program.throw ⟨.runCoordinatorInvariantError,"completed scan is missing its final strategy run"⟩
  | some storedRun => do
    let finalIdentity ← Program.done (finalIdentityFromRun s.d storedRun)
    let attempts ← s.listAttempts scan
    let terminal ← match lastAttempt attempts (isFinal storedRun) with
      | some terminal => pure terminal
      | none => s.recordRecoveredFinalAttempt scan storedRun finalIdentity .applied
    if terminal.finalizationDisposition = some .superseded then
      s.supersededResult scan storedRun finalIdentity terminal
    else do
      let audit ← s.audit scan none (some terminal) true
      pure (s.result .completed (some storedRun) scan (finalKeyFromRun storedRun) audit)

-- _is_legacy_pending_finalization
def isLegacyPendingFinalization (current : RecommendationStateRecord) (effects : FinalizationEvidence)
    (scan : LogicalScanRun) (strategyRun : StrategyRun) (finalIdentity : FinalStrategyIdentity) : Run Bool := do
  if current.legacyFinalizationClaimStatus ≠ .claimed ∨
      current.legacyFinalizationStrategyRunId ≠ some strategyRun.strategyRunId ∨
      current.legacyFinalizationStrategyKey ≠ some (finalIdentity.key s.d) ∨
      scan.status ≠ .running ∨ finalIdentity.scanLockKey ≠ scan.scanLockKey ∨
      strategyRun.configurationSnapshot.contentHash ≠ scan.configurationSnapshotHash ∨
      (effects.previousState = effects.nextState ∧
        effects.previousRemainingStagesHalted = effects.remainingStagesHalted) then
    pure false
  else do
    let attempts ← s.listAttempts scan
    pure (!attempts.any (isFinal strategyRun))

-- A record without a fence may be a legacy one; one with a fence is not.
def isUnfencedLegacy (current : RecommendationStateRecord) (effects : FinalizationEvidence) (scan : LogicalScanRun)
    (strategyRun : StrategyRun) (finalIdentity : FinalStrategyIdentity) : Run Bool :=
  if current.finalizationStrategyRunId = none ∧ current.finalizationStrategyKey = none then
    s.isLegacyPendingFinalization current effects scan strategyRun finalIdentity
  else pure false

def notificationIntent (plan : RotationPlan) (strategyRun : StrategyRun) (finalIdentity : FinalStrategyIdentity) :
    ChildIntent :=
  buildChildIntent s.d (s.d.uuid5 (finalIdentity.key s.d) strategyRun.strategyRunId) plan.rotationPlanId
    plan.portfolioId strategyRun.strategyRunId (finalIdentity.key s.d) .notification strategyRun.occurredAt

-- _existing_notification_intent_key
def existingNotificationIntentKey (plan : RotationPlan) (strategyRun : StrategyRun)
    (finalIdentity : FinalStrategyIdentity) (notificationIntentRecorded : Bool) : Run (Option Digest) := do
  if notificationIntentRecorded then
    let expected := s.notificationIntent plan strategyRun finalIdentity
    let intents ← s.read fun w => w.listIntents s.d s.access strategyRun.strategyRunId
    match intents.filter fun intent => sameLogicalChildIntent intent expected with
    | [single] => pure (some single.intentKey)
    | _ => Program.throw ⟨.runCoordinatorInvariantError,
        "applied finalization is missing its durable notification intent"⟩
  else pure none

def recordIntent (intent : ChildIntent) : Run ChildIntent :=
  s.perform fun _ w => do
    let (stored,w') ← w.recordOrGetIntent s.d s.access intent
    pure (stored,w',if (w.intentsByKey intent.intentKey).isNone then [.intentStored intent] else [])

-- _record_notification_intent; every intent has the one purpose the source checks for.
def recordNotificationIntent (plan : RotationPlan) (strategyRun : StrategyRun)
    (finalIdentity : FinalStrategyIdentity) (notificationIntentRecorded : Bool) : Run (Option Digest) := do
  if notificationIntentRecorded then
    let effects ← Program.done (finalizationEvidence strategyRun)
    if effects.previousState ≠ .actionPending ∨ effects.nextState ≠ .actionNotified then
      Program.throw ⟨.runCoordinatorInvariantError,"notification intent requires a validated decision"⟩
    else do
      let stored ← s.recordIntent (s.notificationIntent plan strategyRun finalIdentity)
      pure (some stored.intentKey)
  else pure none

-- _existing_applied_finalization
def existingAppliedFinalization (plan : RotationPlan) (scan : LogicalScanRun) (strategyRun : StrategyRun)
    (finalIdentity : FinalStrategyIdentity) : Run (Option (ScanAttempt × Option Digest)) := do
  let (snapshotId,contentHash) ← Program.done (marketEvidenceFromRun strategyRun)
  let attempts ← s.listAttempts scan
  match lastAttempt attempts fun attempt =>
      isFinal strategyRun attempt && attempt.finalizationDisposition != some .superseded with
  | none => pure none
  | some attempt =>
    if attempt.finalStrategyKey ≠ some (finalIdentity.key s.d) ∨
        attempt.finalStrategyIdentityFormatVersion ≠ some finalIdentity.formatVersion ∨
        attempt.configurationSnapshot ≠ some strategyRun.configurationSnapshot ∨
        attempt.marketDataSnapshotId ≠ some snapshotId ∨
        attempt.marketDataContentHash.map Text.digest ≠ some contentHash then
      Program.throw ⟨.runCoordinatorInvariantError,
        "applied final attempt does not match immutable strategy run evidence"⟩
    else do
      let effects ← Program.done (finalizationEvidence strategyRun)
      let key ← s.existingNotificationIntentKey plan strategyRun finalIdentity effects.notificationIntentRecorded
      pure (some (attempt,key))

-- _ensure_finalization_effects
def ensureFinalizationEffects (plan : RotationPlan) (scan : LogicalScanRun) (strategyRun : StrategyRun)
    (finalIdentity : FinalStrategyIdentity) : Run (Option Digest) := do
  let effects ← Program.done (finalizationEvidence strategyRun)
  let expectedRunId := strategyRun.strategyRunId
  let expectedKey := finalIdentity.key s.d
  let next := (effects.nextState,effects.remainingStagesHalted)
  let current ← s.getOrCreateState plan fun record => [.adjudicated record]
  if current.pair = next then
    if current.finalizationStrategyRunId = some expectedRunId ∧
        current.finalizationStrategyKey = some expectedKey then
      s.recordNotificationIntent plan strategyRun finalIdentity effects.notificationIntentRecorded
    else do
      let legacy ← s.isUnfencedLegacy current effects scan strategyRun finalIdentity
      if legacy then do
        let key ← s.existingNotificationIntentKey plan strategyRun finalIdentity effects.notificationIntentRecorded
        let _ ← s.recordTransition plan current next (some (expectedRunId,expectedKey))
        pure key
      else Program.throw ⟨.finalizationSuperseded,
        "pending finalization lost to different durable state evidence"⟩
  else if current.pair = (effects.previousState,effects.previousRemainingStagesHalted) then do
    let _ ← s.recordTransition plan current next (some (expectedRunId,expectedKey))
    s.recordNotificationIntent plan strategyRun finalIdentity effects.notificationIntentRecorded
  else Program.throw ⟨.finalizationSuperseded,
    "pending finalization no longer matches the durable recommendation state"⟩

def completedAudit (scan : LogicalScanRun) (finalIdentity : FinalStrategyIdentity) (terminal : ScanAttempt)
    (intentKey : Option Digest) : Run Audit := do
  let audit ← s.audit scan (some finalIdentity) (some terminal) true
  pure (match intentKey with
    | none => audit
    | some key => audit.set "notification_intent_key" (.text (.digest key)))

-- What the guarded part of a finalization ends with: a result of its own, or what was applied.
abbrev Finalized := RunCoordinatorResult ⊕ (ScanAttempt × Option Digest)

-- Both callers adjudicate the stored run and record its final attempt in the same way.
def adjudicate (plan : RotationPlan) (scan : LogicalScanRun) (strategyRun : StrategyRun)
    (finalIdentity : FinalStrategyIdentity) : Run Finalized := do
  match ← Program.catching PyError.isSuperseded
      (s.ensureFinalizationEffects plan scan strategyRun finalIdentity) with
  | .error _ => do
    let superseded ← s.finalizeSupersededCandidate plan scan strategyRun finalIdentity
    pure (.inl superseded)
  | .ok intentKey => do
    let terminal ← s.recordRecoveredFinalAttempt scan strategyRun finalIdentity .applied
    pure (.inr (terminal,intentKey))

-- _recover_pending_finalization
def recoverPendingFinalization (plan : RotationPlan) (scan : LogicalScanRun) (strategyRun : StrategyRun) :
    Run RunCoordinatorResult := do
  let finished : Except PyError (RunCoordinatorResult ⊕ (FinalStrategyIdentity × ScanAttempt × Option Digest)) ←
    Program.catching PyError.isException do
    let finalIdentity ← Program.done (finalIdentityFromRun s.d strategyRun)
    let outcome : Finalized ← match ← s.existingAppliedFinalization plan scan strategyRun finalIdentity with
      | some applied => pure (.inr applied)
      | none => s.adjudicate plan scan strategyRun finalIdentity
    match outcome with
    | .inl superseded => pure (.inl superseded)
    | .inr (terminal,intentKey) => do
      let _ ← s.attachFinalStrategyRun plan scan strategyRun
      pure (.inr (finalIdentity,terminal,intentKey))
  match finished with
  | .error error => do
    let finalIdentity ← Program.done (tryFinalIdentityFromRun s.d strategyRun)
    s.pendingFinalizationResult scan strategyRun finalIdentity (some error.kind.name)
  | .ok (.inl superseded) => pure superseded
  | .ok (.inr (finalIdentity,terminal,intentKey)) => do
    let audit ← s.completedAudit scan finalIdentity terminal intentKey
    pure (s.result .completed (some strategyRun) scan (some (s.keyText finalIdentity)) audit)

-- _authoritative_sale_source
def authoritativeSaleSource (evaluation : RotationEvaluation) (plan : RotationPlan) : Run (Option Position) :=
  match evaluation.saleSourcePositionId with
  | none => pure none
  | some positionId => do
    let position ← s.perform fun input w => do
      let position ← getPosition s.d s.access input.positions positionId
      pure (position,w,[.positionRead positionId position])
    let _ ← Program.done (ensureAuthorizedRotationSource plan position)
    pure (some position)

end Session

-- _validated_sizing_sale
def validatedSizingSale (evaluation : RotationEvaluation) (sourcePosition : Option Position) :
    Except PyError (Option Quantity) :=
  if evaluation.event ≠ .decisionValidated ∨ evaluation.guards.sizingOutcome ≠ .passed then .ok none
  else match sourcePosition with
    | none => raise .runCoordinatorInvariantError "passed sizing requires an authoritative source position"
    | some position =>
      match evaluation.sizingResult with
      | none => raise .runCoordinatorInvariantError "passed sizing requires an actionable SizingResult"
      | some sizing => do
        raiseIf (!sizing.actionable) .runCoordinatorInvariantError
          "passed sizing requires an actionable SizingResult"
        raiseIf (decide (sizing.sourceSale.sourcePositionId ≠ position.positionId)) .runCoordinatorInvariantError
          "sizing evidence source position does not match"
        pure (some sizing.sourceSale.quantity)

namespace Session
variable (s : Session)

-- The clock, the new id and the build touch no store, so they share the act of the write; a
-- build that is refused is not a failed operation, and its error is handed on as a value.
def recordBuiltRun (plan : RotationPlan) (scan : LogicalScanRun) (snapshot : MarketDataSnapshot)
    (finalIdentity : FinalStrategyIdentity) (source : RecommendationStateRecord) (evaluation : RotationEvaluation)
    (position : Option Position) (quantity : Option Quantity) : Run (Except PyError StrategyRun) :=
  s.perform fun input w =>
    let candidate : Candidate := ⟨plan,snapshot,s.request.configurationSnapshot,s.scanLockKey,
      finalIdentity.key s.d,input.now,w.nextUuid,source,evaluation,position,quantity⟩
    match built : buildStrategyRun candidate with
    | .error error => pure (.error error,w,[])
    | .ok prepared => do
      let (storedRun,w') ← {w with nextUuid := w.nextUuid + 1}.recordOrGetRun s.d s.access plan
        prepared.strategyRun (finalIdentity.key s.d) scan.logicalScanRunId
      pure (.ok storedRun,w',
        if (w.runsByKey (plan.rotationPlanId,finalIdentity.key s.d)).isNone then
          [.runStored ⟨candidate,prepared,built⟩] else [])

def callEvaluator : Run RotationEvaluation := do
  let answer ← s.perform fun input w => pure (input.evaluator,w,[])
  match answer with
  | .raised => Program.throw ⟨.operationFailed "Exception","evaluator failed"⟩
  | .invalid => Program.throw ⟨.typeError,"evaluator must return RotationEvaluation"⟩
  | .value evaluation => pure evaluation

-- run, from an actionable snapshot on
def evaluateSnapshot (plan : RotationPlan) (scan : LogicalScanRun) (runningAttempt : ScanAttempt)
    (snapshot : MarketDataSnapshot) (finalIdentity : FinalStrategyIdentity) : Run RunCoordinatorResult := do
  let finished ← Program.catching PyError.isException do
    let recommendationState ← s.getOrCreateState plan fun record => [.evaluatedFrom record]
    let evaluation ← s.callEvaluator
    let saleSource ← s.authoritativeSaleSource evaluation plan
    let saleQuantity ← Program.done (validatedSizingSale evaluation saleSource)
    let recorded ← s.recordBuiltRun plan scan snapshot finalIdentity recommendationState evaluation
      saleSource saleQuantity
    let storedRun ← Program.done recorded
    let outcome ← s.adjudicate plan scan storedRun finalIdentity
    pure (storedRun,outcome)
  match finished with
  | .error _ =>
    s.failedResult scan runningAttempt "EVALUATION_OR_PERSISTENCE_ERROR"
      "deterministic evaluation or final-run persistence rejected evidence" (some snapshot) (some finalIdentity)
  | .ok (_,.inl superseded) => pure superseded
  | .ok (storedRun,.inr (terminal,intentKey)) => do
    match ← Program.catching PyError.isException (s.attachFinalStrategyRun plan scan storedRun) with
    | .error _ => s.pendingFinalizationResult scan storedRun (some finalIdentity) none
    | .ok _ => do
      let audit ← s.completedAudit scan finalIdentity terminal intentKey
      pure (s.result .completed (some storedRun) scan (some (s.keyText finalIdentity)) audit)

-- run, from a non-actionable snapshot on
def degradeSnapshot (plan : RotationPlan) (scan : LogicalScanRun) (runningAttempt : ScanAttempt)
    (snapshot : MarketDataSnapshot) (finalIdentity : FinalStrategyIdentity) : Run RunCoordinatorResult := do
  let finished ← Program.catching PyError.isException do
    let recommendationState ← s.getOrCreateState plan fun _ => []
    if recommendationState.state ≠ .idle then do
      let transition ← Program.done (transitionDegradedData plan recommendationState)
      let _ ← s.recordTransition plan recommendationState
        (transition.nextState,transition.remainingStagesHalted) none
      pure ()
    else pure ()
  match finished with
  | .error _ =>
    s.failedResult scan runningAttempt "DATA_DEGRADATION_STATE_ERROR"
      "durable degraded-data transition rejected evidence" (some snapshot) (some finalIdentity)
  | .ok () => do
    let terminal ← s.recordTerminalAttempt scan runningAttempt .degraded (some snapshot) (some finalIdentity)
      "MARKET_DATA_DEGRADED" "market-data evidence was stale, incomplete, or non-actionable"
    let audit ← s.audit scan (some finalIdentity) (some terminal) false
    pure (s.result .degraded none scan (some (s.keyText finalIdentity)) audit)

-- The provider runs between two repository operations, as an act of its own.
def callProvider : Run (Option MarketDataSnapshot) := do
  let answer ← s.perform fun input w => pure (input.provider,w,[.providerCalled])
  match answer with
  | .raised => Program.throw ⟨.operationFailed "Exception","market-data provider failed"⟩
  | .invalid => pure none
  | .value snapshot => pure (some snapshot)

-- run, for a scan that has neither a final result nor a stored candidate
def fetch (plan : RotationPlan) (scan : LogicalScanRun) : Run RunCoordinatorResult := do
  let attempts ← s.providerAttemptCount scan
  if s.self.maxProviderAttempts ≤ attempts then s.retryExhaustedResult scan
  else do
    let runningAttempt ← s.recordRunningAttempt scan
    match ← Program.catching PyError.isException s.callProvider with
    | .error _ =>
      s.failedResult scan runningAttempt "MARKET_DATA_PROVIDER_ERROR"
        "market-data provider failed before immutable snapshot evidence" none none
    | .ok none =>
      s.failedResult scan runningAttempt "INVALID_MARKET_DATA_SNAPSHOT"
        "market-data provider did not return validated snapshot evidence" none none
    | .ok (some snapshot) =>
      let finalIdentity := FinalStrategyIdentity.fromSnapshot s.scanLockKey snapshot
      if snapshot.isActionable then s.evaluateSnapshot plan scan runningAttempt snapshot finalIdentity
      else s.degradeSnapshot plan scan runningAttempt snapshot finalIdentity

def createScan : Run LogicalScanRun :=
  s.perform fun input w => do
    let (scan,w') ← w.createOrRecover s.d s.access s.scanRequest input.now
    pure (scan,w',if (w.scansByKey s.scanLockKey).isNone then [.scanCreated scan] else [])

-- The try block of run.
def underLock (plan : RotationPlan) : Run RunCoordinatorResult := do
  let found ← s.read fun w => w.getByLockKey s.d s.access s.scanRequest
  match found.filter fun scan => scan.status == .completed with
  | some scan => s.completedResult scan
  | none => do
    let scan ← match found with
      | some scan => pure scan
      | none => s.createScan
    match ← s.getForLogicalScan scan with
    | some pendingRun => s.recoverPendingFinalization plan scan pendingRun
    | none => s.fetch plan scan

def acquireScanLock : Run (Option LockLease) :=
  s.perform fun _ w => do
    let (lease,w') ← w.acquireScanLock s.d s.access s.scanRequest
    pure (lease,w',lease.toList.map Fact.acquired)

def release (lease : LockLease) : Run Unit :=
  s.perform fun _ w => do
    let w' ← w.release s.d s.access lease
    pure ((),w',[.released])

-- run, from the scan lock request on
def locked (plan : RotationPlan) : Run RunCoordinatorResult := do
  match ← s.acquireScanLock with
  | none => pure s.duplicateResult
  | some lease => (s.underLock plan).ensuring (s.release lease)

end Session

namespace Coordinator
variable (c : Coordinator)

def getPlan (request : RunCoordinatorRequest) : Except PyError RotationPlan :=
  match c.rotationPlans request.plan.rotationPlanId with
  | none => raise .notFoundForActor "rotation plan was not found for actor"
  | some plan => do
    let _ ← requirePortfolioRead c.deployment plan.portfolioId request.accessContext
    pure plan

def requireSnapshotRead (access : AccessContext) (snapshot : PersistedConfigurationSnapshot) : Except PyError Unit :=
  match snapshot.targetOwnership with
  | .portfolio owner => do
    let _ ← requirePortfolioRead c.deployment owner access
    pure ()
  | ownership => access.requireRead ownership none

def getConfigurationSnapshot (request : RunCoordinatorRequest) : Except PyError PersistedConfigurationSnapshot :=
  match c.configurationSnapshots request.configurationSnapshot.snapshotId with
  | none => raise .notFoundForActor "configuration snapshot was not found for actor"
  | some stored => do
    c.requireSnapshotRead request.accessContext stored
    pure stored

-- _validate_configuration_snapshot
def validateConfigurationSnapshot (request : RunCoordinatorRequest) : Run Unit := do
  match ← Program.catching PyError.isException (consult (c.getConfigurationSnapshot request)) with
  | .error _ => Program.throw ⟨.configurationSnapshotValidationError,
      "configuration snapshot was unavailable for this actor"⟩
  | .ok persisted => Program.done do
    raiseIf (decide (persisted.reference ≠ request.configurationSnapshot)) .configurationSnapshotValidationError
      "configuration snapshot reference does not match immutable persisted evidence"
    raiseIf (decide (persisted.targetReferenceId ≠ request.plan.rotationPlanId)) .configurationSnapshotValidationError
      "configuration snapshot is not bound to the requested rotation plan"

def run (thread : Nat) (request : RunCoordinatorRequest) : Run RunCoordinatorResult := do
  let plan ← consult (c.getPlan request)
  if plan ≠ request.plan then
    Program.throw ⟨.runCoordinatorInvariantError,"request plan does not match the authorized plan"⟩
  else do
    c.validateConfigurationSnapshot request
    let scanRequest ← Program.done (request.scanLockRequest c.deployment)
    Session.locked ⟨c,thread,request,scanRequest⟩ plan

end Coordinator
end SwapMonitor
