import SwapMonitor.Domain.Invariants

namespace SwapMonitor

inductive RecommendationState where
  | idle | watching | nearTrigger | actionPending | actionNotified | dataDegraded | invalidated
  | partiallyExecuted | waitingConfirmation | stageCompleted | rotationCompleted | paused
  deriving DecidableEq, Repr

def RecommendationState.value : RecommendationState → String
  | .idle => "IDLE"
  | .watching => "WATCHING"
  | .nearTrigger => "NEAR_TRIGGER"
  | .actionPending => "ACTION_PENDING"
  | .actionNotified => "ACTION_NOTIFIED"
  | .dataDegraded => "DATA_DEGRADED"
  | .invalidated => "INVALIDATED"
  | .partiallyExecuted => "PARTIALLY_EXECUTED"
  | .waitingConfirmation => "WAITING_CONFIRMATION"
  | .stageCompleted => "STAGE_COMPLETED"
  | .rotationCompleted => "ROTATION_COMPLETED"
  | .paused => "PAUSED"

def RecommendationState.all : List RecommendationState :=
  [.idle,.watching,.nearTrigger,.actionPending,.actionNotified,.dataDegraded,.invalidated,
    .partiallyExecuted,.waitingConfirmation,.stageCompleted,.rotationCompleted,.paused]

-- RecommendationState(value); none where Python raises ValueError.
def RecommendationState.parse (value : String) : Option RecommendationState :=
  RecommendationState.all.find? fun state => state.value == value

@[simp] theorem parse_value (state : RecommendationState) :
    RecommendationState.parse state.value = some state := by
  cases state <;> decide

inductive RecommendationEvent where
  | planActivated | dataDegraded | dataRecovered | nearSignal | actionSignal | decisionValidated
  | validationFailed | signalInvalidated | executionConfirmed | nextStageEligible
  | resumeRemainingStages | allStagesDone | planPaused | planResumed
  deriving DecidableEq, Repr

inductive LegacyFinalizationClaimStatus where
  | notApplicable | claimed | noClaim | ambiguous
  deriving DecidableEq, Repr

inductive DataOutcome where
  | unknown | degraded | freshComplete | freshFullEvaluation
  deriving DecidableEq, Repr

inductive RuleOutcome where
  | notEvaluated | failed | passed | freshFullEvaluation
  deriving DecidableEq, Repr

inductive SizingOutcome where
  | notValidated | failed | passed
  deriving DecidableEq, Repr

inductive ConfirmationOutcome where
  | partialStage | stageCompleted
  deriving DecidableEq, Repr

structure RecordFields where
  rotationPlanId : UUID
  portfolioId : UUID
  state : RecommendationState
  remainingStagesHalted : Bool
  revision : Nat
  updatedAt : Instant
  finalizationStrategyRunId : Option UUID := none
  finalizationStrategyKey : Option Digest := none
  legacyFinalizationClaimStatus : LegacyFinalizationClaimStatus := .notApplicable
  legacyFinalizationStrategyRunId : Option UUID := none
  legacyFinalizationStrategyKey : Option Digest := none
  deriving DecidableEq

def RecordFields.postInit (r : RecordFields) : Except PyError Unit := do
  raiseIf (r.finalizationStrategyRunId.isNone != r.finalizationStrategyKey.isNone) .valueError
    "finalization fence requires both strategy run and final key"
  raiseIf (r.legacyFinalizationStrategyRunId.isSome != r.legacyFinalizationStrategyKey.isSome ||
      decide (r.legacyFinalizationClaimStatus = .claimed) != r.legacyFinalizationStrategyRunId.isSome)
    .valueError "legacy finalization claim requires exactly one strategy run and key"

-- A record that exists has passed its constructor.
structure RecommendationStateRecord extends RecordFields where
  accepted : toRecordFields.postInit = .ok ()
  deriving DecidableEq

def RecommendationStateRecord.create (fields : RecordFields) : Except PyError RecommendationStateRecord :=
  match accepted : fields.postInit with
  | .ok () => .ok ⟨fields,accepted⟩
  | .error error => .error error

theorem record_fields {fields : RecordFields} {record : RecommendationStateRecord}
    (created : RecommendationStateRecord.create fields = .ok record) : record.toRecordFields = fields := by
  unfold RecommendationStateRecord.create at created
  split at created
  · cases created; rfl
  · cases created

theorem RecommendationStateRecord.fence_both (record : RecommendationStateRecord) :
    record.finalizationStrategyRunId.isSome = record.finalizationStrategyKey.isSome := by
  have checked := record.accepted
  simp only [RecordFields.postInit,bind_ok,raiseIf_ok,exists_const,bne_eq_false_iff_eq] at checked
  have neither := checked.1
  cases run : record.finalizationStrategyRunId <;> cases key : record.finalizationStrategyKey <;>
    simp_all

-- The two components every finalization decision compares.
def RecordFields.pair (r : RecordFields) : RecommendationState × Bool := (r.state,r.remainingStagesHalted)

end SwapMonitor
