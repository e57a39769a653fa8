import SwapMonitor.StateMachine.Machine
import SwapMonitor.Application.Identities

namespace SwapMonitor

inductive SizingStatus where
  | actionable | insufficientCash | noPurchaseQuantity
  deriving DecidableEq, Repr

-- Of the sizing evidence the coordinator reads the verdict and the source sale; the stages
-- and the cash amounts are checked by the sizing service and read by nobody here.
structure SourceSaleAudit where
  sourcePositionId : UUID
  quantity : Quantity
  deriving DecidableEq

structure SizingResult where
  status : SizingStatus
  actionable : Bool
  sourceSale : SourceSaleAudit
  agrees : actionable = decide (status = .actionable)
  deriving DecidableEq

structure RotationEvaluation where
  event : RecommendationEvent
  guards : TransitionGuards
  outputs : List (String × Evidence)
  saleSourcePositionId : Option UUID
  sizingResult : Option SizingResult
  sized : sizingResult.isSome = (decide (event = .decisionValidated) && decide (guards.sizingOutcome = .passed))

structure PreparedRotationRun where
  strategyRun : StrategyRun
  transition : TransitionResult

def transitionDegradedData (plan : RotationPlan) (recommendationState : RecommendationStateRecord) :
    Except PyError TransitionResult := do
  raiseIf (decide (recommendationState.rotationPlanId ≠ plan.rotationPlanId)) .valueError
    "recommendation state must belong to the supplied plan"
  let request ← TransitionRequest.create
    {currentState := recommendationState.state,event := .dataDegraded,guards := {dataOutcome := .degraded},
      plan := plan,remainingStagesHalted := recommendationState.remainingStagesHalted}
  transition request

-- The arguments of build_strategy_run.
structure Candidate where
  plan : RotationPlan
  snapshot : MarketDataSnapshot
  configurationSnapshot : ConfigurationSnapshotRef
  scanLockKey : Digest
  finalStrategyKey : Digest
  occurredAt : Instant
  strategyRunId : UUID
  recommendationState : RecommendationStateRecord
  evaluation : RotationEvaluation
  saleSourcePosition : Option Position
  saleQuantity : Option Quantity

def Candidate.request (c : Candidate) : RequestFields :=
  {currentState := c.recommendationState.state,event := c.evaluation.event,guards := c.evaluation.guards,
    plan := c.plan,saleSourcePosition := c.saleSourcePosition,saleQuantity := c.saleQuantity,
    remainingStagesHalted := c.recommendationState.remainingStagesHalted}

def transitionText (previous next : RecommendationState) : String := previous.value ++ "->" ++ next.value

def text (value : String) : Evidence := .str (.plain value)

def Candidate.outputs (c : Candidate) (transition : TransitionResult) : Evidence :=
  .map [
    ("configuration_snapshot",.map [
      ("content_hash",.str (.digest c.configurationSnapshot.contentHash)),
      ("created_at",text (isoformat c.configurationSnapshot.createdAt)),
      ("snapshot_id",text (uuidText c.configurationSnapshot.snapshotId))]),
    ("evaluation",.map c.evaluation.outputs),
    ("idempotency",.map [
      ("final_strategy_key",.str (.digest c.finalStrategyKey)),
      ("scan_lock_key",.str (.digest c.scanLockKey))]),
    ("market_data",.map [
      ("content_hash",.str (.digest c.snapshot.contentHash)),
      ("snapshot_id",.str c.snapshot.snapshotId)]),
    ("recommendation",.map [
      ("previous_remaining_stages_halted",.bool c.recommendationState.remainingStagesHalted),
      ("previous_state",text c.recommendationState.state.value),
      ("next_state",text transition.nextState.value),
      ("notification_intent_recorded",.bool transition.notificationIntentRecorded),
      ("remaining_stages_halted",.bool transition.remainingStagesHalted)])]

def Candidate.fields (c : Candidate) (transition : TransitionResult) : StrategyRun where
  strategyRunId := c.strategyRunId
  rotationPlanId := c.plan.rotationPlanId
  portfolioId := c.plan.portfolioId
  configurationSnapshot := c.configurationSnapshot
  marketDataSnapshotId := c.snapshot.snapshotId
  stateTransition := transitionText c.recommendationState.state transition.nextState
  outputs := c.outputs transition
  occurredAt := c.occurredAt

def buildStrategyRun (c : Candidate) : Except PyError PreparedRotationRun := do
  raiseIf (!c.snapshot.isActionable) .valueError
    "non-actionable market data cannot build a strategy run"
  raiseIf (decide (c.recommendationState.rotationPlanId ≠ c.plan.rotationPlanId)) .valueError
    "recommendation state must belong to the supplied plan"
  let request ← TransitionRequest.create c.request
  let outcome ← transition request
  let strategyRun ← StrategyRun.create (c.fields outcome)
  pure ⟨strategyRun,outcome⟩

-- What a successful build went through.
structure Built (c : Candidate) (prepared : PreparedRotationRun) (request : TransitionRequest) : Prop where
  ownPlan : c.recommendationState.rotationPlanId = c.plan.rotationPlanId
  asked : request.toRequestFields = c.request
  moved : transition request = .ok prepared.transition
  stored : prepared.strategyRun =
    {c.fields prepared.transition with outputs := freezeEvidence (c.outputs prepared.transition)}

theorem create_run_parts {fields run : StrategyRun} (created : StrategyRun.create fields = .ok run) :
    run = {fields with outputs := freezeEvidence fields.outputs} := by
  unfold StrategyRun.create at created
  simp only [bind_ok,pure_ok] at created
  obtain ⟨_,_,_,_,_,_,_,_,_,_,rfl⟩ := created
  rfl

theorem build_parts {c : Candidate} {prepared : PreparedRotationRun}
    (built : buildStrategyRun c = .ok prepared) : ∃ request, Built c prepared request := by
  unfold buildStrategyRun at built
  simp only [bind_ok,pure_ok,raiseIf_ok] at built
  obtain ⟨_,_,_,ownPlan,request,created,outcome,moved,run,stored,rfl⟩ := built
  refine ⟨request,?_,request_fields created,moved,create_run_parts stored⟩
  simpa using ownPlan

end SwapMonitor
