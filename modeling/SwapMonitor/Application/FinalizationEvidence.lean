import SwapMonitor.Services.RotationRun

namespace SwapMonitor

structure FinalizationEvidence where
  previousState : RecommendationState
  previousRemainingStagesHalted : Bool
  nextState : RecommendationState
  remainingStagesHalted : Bool
  notificationIntentRecorded : Bool
  deriving DecidableEq, Repr

-- RecommendationState(value) of a stored string
def Text.state : Text → Option RecommendationState
  | .plain value => RecommendationState.parse value
  | _ => none

-- outputs.get(key), when it is a mapping
def StrategyRun.mapping (run : StrategyRun) (key : String) : Option Evidence :=
  match run.outputs.get key with
  | some (.map entries) => some (.map entries)
  | _ => none

def finalizationEvidence (run : StrategyRun) : Except PyError FinalizationEvidence :=
  match run.mapping "recommendation" with
  | none => raise .runCoordinatorInvariantError
      "strategy run is missing recommendation finalization evidence"
  | some recommendation =>
    match recommendation.get "previous_state",recommendation.get "next_state" with
    | some (.str previousState),some (.str nextState) =>
      match recommendation.get "previous_remaining_stages_halted",
          recommendation.get "remaining_stages_halted",recommendation.get "notification_intent_recorded" with
      | some (.bool previousHalted),some (.bool remainingHalted),some (.bool notificationRecorded) =>
        match previousState.state,nextState.state with
        | some previous,some next => do
          raiseIf (decide (run.stateTransition ≠ transitionText previous next)) .runCoordinatorInvariantError
            "strategy run state transition does not match its evidence"
          pure ⟨previous,previousHalted,next,remainingHalted,notificationRecorded⟩
        | _,_ => raise .runCoordinatorInvariantError
            "strategy run recommendation state evidence is malformed"
      | _,_,_ => raise .runCoordinatorInvariantError
          "strategy run recommendation guard evidence is malformed"
    | _,_ => raise .runCoordinatorInvariantError
        "strategy run recommendation state evidence is malformed"

-- _market_evidence_from_run
def marketEvidenceFromRun (run : StrategyRun) : Except PyError (Text × Text) :=
  match run.mapping "market_data" with
  | none => raise .runCoordinatorInvariantError
      "strategy run is missing market-data finalization evidence"
  | some marketData =>
    match marketData.get "snapshot_id",marketData.get "content_hash" with
    | some (.str snapshotId),some (.str contentHash) => do
      raiseIf (decide (snapshotId ≠ run.marketDataSnapshotId)) .runCoordinatorInvariantError
        "strategy run market-data identity does not match its evidence"
      pure (snapshotId,contentHash)
    | _,_ => raise .runCoordinatorInvariantError "strategy run market-data evidence is malformed"

-- _final_identity_from_run
def finalIdentityFromRun (d : Deployment) (run : StrategyRun) : Except PyError FinalStrategyIdentity :=
  match run.mapping "idempotency" with
  | none => raise .runCoordinatorInvariantError "strategy run is missing idempotency evidence"
  | some idempotency =>
    match idempotency.get "scan_lock_key",idempotency.get "final_strategy_key" with
    | some (.str scanLockKey),some (.str finalStrategyKey) => do
      let (marketDataSnapshotId,marketDataContentHash) ← marketEvidenceFromRun run
      let identity ← FinalStrategyIdentity.create scanLockKey marketDataSnapshotId marketDataContentHash
      raiseIf (decide (.digest (identity.key d) ≠ finalStrategyKey)) .runCoordinatorInvariantError
        "strategy run final identity does not match its evidence"
      pure identity
    | _,_ => raise .runCoordinatorInvariantError "strategy run idempotency evidence is malformed"

-- _try_final_identity_from_run
def tryFinalIdentityFromRun (d : Deployment) (run : StrategyRun) : Except PyError (Option FinalStrategyIdentity) :=
  match finalIdentityFromRun d run with
  | .ok identity => .ok (some identity)
  | .error error => if error.kind = .runCoordinatorInvariantError then .ok none else .error error

-- _final_key_from_run
def finalKeyFromRun (run : StrategyRun) : Option Text :=
  match (run.mapping "idempotency").bind (·.get "final_strategy_key") with
  | some (.str key) => if key.length = 64 then some key else none
  | _ => none

-- The final key the intent store compares with, of whatever length.
def finalStrategyKeyFromRun (run : StrategyRun) : Option Text :=
  match (run.mapping "idempotency").bind (·.get "final_strategy_key") with
  | some (.str key) => some key
  | _ => none

section Decoding
variable {c : Candidate} {prepared : PreparedRotationRun} {request : TransitionRequest}

theorem evidence_built (built : Built c prepared request) : finalizationEvidence prepared.strategyRun =
    .ok ⟨c.recommendationState.state,c.recommendationState.remainingStagesHalted,prepared.transition.nextState,
      prepared.transition.remainingStagesHalted,prepared.transition.notificationIntentRecorded⟩ := by
  rw [built.stored]
  simp [finalizationEvidence,StrategyRun.mapping,Candidate.outputs,Candidate.fields,freezeEvidence,
    freezeEntries,Evidence.get,List.lookup_cons,text,Text.state,raiseIf,Bind.bind,Except.bind,pure,Except.pure]

theorem market_evidence_built (built : Built c prepared request) : marketEvidenceFromRun prepared.strategyRun =
    .ok (c.snapshot.snapshotId,.digest c.snapshot.contentHash) := by
  rw [built.stored]
  simp [marketEvidenceFromRun,StrategyRun.mapping,Candidate.outputs,Candidate.fields,freezeEvidence,
    freezeEntries,Evidence.get,List.lookup_cons,raiseIf,Bind.bind,Except.bind,pure,Except.pure]

theorem final_identity_built {d : Deployment} (built : Built c prepared request)
    (keyed : c.finalStrategyKey = (FinalStrategyIdentity.fromSnapshot c.scanLockKey c.snapshot).key d) :
    finalIdentityFromRun d prepared.strategyRun = .ok (.fromSnapshot c.scanLockKey c.snapshot) := by
  have market := market_evidence_built built
  rw [built.stored] at market ⊢
  simp only [finalIdentityFromRun,market]
  simp [StrategyRun.mapping,Candidate.outputs,freezeEvidence,freezeEntries,Evidence.get,List.lookup_cons,
    raiseIf,Bind.bind,Except.bind,pure,Except.pure,identity_from_snapshot,keyed]

end Decoding

-- A run that build_strategy_run returned, with what it was built from.
structure StoredRun where
  candidate : Candidate
  prepared : PreparedRotationRun
  built : buildStrategyRun candidate = .ok prepared

namespace StoredRun

def run (s : StoredRun) : StrategyRun := s.prepared.strategyRun
def source (s : StoredRun) : RecommendationStateRecord := s.candidate.recommendationState
def previous (s : StoredRun) : RecommendationState × Bool := s.source.pair
def next (s : StoredRun) : RecommendationState × Bool :=
  (s.prepared.transition.nextState,s.prepared.transition.remainingStagesHalted)
def notifies (s : StoredRun) : Bool := s.prepared.transition.notificationIntentRecorded

def effects (s : StoredRun) : FinalizationEvidence :=
  ⟨s.previous.1,s.previous.2,s.next.1,s.next.2,s.notifies⟩

theorem effects_read (s : StoredRun) : finalizationEvidence s.run = .ok s.effects :=
  evidence_built (build_parts s.built).choose_spec

theorem market_read (s : StoredRun) : marketEvidenceFromRun s.run =
    .ok (s.candidate.snapshot.snapshotId,.digest s.candidate.snapshot.contentHash) :=
  market_evidence_built (build_parts s.built).choose_spec

def identity (s : StoredRun) : FinalStrategyIdentity := .fromSnapshot s.candidate.scanLockKey s.candidate.snapshot

-- The coordinator hands build_strategy_run the key of this identity.
def Keyed (d : Deployment) (s : StoredRun) : Prop := s.candidate.finalStrategyKey = s.identity.key d

theorem identity_read {d : Deployment} {s : StoredRun} (keyed : s.Keyed d) :
    finalIdentityFromRun d s.run = .ok s.identity :=
  final_identity_built (build_parts s.built).choose_spec keyed

theorem run_fields (s : StoredRun) : s.run.strategyRunId = s.candidate.strategyRunId ∧
    s.run.rotationPlanId = s.candidate.plan.rotationPlanId ∧ s.run.portfolioId = s.candidate.plan.portfolioId ∧
    s.run.configurationSnapshot = s.candidate.configurationSnapshot := by
  obtain ⟨_,built⟩ := build_parts s.built
  simp [run,built.stored,Candidate.fields]

theorem source_plan (s : StoredRun) : s.source.rotationPlanId = s.candidate.plan.rotationPlanId :=
  (build_parts s.built).choose_spec.ownPlan

-- The edge of the state machine the run was built on.
theorem edge (s : StoredRun) : ∃ request : TransitionRequest, request.toRequestFields = s.candidate.request ∧
    transition request = .ok s.prepared.transition ∧ SaleGuarded request ∧ Edge request s.prepared.transition := by
  obtain ⟨request,built⟩ := build_parts s.built
  exact ⟨request,built.asked,built.moved,transition_edge built.moved⟩

theorem notifies_exact (s : StoredRun) :
    s.notifies = true ↔ s.previous.1 = .actionPending ∧ s.next.1 = .actionNotified := by
  obtain ⟨request,asked,_,_,edge⟩ := s.edge
  have state : request.currentState = s.previous.1 := by rw [asked]; rfl
  rw [← state]
  exact intent_exact edge

end StoredRun
end SwapMonitor
