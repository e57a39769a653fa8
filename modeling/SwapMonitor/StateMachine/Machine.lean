import SwapMonitor.StateMachine.States

namespace SwapMonitor

structure TransitionGuards where
  planIsValid : Bool := false
  dataOutcome : DataOutcome := .unknown
  ruleOutcome : RuleOutcome := .notEvaluated
  sizingOutcome : SizingOutcome := .notValidated
  authorizationIsValid : Bool := false
  confirmationIsValid : Bool := false
  confirmationOutcome : ConfirmationOutcome := .partialStage
  deriving DecidableEq, Repr

structure RequestFields where
  currentState : RecommendationState
  event : RecommendationEvent
  guards : TransitionGuards
  plan : RotationPlan
  saleSourcePosition : Option Position := none
  saleQuantity : Option Quantity := none
  remainingStagesHalted : Bool := false

def RequestFields.postInit (r : RequestFields) : Except PyError Unit :=
  raiseIf (r.saleQuantity.isSome &&
      (decide (r.event ≠ .decisionValidated) || decide (r.guards.sizingOutcome ≠ .passed)))
    .valueError "sale_quantity only applies to passed sizing validation"

structure TransitionRequest extends RequestFields where
  accepted : toRequestFields.postInit = .ok ()

def TransitionRequest.create (fields : RequestFields) : Except PyError TransitionRequest :=
  match accepted : fields.postInit with
  | .ok () => .ok ⟨fields,accepted⟩
  | .error error => .error error

theorem request_fields {fields : RequestFields} {request : TransitionRequest}
    (created : TransitionRequest.create fields = .ok request) : request.toRequestFields = fields := by
  unfold TransitionRequest.create at created
  split at created
  · cases created; rfl
  · cases created

structure TransitionResult where
  previousState : RecommendationState
  nextState : RecommendationState
  remainingStagesHalted : Bool
  isNoop : Bool := false
  notificationIntentRecorded : Bool := false
  requiresFreshFullEvaluation : Bool := false
  executionStatusChanged : Bool := false
  positionsChanged : Bool := false
  deriving DecidableEq, Repr

-- _require
def require (condition : Bool) (description : String) : Except PyError Unit :=
  raiseIf (!condition) .transitionNotAllowed ("transition requires " ++ description)

@[simp] theorem require_ok (condition : Bool) (description : String) (u : Unit) :
    require condition description = .ok u ↔ condition = true := by
  simp [require]

-- _result; an edge that sets the halt, the intent or the fresh evaluation updates this value.
def result (request : TransitionRequest) (nextState : RecommendationState) : TransitionResult :=
  {previousState := request.currentState,nextState := nextState,
    remainingStagesHalted := request.remainingStagesHalted}

-- _noop
def noop (request : TransitionRequest) : TransitionResult :=
  {result request request.currentState with isNoop := true}

-- _ACTION_OR_SALE_EVENTS
def actionOrSaleEvents : List RecommendationEvent := [.actionSignal,.decisionValidated,.nextStageEligible]

def rejectUnauthorizedSaleSource (request : TransitionRequest) : Except PyError Unit :=
  if request.event ∈ actionOrSaleEvents then
    match request.saleSourcePosition with
    | none => raise .transitionNotAllowed "transition requires an authoritative sale source position"
    | some position => do
      ensureAuthorizedRotationSource request.plan position
      if request.event = .decisionValidated ∧ request.guards.sizingOutcome = .passed then
        match request.saleQuantity with
        | none => raise .transitionNotAllowed "validated sizing requires an authoritative sale quantity"
        | some quantity => ensureAuthorizedRotationSale request.plan position quantity
      else pure ()
  else pure ()

-- The cases stand in the order of the source.
def transition (request : TransitionRequest) : Except PyError TransitionResult := do
  rejectUnauthorizedSaleSource request
  let state := request.currentState
  let guards := request.guards
  match request.event with
  | .planPaused => do
    require guards.authorizationIsValid "authorized pause"
    if state = .paused then pure (noop request)
    else if state = .rotationCompleted then
      raise .transitionNotAllowed "terminal recommendation cannot be paused"
    else pure (result request .paused)
  | .planResumed => do
    require guards.authorizationIsValid "authorized resume"
    require (decide (guards.ruleOutcome = .freshFullEvaluation)) "fresh full evaluation"
    if state = .watching then pure (noop request)
    else do
      require (decide (state = .paused)) "paused recommendation"
      pure {result request .watching with requiresFreshFullEvaluation := true}
  | .dataDegraded => do
    require (decide (guards.dataOutcome = .degraded)) "degraded data evidence"
    if state = .dataDegraded then pure (noop request)
    else if state = .partiallyExecuted then
      pure {result request .waitingConfirmation with remainingStagesHalted := true}
    else if state ∈ [.watching,.nearTrigger,.actionPending,.actionNotified,.stageCompleted] then
      pure (result request .dataDegraded)
    else if state = .waitingConfirmation then pure (noop request)
    else raise .transitionNotAllowed "data degradation is not valid for this recommendation state"
  | .dataRecovered => do
    require (decide (guards.dataOutcome = .freshFullEvaluation)) "fresh full evaluation"
    if state = .watching then pure (noop request)
    else do
      require (decide (state = .dataDegraded)) "degraded recommendation"
      if request.remainingStagesHalted then
        pure {result request .waitingConfirmation with
          remainingStagesHalted := true,requiresFreshFullEvaluation := true}
      else pure {result request .watching with requiresFreshFullEvaluation := true}
  | .planActivated => do
    require guards.planIsValid "valid plan"
    if state = .watching then pure (noop request)
    else do
      require (decide (state = .idle)) "idle recommendation"
      pure (result request .watching)
  | .nearSignal => do
    require (decide (guards.ruleOutcome = .passed)) "validated near rule"
    if state = .nearTrigger then pure (noop request)
    else do
      require (decide (state = .watching)) "watching recommendation"
      pure (result request .nearTrigger)
  | .actionSignal => do
    require (decide (guards.ruleOutcome = .passed)) "validated action rule"
    if state = .actionPending then pure (noop request)
    else do
      require (decide (state = .nearTrigger)) "near-trigger recommendation"
      pure (result request .actionPending)
  | .decisionValidated => do
    require (decide (guards.sizingOutcome = .passed)) "validated sizing"
    if state = .actionNotified then pure (noop request)
    else do
      require (decide (state = .actionPending)) "pending recommendation"
      pure {result request .actionNotified with notificationIntentRecorded := true}
  | .validationFailed => do
    require (decide (state = .actionPending)) "pending recommendation"
    pure (result request .watching)
  | .signalInvalidated => do
    require (decide (guards.ruleOutcome = .passed)) "validated invalidation rule"
    if state = .invalidated then pure (noop request)
    else if state = .partiallyExecuted then
      pure {result request .waitingConfirmation with remainingStagesHalted := true}
    else do
      require (decide (state ∈ [.watching,.nearTrigger,.actionPending,.actionNotified]))
        "active recommendation"
      pure {result request .invalidated with remainingStagesHalted := true}
  | .executionConfirmed => do
    require guards.confirmationIsValid "valid execution confirmation"
    if state ∈ [.dataDegraded,.invalidated,.waitingConfirmation] then
      pure {result request .waitingConfirmation with remainingStagesHalted := true}
    else do
      require (decide (state = .actionNotified)) "notified recommendation"
      pure (result request
        (if guards.confirmationOutcome = .partialStage then .partiallyExecuted else .stageCompleted))
  | .nextStageEligible => do
    require (!request.remainingStagesHalted) "remaining stages are not halted"
    require (decide (guards.ruleOutcome = .freshFullEvaluation)) "fresh rule"
    if state = .actionPending then pure (noop request)
    else do
      require (decide (state = .partiallyExecuted)) "partial recommendation"
      pure (result request .actionPending)
  | .resumeRemainingStages => do
    require guards.authorizationIsValid "authorized resume"
    require (decide (guards.ruleOutcome = .freshFullEvaluation)) "fresh full evaluation"
    if state = .watching then pure (noop request)
    else do
      require (decide (state = .waitingConfirmation) && request.remainingStagesHalted)
        "halted recommendation awaiting confirmation"
      pure {result request .watching with
        remainingStagesHalted := false,requiresFreshFullEvaluation := true}
  | .allStagesDone => do
    if state = .rotationCompleted then pure (noop request)
    else do
      require (decide (state = .stageCompleted)) "completed stage"
      pure (result request .rotationCompleted)

-- What the sale guard establishes when it lets a request through.
def SaleGuarded (request : TransitionRequest) : Prop :=
  request.event ∈ actionOrSaleEvents → ∃ position, request.saleSourcePosition = some position ∧
    AuthorizedSource request.plan position ∧
    (request.event = .decisionValidated → request.guards.sizingOutcome = .passed →
      ∃ quantity, request.saleQuantity = some quantity ∧ AuthorizedSale request.plan position quantity)

theorem sale_guard_parts {request : TransitionRequest}
    (passed : rejectUnauthorizedSaleSource request = .ok ()) : SaleGuarded request := by
  intro sale
  unfold rejectUnauthorizedSaleSource at passed
  rw [if_pos sale] at passed
  cases supplied : request.saleSourcePosition with
  | none => simp [supplied,raise] at passed
  | some position =>
    simp only [supplied,check_ok,source_exact] at passed
    refine ⟨position,rfl,passed.1,?_⟩
    intro decided sized
    have sale := passed.2
    rw [if_pos ⟨decided,sized⟩] at sale
    cases offered : request.saleQuantity with
    | none => simp [offered,raise] at sale
    | some quantity => exact ⟨quantity,rfl,sale_exact.mp (by simpa only [offered] using sale)⟩

-- The event leaves the state as it is, and says so.
def repeats : RecommendationEvent → RecommendationState → Bool
  | .planPaused,.paused | .planResumed,.watching | .dataDegraded,.dataDegraded
  | .dataDegraded,.waitingConfirmation | .dataRecovered,.watching | .planActivated,.watching
  | .nearSignal,.nearTrigger | .actionSignal,.actionPending | .decisionValidated,.actionNotified
  | .signalInvalidated,.invalidated | .nextStageEligible,.actionPending
  | .resumeRemainingStages,.watching | .allStagesDone,.rotationCompleted => true
  | _,_ => false

-- Everything an accepted transition can be, one case an edge of the table.
inductive Edge (request : TransitionRequest) : TransitionResult → Prop where
  | repeated (known : repeats request.event request.currentState = true) : Edge request (noop request)
  | paused (event : request.event = .planPaused) (authorized : request.guards.authorizationIsValid = true)
      (running : request.currentState ≠ .rotationCompleted) : Edge request (result request .paused)
  | resumed (event : request.event = .planResumed) (authorized : request.guards.authorizationIsValid = true)
      (fresh : request.guards.ruleOutcome = .freshFullEvaluation) (state : request.currentState = .paused) :
      Edge request {result request .watching with requiresFreshFullEvaluation := true}
  | degraded (event : request.event = .dataDegraded)
      (state : request.currentState ∈ [RecommendationState.watching,.nearTrigger,.actionPending,.actionNotified,
        .stageCompleted]) : Edge request (result request .dataDegraded)
  | degradedStage (event : request.event = .dataDegraded) (state : request.currentState = .partiallyExecuted) :
      Edge request {result request .waitingConfirmation with remainingStagesHalted := true}
  | recoveredHalted (event : request.event = .dataRecovered) (state : request.currentState = .dataDegraded)
      (halted : request.remainingStagesHalted = true) :
      Edge request {result request .waitingConfirmation with
        remainingStagesHalted := true,requiresFreshFullEvaluation := true}
  | recovered (event : request.event = .dataRecovered) (state : request.currentState = .dataDegraded)
      (clear : request.remainingStagesHalted = false) :
      Edge request {result request .watching with requiresFreshFullEvaluation := true}
  | activated (event : request.event = .planActivated) (state : request.currentState = .idle) :
      Edge request (result request .watching)
  | near (event : request.event = .nearSignal) (state : request.currentState = .watching) :
      Edge request (result request .nearTrigger)
  | action (event : request.event = .actionSignal) (state : request.currentState = .nearTrigger) :
      Edge request (result request .actionPending)
  | decided (event : request.event = .decisionValidated) (state : request.currentState = .actionPending)
      (sized : request.guards.sizingOutcome = .passed) :
      Edge request {result request .actionNotified with notificationIntentRecorded := true}
  | failed (event : request.event = .validationFailed) (state : request.currentState = .actionPending) :
      Edge request (result request .watching)
  | invalidatedStage (event : request.event = .signalInvalidated)
      (state : request.currentState = .partiallyExecuted) :
      Edge request {result request .waitingConfirmation with remainingStagesHalted := true}
  | invalidated (event : request.event = .signalInvalidated)
      (state : request.currentState ∈ [RecommendationState.watching,.nearTrigger,.actionPending,.actionNotified]) :
      Edge request {result request .invalidated with remainingStagesHalted := true}
  | confirmedLate (event : request.event = .executionConfirmed)
      (state : request.currentState ∈ [RecommendationState.dataDegraded,.invalidated,.waitingConfirmation]) :
      Edge request {result request .waitingConfirmation with remainingStagesHalted := true}
  | confirmed (event : request.event = .executionConfirmed) (state : request.currentState = .actionNotified)
      (next : RecommendationState) (known : next = .partiallyExecuted ∨ next = .stageCompleted) :
      Edge request (result request next)
  | nextStage (event : request.event = .nextStageEligible) (state : request.currentState = .partiallyExecuted)
      (clear : request.remainingStagesHalted = false) : Edge request (result request .actionPending)
  | released (event : request.event = .resumeRemainingStages)
      (authorized : request.guards.authorizationIsValid = true)
      (fresh : request.guards.ruleOutcome = .freshFullEvaluation)
      (state : request.currentState = .waitingConfirmation) (halted : request.remainingStagesHalted = true) :
      Edge request {result request .watching with
        remainingStagesHalted := false,requiresFreshFullEvaluation := true}
  | completed (event : request.event = .allStagesDone) (state : request.currentState = .stageCompleted) :
      Edge request (result request .rotationCompleted)

theorem transition_edge {request : TransitionRequest} {outcome : TransitionResult}
    (accepted : transition request = .ok outcome) : SaleGuarded request ∧ Edge request outcome := by
  unfold transition at accepted
  refine ⟨sale_guard_parts (check_ok.mp accepted).1,?_⟩
  replace accepted := (check_ok.mp accepted).2
  cases event : request.event <;>
    simp only [event,check_ok,require_ok,either_ok,pure_ok,raise_ok,decide_eq_true_eq,Bool.and_eq_true,
      Bool.not_eq_true',Bool.not_eq_true,and_false,false_or,or_false] at accepted
  case planPaused =>
    rcases accepted with ⟨authorized,⟨state,rfl⟩ | ⟨_,running,rfl⟩⟩
    · exact .repeated (by rw [event,state]; rfl)
    · exact .paused event authorized running
  case planResumed =>
    rcases accepted with ⟨authorized,fresh,⟨state,rfl⟩ | ⟨_,state,rfl⟩⟩
    · exact .repeated (by rw [event,state]; rfl)
    · exact .resumed event authorized fresh state
  case dataDegraded =>
    rcases accepted with ⟨_,⟨state,rfl⟩ | ⟨_,⟨state,rfl⟩ | ⟨_,⟨state,rfl⟩ | ⟨_,state,rfl⟩⟩⟩⟩
    · exact .repeated (by rw [event,state]; rfl)
    · exact .degradedStage event state
    · exact .degraded event state
    · exact .repeated (by rw [event,state]; rfl)
  case dataRecovered =>
    rcases accepted with ⟨_,⟨state,rfl⟩ | ⟨_,state,⟨halted,rfl⟩ | ⟨clear,rfl⟩⟩⟩
    · exact .repeated (by rw [event,state]; rfl)
    · exact .recoveredHalted event state halted
    · exact .recovered event state clear
  case planActivated =>
    rcases accepted with ⟨_,⟨state,rfl⟩ | ⟨_,state,rfl⟩⟩
    · exact .repeated (by rw [event,state]; rfl)
    · exact .activated event state
  case nearSignal =>
    rcases accepted with ⟨_,⟨state,rfl⟩ | ⟨_,state,rfl⟩⟩
    · exact .repeated (by rw [event,state]; rfl)
    · exact .near event state
  case actionSignal =>
    rcases accepted with ⟨_,⟨state,rfl⟩ | ⟨_,state,rfl⟩⟩
    · exact .repeated (by rw [event,state]; rfl)
    · exact .action event state
  case decisionValidated =>
    rcases accepted with ⟨sized,⟨state,rfl⟩ | ⟨_,state,rfl⟩⟩
    · exact .repeated (by rw [event,state]; rfl)
    · exact .decided event state sized
  case validationFailed =>
    obtain ⟨state,rfl⟩ := accepted
    exact .failed event state
  case signalInvalidated =>
    rcases accepted with ⟨_,⟨state,rfl⟩ | ⟨_,⟨state,rfl⟩ | ⟨_,state,rfl⟩⟩⟩
    · exact .repeated (by rw [event,state]; rfl)
    · exact .invalidatedStage event state
    · exact .invalidated event state
  case executionConfirmed =>
    rcases accepted with ⟨_,⟨state,rfl⟩ | ⟨_,state,rfl⟩⟩
    · exact .confirmedLate event state
    · exact .confirmed event state _ (by split <;> simp)
  case nextStageEligible =>
    rcases accepted with ⟨clear,_,⟨state,rfl⟩ | ⟨_,state,rfl⟩⟩
    · exact .repeated (by rw [event,state]; rfl)
    · exact .nextStage event state clear
  case resumeRemainingStages =>
    rcases accepted with ⟨authorized,fresh,⟨state,rfl⟩ | ⟨_,⟨state,halted⟩,rfl⟩⟩
    · exact .repeated (by rw [event,state]; rfl)
    · exact .released event authorized fresh state halted
  case allStagesDone =>
    rcases accepted with ⟨state,rfl⟩ | ⟨_,state,rfl⟩
    · exact .repeated (by rw [event,state]; rfl)
    · exact .completed event state

-- What an accepted transition does to the intent flag and to the two sale states.
theorem intent_exact {request : TransitionRequest} {outcome : TransitionResult} (edge : Edge request outcome) :
    outcome.notificationIntentRecorded = true ↔
      request.currentState = .actionPending ∧ outcome.nextState = .actionNotified := by
  cases edge <;> simp_all [result,noop]

theorem previous_exact {request : TransitionRequest} {outcome : TransitionResult} (edge : Edge request outcome) :
    outcome.previousState = request.currentState := by
  cases edge <;> rfl

end SwapMonitor
