import SwapMonitor.StateMachine.Machine

namespace SwapMonitor

-- A halted recommendation waits in one of these states.
def parkedStates : List RecommendationState := [.invalidated,.waitingConfirmation,.paused]

def Parked (pair : RecommendationState × Bool) : Prop := pair.2 = true → pair.1 ∈ parkedStates

-- PLAN_RESUMED accepted on a paused recommendation whose remaining stages are halted: the
-- edge to WATCHING carries the halt along, where DATA_RECOVERED checks it.
def resumesHalted (request : TransitionRequest) : Bool :=
  decide (request.event = .planResumed) && decide (request.currentState = .paused) &&
    request.remainingStagesHalted && request.guards.authorizationIsValid &&
    decide (request.guards.ruleOutcome = .freshFullEvaluation)

theorem edge_parked {request : TransitionRequest} {outcome : TransitionResult} (edge : Edge request outcome)
    (parked : Parked (request.currentState,request.remainingStagesHalted))
    (waits : resumesHalted request = false) : Parked (outcome.nextState,outcome.remainingStagesHalted) := by
  unfold Parked parkedStates at *
  cases edge <;> simp_all [result,noop,resumesHalted]
  case degraded state =>
    rcases state with state | state | state | state | state <;> simp_all

-- One call of the machine and its answer.
structure Call where
  request : TransitionRequest
  outcome : Except PyError TransitionResult
  answered : transition request = outcome

-- The pair the next request is made with; a rejected call feeds nothing.
def Call.feed (c : Call) : RecommendationState × Bool :=
  match c.outcome with
  | .ok accepted => (accepted.nextState,accepted.remainingStagesHalted)
  | .error _ => (c.request.currentState,c.request.remainingStagesHalted)

-- A finite sequence of calls, newest first, each made with what the one before left.
inductive Calls : List Call → RecommendationState × Bool → Prop where
  | initial : Calls [] (.idle,false)
  | call (path : Calls earlier (c.request.currentState,c.request.remainingStagesHalted)) :
      Calls (c :: earlier) c.feed

-- The halt ends only by an authorized resume on fresh evidence, and while it holds nothing
-- is signalled, decided or notified.
structure HaltSafe (c : Call) : Prop where
  released : ∀ accepted, c.outcome = .ok accepted → c.request.remainingStagesHalted = true →
    accepted.remainingStagesHalted = false → c.request.event = .resumeRemainingStages ∧
      c.request.guards.authorizationIsValid = true ∧
      c.request.guards.ruleOutcome = .freshFullEvaluation
  quiet : ∀ accepted, c.outcome = .ok accepted →
    (c.request.remainingStagesHalted = true ∨ accepted.remainingStagesHalted = true) →
    accepted.nextState ∉ [.nearTrigger,.actionPending,.actionNotified] ∧
      accepted.notificationIntentRecorded = false

theorem edge_released {request : TransitionRequest} {outcome : TransitionResult} (edge : Edge request outcome)
    (halted : request.remainingStagesHalted = true) (ended : outcome.remainingStagesHalted = false) :
    request.event = .resumeRemainingStages ∧ request.guards.authorizationIsValid = true ∧
      request.guards.ruleOutcome = .freshFullEvaluation := by
  cases edge <;> simp_all [result,noop]

theorem edge_quiet {request : TransitionRequest} {outcome : TransitionResult} (edge : Edge request outcome)
    (parked : Parked (request.currentState,request.remainingStagesHalted))
    (halted : request.remainingStagesHalted = true ∨ outcome.remainingStagesHalted = true) :
    outcome.nextState ∉ [.nearTrigger,.actionPending,.actionNotified] ∧
      outcome.notificationIntentRecorded = false := by
  cases edge with
  | repeated =>
    have waiting := parked (by simpa [noop,result] using halted)
    simp only [parkedStates,List.mem_cons,List.not_mem_nil,or_false] at waiting
    rcases waiting with state | state | state <;> simp [noop,result,state]
  | _ => simp_all [result,Parked,parkedStates]

theorem call_parked (c : Call) (parked : Parked (c.request.currentState,c.request.remainingStagesHalted))
    (waits : resumesHalted c.request = false) : Parked c.feed := by
  unfold Call.feed
  cases outcome : c.outcome with
  | error => exact parked
  | ok accepted => exact edge_parked (transition_edge (c.answered.trans outcome)).2 parked waits

theorem call_safe (c : Call) (parked : Parked (c.request.currentState,c.request.remainingStagesHalted)) :
    HaltSafe c := by
  refine ⟨?_,?_⟩
  · intro accepted outcome halted ended
    exact edge_released (transition_edge (c.answered.trans outcome)).2 halted ended
  · intro accepted outcome halted
    exact edge_quiet (transition_edge (c.answered.trans outcome)).2 parked halted

theorem calls_parked {calls : List Call} {pair : RecommendationState × Bool} (path : Calls calls pair)
    (waits : ∀ c ∈ calls, resumesHalted c.request = false) : Parked pair := by
  induction path with
  | initial => intro halted; cases halted
  | call _ ih =>
    exact call_parked _ (ih fun c earlier => waits c (List.mem_cons_of_mem _ earlier))
      (waits _ List.mem_cons_self)

theorem calls_halt_safe {calls : List Call} {pair : RecommendationState × Bool} (path : Calls calls pair)
    (waits : ∀ c ∈ calls, resumesHalted c.request = false) : ∀ c ∈ calls, HaltSafe c := by
  induction path with
  | initial => intro c none; cases none
  | call before ih =>
    have earlier := fun c present => waits c (List.mem_cons_of_mem _ present)
    intro c present
    rcases List.mem_cons.mp present with rfl | old
    · exact call_safe _ (calls_parked before earlier)
    · exact ih earlier c old

def ask (state : RecommendationState) (halted : Bool) (event : RecommendationEvent)
    (guards : TransitionGuards) : Call :=
  let request : TransitionRequest :=
    ⟨{currentState := state,event := event,guards := guards,plan := restingPlan,
      remainingStagesHalted := halted},by rfl⟩
  ⟨request,transition request,rfl⟩

-- A halt that a pause and a resume carry back to WATCHING, and a near signal after it.
def haltedResume : List Call :=
  [ask .watching true .nearSignal {ruleOutcome := .passed},
    ask .paused true .planResumed {authorizationIsValid := true,ruleOutcome := .freshFullEvaluation},
    ask .invalidated true .planPaused {authorizationIsValid := true},
    ask .watching false .signalInvalidated {ruleOutcome := .passed},
    ask .idle false .planActivated {planIsValid := true}]

theorem halted_resume_signals : Calls haltedResume (.nearTrigger,true) ∧
    ¬ ∀ c ∈ haltedResume, HaltSafe c := by
  refine ⟨.call (.call (.call (.call (.call .initial)))),?_⟩
  intro safe
  exact absurd (by decide) ((safe _ List.mem_cons_self).quiet _ rfl (.inl rfl)).1

def confirmedHalt : List Call :=
  [ask .waitingConfirmation true .resumeRemainingStages
      {authorizationIsValid := true,ruleOutcome := .freshFullEvaluation},
    ask .invalidated true .executionConfirmed {confirmationIsValid := true},
    ask .watching false .signalInvalidated {ruleOutcome := .passed},
    ask .idle false .planActivated {planIsValid := true}]

theorem confirmed_halt_safe : Calls confirmedHalt (.watching,false) ∧ ∀ c ∈ confirmedHalt, HaltSafe c :=
  have path : Calls confirmedHalt (.watching,false) := .call (.call (.call (.call .initial)))
  ⟨path,calls_halt_safe path (by decide)⟩

end SwapMonitor
