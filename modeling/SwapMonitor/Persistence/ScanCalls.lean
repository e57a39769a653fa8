import SwapMonitor.Persistence.Database

namespace SwapMonitor

-- The calls of a scan's repositories, whose completion time has an offset of its own.
inductive ScanCall where
  | getOrCreateState (plan : RotationPlan) (createdAt : Instant)
  | getState (rotationPlanId : UUID)
  | recordTransition (plan : RotationPlan) (previous : RecommendationStateRecord) (next : RecommendationState × Bool)
      (changedAt : Instant) (finalizationStrategyRunId : Option UUID) (finalizationStrategyKey : Option Digest)
  | createOrRecover (request : ScanLockRequest) (createdAt : Instant)
  | getByLockKey (request : ScanLockRequest)
  | getScan (logicalScanRunId : UUID)
  | recordAttempt (attempt : ScanAttempt)
  | listAttempts (logicalScanRunId : UUID)
  | attachFinalStrategyRun (logicalScanRunId : UUID) (plan : RotationPlan) (strategyRunId : UUID) (completedAt : AwareDatetime)
  | recordOrGetRun (plan : RotationPlan) (run : StrategyRun) (idempotencyKey : Digest) (logicalScanRunId : Option UUID)
  | getForLogicalScan (logicalScanRunId : UUID)
  | recordOrGetIntent (intent : ChildIntent)
  | getIntent (intentKey : Digest)
  | listIntents (strategyRunId : UUID)

-- The same call of the in-memory repositories.
def ScanCall.operation : ScanCall → Operation
  | .getOrCreateState plan createdAt => .getOrCreateState plan createdAt
  | .getState planId => .getState planId
  | .recordTransition plan previous next changedAt runId key => .recordTransition plan previous next changedAt runId key
  | .createOrRecover request createdAt => .createOrRecover request createdAt
  | .getByLockKey request => .getByLockKey request
  | .getScan scanId => .getScan scanId
  | .recordAttempt attempt => .recordAttempt attempt
  | .listAttempts scanId => .listAttempts scanId
  | .attachFinalStrategyRun scanId plan runId completedAt => .attachFinalStrategyRun scanId plan runId completedAt.instant
  | .recordOrGetRun plan run key scanId => .recordOrGetRun plan run key scanId
  | .getForLogicalScan scanId => .getForLogicalScan scanId
  | .recordOrGetIntent intent => .recordOrGetIntent intent
  | .getIntent intentKey => .getIntent intentKey
  | .listIntents runId => .listIntents runId

-- An actor's call, and the uuid4 it draws when it needs one.
structure Request where
  access : AccessContext
  fresh : UUID
  call : ScanCall

namespace Database

-- A call that raises before it writes leaves the tables as they are.
def told (answer : α → Reply) (current : Database) : Except PyError (α × Database) → Except PyError Reply × Database
  | .ok (value,after) => (.ok (answer value),after)
  | .error error => (.error error,current)

-- What a session that has read some tables answers, and the tables it leaves.
def perform (e : Engine) (seen current : Database) (request : Request) : Except PyError Reply × Database :=
  let ⟨access,fresh,call⟩ := request
  match call with
  | .getOrCreateState plan createdAt => told .record current (getOrCreateState e access seen current plan createdAt)
  | .getState planId => ((getState e access seen planId).map .record,current)
  | .recordTransition plan previous next changedAt runId key =>
    told .record current (transition e access seen current plan previous next changedAt runId key)
  | .createOrRecover scan createdAt => told .scan current (createOrRecover e access seen current fresh scan createdAt)
  | .getByLockKey scan => ((getByLockKey e access seen scan).map .foundScan,current)
  | .getScan scanId => ((getScan e access seen scanId).map .scan,current)
  | .recordAttempt attempt =>
    told (fun _ => .done) current ((recordAttempt e access seen current attempt).map fun after => ((),after))
  | .listAttempts scanId => ((listAttempts e access seen scanId).map .attempts,current)
  | .attachFinalStrategyRun scanId plan runId completedAt =>
    let (answer,after) := attachFinalStrategyRun e access seen current scanId plan runId completedAt
    (answer.map .scan,after)
  | .recordOrGetRun plan run key scanId => told .run current (recordOrGetRun e access seen current plan run key scanId)
  | .getForLogicalScan scanId => ((getForLogicalScan e access seen scanId).map .foundRun,current)
  | .recordOrGetIntent intent => told .intent current (recordOrGetIntent e access seen current intent)
  | .getIntent intentKey => ((getIntent e access seen intentKey).map .intent,current)
  | .listIntents runId => ((listIntents e access seen runId).map .intents,current)

-- Tables that no scan has written to.
def unscanned (rotationPlans : List RotationPlanModel) (configurationSnapshots : List PersistedConfigurationSnapshot) : Database where
  rotationPlans := rotationPlans
  configurationSnapshots := configurationSnapshots
  recommendationStates := []
  logicalScanRuns := []
  scanAttempts := []
  strategyRuns := []
  childIntents := []

-- One session after the other: each has read what the one before it left.
def serve (e : Engine) : Database → List Request → List (Except PyError Reply) × Database
  | db,[] => ([],db)
  | db,request :: rest =>
    let (answer,after) := db.perform e db request
    let (answers,last) := serve e after rest
    (answer :: answers,last)

end Database

namespace Repositories

-- The same calls of the in-memory repositories.
def serve (d : Deployment) : Repositories → List Request → List (Except PyError Reply) × Repositories
  | r,[] => ([],r)
  | r,request :: rest =>
    let answer := (r.drawing request.fresh).perform d request.access request.call.operation
    let (answers,last) := serve d ((r.drawing request.fresh).after d request.access request.call.operation) rest
    (answer.map (·.1) :: answers,last)

end Repositories

end SwapMonitor
