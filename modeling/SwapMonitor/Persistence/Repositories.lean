import SwapMonitor.Persistence.InMemory

namespace SwapMonitor
open Function (update)

namespace Stores
variable (d : Deployment) (access : AccessContext) (w : Stores)

-- record_or_get of the strategy runs, for a run of a logical scan or of none.
def recordOrGet (plan : RotationPlan) (run : StrategyRun) (idempotencyKey : Digest)
    (logicalScanRunId : Option UUID) : Except PyError (StrategyRun × Stores) := do
  let _ ← requirePortfolioMutation d plan.portfolioId access
  raiseIf (decide (run.rotationPlanId ≠ plan.rotationPlanId ∨ run.portfolioId ≠ plan.portfolioId)) .valueError
    "strategy run must belong to the supplied rotation plan"
  let key := (plan.rotationPlanId,idempotencyKey)
  match w.runsByKey key with
  | some existing => do
    raiseIf (!existing.same run || decide (w.logicalScanByKey key ≠ logicalScanRunId))
      .idempotencyConflictError "idempotency key already records a different strategy run"
    pure (existing,w)
  | none => do
    match logicalScanRunId with
    | some scanId => do
      let scan ← getScan d access w scanId
      raiseIf (decide (scan.rotationPlanId ≠ plan.rotationPlanId ∨ scan.portfolioId ≠ plan.portfolioId)) .valueError
        "logical scan must belong to the supplied rotation plan"
      raiseIf (w.runsByLogicalScan scanId).isSome .logicalScanAlreadyCompletedError
        "logical scan already has a final strategy run"
      pure (run,{w with
        runsByKey := update w.runsByKey key (some run)
        runsById := update w.runsById run.strategyRunId (some run)
        logicalScanByKey := update w.logicalScanByKey key (some scanId)
        runsByLogicalScan := update w.runsByLogicalScan scanId (some run)})
    | none => pure (run,{w with
        runsByKey := update w.runsByKey key (some run)
        runsById := update w.runsById run.strategyRunId (some run)
        logicalScanByKey := update w.logicalScanByKey key none})

-- The coordinator records its runs for a scan.
theorem recorded_for_scan (plan : RotationPlan) (run : StrategyRun) (idempotencyKey : Digest) (scanId : UUID) :
    recordOrGetRun d access w plan run idempotencyKey scanId = recordOrGet d access w plan run idempotencyKey (some scanId) := rfl

-- The checks on the logical scan a new run is to be linked to.
def requireOpenScan (plan : RotationPlan) : Option UUID → Except PyError Unit
  | none => pure ()
  | some scanId => do
    let scan ← getScan d access w scanId
    raiseIf (decide (scan.rotationPlanId ≠ plan.rotationPlanId ∨ scan.portfolioId ≠ plan.portfolioId)) .valueError
      "logical scan must belong to the supplied rotation plan"
    raiseIf (w.runsByLogicalScan scanId).isSome .logicalScanAlreadyCompletedError
      "logical scan already has a final strategy run"

-- What recording a run under a free key writes.
def storing (plan : RotationPlan) (run : StrategyRun) (idempotencyKey : Digest) (logicalScanRunId : Option UUID) : Stores :=
  {w with
    runsByKey := update w.runsByKey (plan.rotationPlanId,idempotencyKey) (some run)
    runsById := update w.runsById run.strategyRunId (some run)
    logicalScanByKey := update w.logicalScanByKey (plan.rotationPlanId,idempotencyKey) logicalScanRunId
    runsByLogicalScan := match logicalScanRunId with
      | none => w.runsByLogicalScan
      | some scanId => update w.runsByLogicalScan scanId (some run)}

theorem stored_when_free {plan : RotationPlan} {run : StrategyRun} {idempotencyKey : Digest} {logicalScanRunId : Option UUID}
    (free : w.runsByKey (plan.rotationPlanId,idempotencyKey) = none) :
    w.recordOrGet d access plan run idempotencyKey logicalScanRunId = (do
      let _ ← requirePortfolioMutation d plan.portfolioId access
      raiseIf (decide (run.rotationPlanId ≠ plan.rotationPlanId ∨ run.portfolioId ≠ plan.portfolioId)) .valueError
        "strategy run must belong to the supplied rotation plan"
      requireOpenScan d access w plan logicalScanRunId
      pure (run,storing w plan run idempotencyKey logicalScanRunId)) := by
  simp only [recordOrGet,free]
  cases logicalScanRunId with
  | none => rfl
  | some scanId =>
    simp only [requireOpenScan,bind_assoc]
    rfl

def getState (rotationPlanId : UUID) : Except PyError RecommendationStateRecord :=
  match w.records rotationPlanId with
  | none => raise .notFoundForActor "recommendation state was not found for actor"
  | some record => do
    let _ ← requirePortfolioRead d record.portfolioId access
    pure record

-- record_transition with the two parts of the fence as a caller may give them.
def transition (plan : RotationPlan) (previous : RecommendationStateRecord) (next : RecommendationState × Bool)
    (changedAt : Instant) (finalizationStrategyRunId : Option UUID) (finalizationStrategyKey : Option Digest) :
    Except PyError (RecommendationStateRecord × Stores) := do
  let _ ← requirePortfolioMutation d plan.portfolioId access
  match w.records plan.rotationPlanId with
  | none => raise .notFoundForActor "recommendation state was not found for actor"
  | some stored => do
    raiseIf (decide (previous ≠ stored)) .idempotencyConflictError
      "recommendation state changed before transition could persist"
    raiseIf (decide (previous.portfolioId ≠ plan.portfolioId)) .valueError
      "recommendation state plan portfolio does not match"
    let updated ← RecommendationStateRecord.create
      {transitioned plan previous stored next changedAt none with finalizationStrategyRunId,finalizationStrategyKey}
    pure (updated,{w with records := update w.records plan.rotationPlanId (some updated)})

-- The coordinator gives both parts or neither.
theorem transition_fenced (plan : RotationPlan) (previous : RecommendationStateRecord) (next : RecommendationState × Bool)
    (changedAt : Instant) (fence : Option (UUID × Digest)) :
    recordTransition d access w plan previous next changedAt fence =
      transition d access w plan previous next changedAt (fence.map (·.1)) (fence.map (·.2)) := rfl

def getIntent (intentKey : Digest) : Except PyError ChildIntent :=
  match w.intentsByKey intentKey with
  | none => raise .notFoundForActor "child intent was not found for actor"
  | some intent => do
    let _ ← requirePortfolioRead d intent.portfolioId access
    pure intent

end Stores

-- The in-memory repositories of the portfolio-scoped aggregates. Positions keep the order of their insertion.
structure Repositories where
  positions : List Position
  plans : UUID → Option RotationPlan
  candidateGroupOwners : UUID → Option UUID
  positionPortfolios : UUID → Option UUID
  stores : Stores

namespace Repositories

-- positions[position_id] = position
def putPosition (positions : List Position) (position : Position) : List Position :=
  if positions.any (·.positionId == position.positionId) then
    positions.map fun stored => if stored.positionId = position.positionId then position else stored
  else positions ++ [position]

def findPosition (positions : List Position) (positionId : UUID) : Option Position :=
  positions.find? (·.positionId == positionId)

variable (d : Deployment) (access : AccessContext) (r : Repositories)

-- Another OPEN position is stored for the position's portfolio and instrument.
def secondOpen (position : Position) : Bool :=
  decide (position.status = .opened) && r.positions.any fun stored =>
    stored.status == .opened && stored.portfolioId == position.portfolioId &&
      stored.instrument == position.instrument && stored.positionId != position.positionId

def addPosition (position : Position) : Except PyError Repositories := do
  let _ ← requirePortfolioMutation d position.portfolioId access
  raiseIf (r.secondOpen position) .positionAlreadyOpenError
    "only one OPEN position is allowed for a portfolio/instrument pair"
  pure {r with positions := putPosition r.positions position}

def listPositions (portfolioId : UUID) : Except PyError (List Position) := do
  let _ ← requirePortfolioRead d portfolioId access
  pure (r.positions.filter (·.portfolioId == portfolioId))

def foreignGroup (planOwnerId : UUID) (plan : RotationPlan) : Bool :=
  plan.candidateGroupIds.any fun id => r.candidateGroupOwners id != some planOwnerId

def foreignPosition (plan : RotationPlan) : Bool :=
  (plan.sourcePositionIds ++ plan.protectedPositionIds).any fun id => r.positionPortfolios id != some plan.portfolioId

def addPlan (plan : RotationPlan) : Except PyError Repositories := do
  let planOwnerId ← requirePortfolioMutation d plan.portfolioId access
  raiseIf (r.foreignGroup planOwnerId plan) .planReferenceUnauthorizedError
    "candidate group belongs to another user or is unavailable"
  raiseIf (r.foreignPosition plan) .planReferenceUnauthorizedError
    "position belongs to another portfolio or is unavailable"
  pure {r with plans := update r.plans plan.rotationPlanId (some plan)}

def getPlan (rotationPlanId : UUID) : Except PyError RotationPlan :=
  match r.plans rotationPlanId with
  | none => raise .notFoundForActor "rotation plan was not found for actor"
  | some plan => do
    let _ ← requirePortfolioRead d plan.portfolioId access
    pure plan

end Repositories

-- The calls a caller can make of these repositories, with any arguments.
inductive Operation where
  | addPosition (position : Position)
  | getPosition (positionId : UUID)
  | listPositions (portfolioId : UUID)
  | addPlan (plan : RotationPlan)
  | getPlan (rotationPlanId : UUID)
  | getOrCreateState (plan : RotationPlan) (createdAt : Instant)
  | getState (rotationPlanId : UUID)
  | recordTransition (plan : RotationPlan) (previous : RecommendationStateRecord) (next : RecommendationState × Bool)
      (changedAt : Instant) (finalizationStrategyRunId : Option UUID) (finalizationStrategyKey : Option Digest)
  | createOrRecover (request : ScanLockRequest) (createdAt : Instant)
  | getByLockKey (request : ScanLockRequest)
  | getScan (logicalScanRunId : UUID)
  | recordAttempt (attempt : ScanAttempt)
  | listAttempts (logicalScanRunId : UUID)
  | attachFinalStrategyRun (logicalScanRunId : UUID) (plan : RotationPlan) (strategyRunId : UUID) (completedAt : Instant)
  | recordOrGetRun (plan : RotationPlan) (run : StrategyRun) (idempotencyKey : Digest) (logicalScanRunId : Option UUID)
  | getForLogicalScan (logicalScanRunId : UUID)
  | recordOrGetIntent (intent : ChildIntent)
  | getIntent (intentKey : Digest)
  | listIntents (strategyRunId : UUID)

inductive Reply where
  | done
  | position (position : Position)
  | positions (positions : List Position)
  | plan (plan : RotationPlan)
  | record (record : RecommendationStateRecord)
  | scan (scan : LogicalScanRun)
  | foundScan (scan : Option LogicalScanRun)
  | attempts (attempts : List ScanAttempt)
  | run (run : StrategyRun)
  | foundRun (run : Option StrategyRun)
  | intent (intent : ChildIntent)
  | intents (intents : List ChildIntent)

namespace Repositories
variable (d : Deployment) (access : AccessContext) (r : Repositories)

-- An operation of the stores within the repositories.
def within (answer : α → Reply) (outcome : Except PyError (α × Stores)) : Except PyError (Reply × Repositories) :=
  outcome.map fun (value,stores) => (answer value,{r with stores})

def reading (answer : α → Reply) (outcome : Except PyError α) : Except PyError (Reply × Repositories) :=
  outcome.map fun value => (answer value,r)

def perform : Operation → Except PyError (Reply × Repositories)
  | .addPosition position => (r.addPosition d access position).map fun r' => (.done,r')
  | .getPosition positionId => reading r .position (getPosition d access (findPosition r.positions) positionId)
  | .listPositions portfolioId => reading r .positions (r.listPositions d access portfolioId)
  | .addPlan plan => (r.addPlan d access plan).map fun r' => (.done,r')
  | .getPlan rotationPlanId => reading r .plan (r.getPlan d access rotationPlanId)
  | .getOrCreateState plan createdAt => within r .record (r.stores.getOrCreateState d access plan createdAt)
  | .getState rotationPlanId => reading r .record (r.stores.getState d access rotationPlanId)
  | .recordTransition plan previous next changedAt runId key =>
    within r .record (r.stores.transition d access plan previous next changedAt runId key)
  | .createOrRecover request createdAt => within r .scan (r.stores.createOrRecover d access request createdAt)
  | .getByLockKey request => reading r .foundScan (r.stores.getByLockKey d access request)
  | .getScan scanId => reading r .scan (r.stores.getScan d access scanId)
  | .recordAttempt attempt =>
    within r (fun _ => .done) ((r.stores.recordAttempt d access attempt).map fun stores => ((),stores))
  | .listAttempts scanId => reading r .attempts (r.stores.listAttempts d access scanId)
  | .attachFinalStrategyRun scanId plan runId completedAt =>
    within r .scan (r.stores.attachFinalStrategyRun d access scanId plan runId completedAt)
  | .recordOrGetRun plan run key scanId => within r .run (r.stores.recordOrGet d access plan run key scanId)
  | .getForLogicalScan scanId => reading r .foundRun (r.stores.getForLogicalScan d access scanId)
  | .recordOrGetIntent intent => within r .intent (r.stores.recordOrGetIntent d access intent)
  | .getIntent intentKey => reading r .intent (r.stores.getIntent d access intentKey)
  | .listIntents runId => reading r .intents (r.stores.listIntents d access runId)

-- The state after a call: every check of a call comes before the first write of it.
def after (operation : Operation) : Repositories :=
  match r.perform d access operation with
  | .ok (_,next) => next
  | .error _ => r

-- uuid4 as the next call draws it.
def drawing (fresh : UUID) : Repositories := {r with stores := {r.stores with nextUuid := fresh}}

-- Repositories as they are constructed.
def constructed (candidateGroupOwners positionPortfolios : UUID → Option UUID) : Repositories where
  positions := []
  plans := fun _ => none
  candidateGroupOwners := candidateGroupOwners
  positionPortfolios := positionPortfolios
  stores := .initial (fun _ => none) 0

-- States that permitted calls of any actors in any order lead to; uuid4 repeats no id of a scan.
inductive Leads (d : Deployment) (permitted : Repositories → AccessContext → Operation → Prop) (r : Repositories) :
    Repositories → Prop where
  | here : Leads d permitted r r
  | call {r' : Repositories} (access : AccessContext) (operation : Operation) (fresh : UUID) : Leads d permitted r r' →
      permitted (r'.drawing fresh) access operation → r'.stores.scansById fresh = none →
      Leads d permitted r ((r'.drawing fresh).after d access operation)

def Always (_ : Repositories) (_ : AccessContext) (_ : Operation) : Prop := True

def Reached (d : Deployment) (permitted : Repositories → AccessContext → Operation → Prop) (r : Repositories) : Prop :=
  ∃ candidateGroupOwners positionPortfolios, Leads d permitted (constructed candidateGroupOwners positionPortfolios) r

end Repositories

end SwapMonitor
