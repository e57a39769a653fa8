import SwapMonitor.Persistence.AttemptLogs
import Mathlib.Data.List.Forall2

namespace SwapMonitor

-- A tenant acts in no administrator's role.
def tenant (userId : UUID) : AccessContext := ⟨userId,false⟩

def Owned (d : Deployment) (userId portfolioId : UUID) : Prop := d.portfolioOwners portfolioId = some userId

-- What the stores keep records under; the intents of a run are listed under its id.
inductive Identifier where
  | position (positionId : UUID)
  | plan (rotationPlanId : UUID)
  | state (rotationPlanId : UUID)
  | scan (logicalScanRunId : UUID)
  | lock (scanLockKey : Digest)
  | runKey (rotationPlanId : UUID) (idempotencyKey : Digest)
  | run (strategyRunId : UUID)
  | intent (intentKey : Digest)
  | intentsOf (strategyRunId : UUID)
  deriving DecidableEq

section Access
variable {d : Deployment} {userId other portfolioId : UUID}

theorem tenant_reads (owned : Owned d userId portfolioId) : requirePortfolioRead d portfolioId (tenant userId) = .ok userId := by
  unfold Owned at owned
  simp [requirePortfolioRead,portfolioOwner,owned,tenant,AccessContext.requireRead,AccessContext.canRead,raiseIf,Bind.bind,
    Except.bind,Pure.pure,Except.pure]

theorem tenant_denied (owned : Owned d userId portfolioId) (apart : other ≠ userId) :
    requirePortfolioRead d portfolioId (tenant other) = raise .notFoundForActor "resource was not found for actor" := by
  unfold Owned at owned
  simp [requirePortfolioRead,portfolioOwner,owned,tenant,AccessContext.requireRead,AccessContext.canRead,raiseIf,Bind.bind,
    Except.bind,raise,apart.symm]

theorem readable_owned {owner : UUID} (allowed : requirePortfolioRead d portfolioId (tenant userId) = .ok owner) :
    Owned d userId portfolioId := by
  cases owners : d.portfolioOwners portfolioId with
  | none => simp [requirePortfolioRead,portfolioOwner,owners,raise,Bind.bind,Except.bind] at allowed
  | some found =>
    by_cases mine : found = userId
    · rw [Owned,owners,mine]
    · rw [tenant_denied owners (Ne.symm mine)] at allowed
      cases allowed

theorem mutable_owned (mutable : Repositories.Mutable d (tenant userId) portfolioId) : Owned d userId portfolioId := by
  obtain ⟨owner,allowed⟩ := mutable
  rw [Repositories.mutation_read] at allowed
  exact readable_owned allowed

theorem owned_apart (owned : Owned d userId portfolioId) (apart : other ≠ userId) : ¬Owned d other portfolioId := by
  intro both
  unfold Owned at owned both
  rw [owned] at both
  cases both
  exact apart rfl

end Access

-- The identifiers a call names.
def Operation.names (d : Deployment) : Operation → List Identifier
  | .addPosition position => [.position position.positionId]
  | .getPosition positionId => [.position positionId]
  | .listPositions _ => []
  | .addPlan plan => [.plan plan.rotationPlanId]
  | .getPlan rotationPlanId => [.plan rotationPlanId]
  | .getOrCreateState plan _ | .recordTransition plan _ _ _ _ _ => [.state plan.rotationPlanId]
  | .getState rotationPlanId => [.state rotationPlanId]
  | .createOrRecover request _ | .getByLockKey request => [.lock (request.key d)]
  | .getScan scanId | .listAttempts scanId | .attachFinalStrategyRun scanId _ _ _ | .getForLogicalScan scanId => [.scan scanId]
  | .recordAttempt attempt => [.scan attempt.logicalScanRunId]
  | .recordOrGetRun plan run key scanId =>
    [.runKey plan.rotationPlanId key,.run run.strategyRunId] ++ (scanId.map .scan).toList
  | .recordOrGetIntent intent => [.run intent.strategyRunId,.intent intent.intentKey]
  | .getIntent intentKey => [.intent intentKey]
  | .listIntents strategyRunId => [.intentsOf strategyRunId]

-- A caller's previous record is one of the plan's portfolio.
def Operation.Own : Operation → Prop
  | .recordTransition plan previous _ _ _ _ => previous.portfolioId = plan.portfolioId
  | _ => True

namespace Repositories
variable (d : Deployment) (r : Repositories)

-- The identifiers a call may store something under.
def storesUnder : Operation → List Identifier
  | .addPosition position => [.position position.positionId]
  | .addPlan plan => [.plan plan.rotationPlanId]
  | .getOrCreateState plan _ => [.state plan.rotationPlanId]
  | .createOrRecover request _ => [.lock (request.key d),.scan r.stores.nextUuid]
  | .recordOrGetRun plan run key _ => [.runKey plan.rotationPlanId key,.run run.strategyRunId]
  | .recordOrGetIntent intent => [.intent intent.intentKey,.intentsOf intent.strategyRunId]
  | _ => []

-- How many records are stored under an identifier: one or none, and as many intents as are listed.
def recordsUnder : Identifier → Nat
  | .position positionId => (findPosition r.positions positionId).isSome.toNat
  | .plan rotationPlanId => (r.plans rotationPlanId).isSome.toNat
  | .state rotationPlanId => (r.stores.records rotationPlanId).isSome.toNat
  | .scan scanId => (r.stores.scansById scanId).isSome.toNat
  | .lock key => (r.stores.scansByKey key).isSome.toNat
  | .runKey rotationPlanId key => (r.stores.runsByKey (rotationPlanId,key)).isSome.toNat
  | .run strategyRunId => (r.stores.runsById strategyRunId).isSome.toNat
  | .intent key => (r.stores.intentsByKey key).isSome.toNat
  | .intentsOf strategyRunId => (r.stores.intentKeysByStrategyRun strategyRunId).length

-- The identifiers under which a call that led to the other repositories was the first to store its
-- record, and the run whose list of intents it made longer. A call that is refused takes none.
def taken (r' : Repositories) (operation : Operation) : List Identifier :=
  (r.storesUnder d operation).filter fun identifier => decide (r.recordsUnder identifier < r'.recordsUnder identifier)

end Repositories

end SwapMonitor
