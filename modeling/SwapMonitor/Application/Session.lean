import SwapMonitor.Persistence.InMemory
import SwapMonitor.Interleaving.Pool
import SwapMonitor.Interleaving.Journal

namespace SwapMonitor
open Interleaving

inductive TriggerSource where
  | api | scheduler
  deriving DecidableEq, Repr

inductive RunDisposition where
  | completed | apiConflict | schedulerSkipped | degraded | superseded | failed | retryExhausted
  deriving DecidableEq, Repr

-- A session date that is no ISO date is none; the request handed to the provider is opaque.
structure RunCoordinatorRequest where
  plan : RotationPlan
  configurationSnapshot : ConfigurationSnapshotRef
  marketSessionDate : Option Date
  scanWindowStart : Instant
  scanInterval : String
  marketTimezone : String
  accessContext : AccessContext
  triggerSource : TriggerSource
  correlationId : String
  nonblank : blank scanInterval = false ∧ blank marketTimezone = false ∧ blank correlationId = false

def RunCoordinatorRequest.scanLockRequest (d : Deployment) (r : RunCoordinatorRequest) :
    Except PyError ScanLockRequest :=
  match r.marketSessionDate with
  | none => raise .valueError "market_session_date must be an ISO date"
  | some date => do
    let identity : ScanIdentity := ⟨r.plan.rotationPlanId,date,r.scanWindowStart,r.scanInterval,
      r.configurationSnapshot.contentHash,r.marketTimezone⟩
    identity.postInit d
    pure ⟨r.plan,identity⟩

-- The constructor arguments of the coordinator that no scan writes.
structure Coordinator where
  deployment : Deployment
  rotationPlans : UUID → Option RotationPlan
  configurationSnapshots : UUID → Option PersistedConfigurationSnapshot
  maxProviderAttempts : Nat
  positive : 1 ≤ maxProviderAttempts

-- What a call did to the shared stores or learned from them, as far as it matters later.
inductive Fact where
  | acquired (lease : LockLease)
  | released
  | scanCreated (scan : LogicalScanRun)
  | attemptRecorded (attempt : ScanAttempt)
  | providerCalled
  | stateCreated (record : RecommendationStateRecord)
  | evaluatedFrom (record : RecommendationStateRecord)
  | positionRead (positionId : UUID) (position : Position)
  | runStored (stored : StoredRun)
  | adjudicated (current : RecommendationStateRecord)
  | transitioned (previous updated : RecommendationStateRecord)
  | intentStored (intent : ChildIntent)
  | completed (scan : LogicalScanRun)
  | failed (error : PyError)

abbrev Log := List (Entry Digest Fact)

structure World where
  stores : Stores
  journal : Log

inductive Interruption where
  | fails (className message : String)
  | abandons
  deriving DecidableEq, Repr

def Interruption.error : Interruption → PyError
  | .fails className message => ⟨.operationFailed className,message⟩
  | .abandons => ⟨.abandoned,""⟩

-- An operation may be interrupted before it takes effect or after.
inductive Fault where
  | none
  | before (cause : Interruption)
  | after (cause : Interruption)
  deriving DecidableEq, Repr

-- Anything but a MarketDataSnapshot, or a RotationEvaluation, is no answer.
inductive Answer (α : Type) where
  | raised
  | invalid
  | value (answer : α)

-- What the surroundings choose at one step.
structure Input where
  fault : Fault
  now : Instant
  provider : Answer MarketDataSnapshot
  evaluator : Answer RotationEvaluation
  positions : UUID → Option Position

abbrev Run := Program World Input PyError

-- One call of run that got as far as its scan lock request.
structure Session where
  self : Coordinator
  thread : Nat
  request : RunCoordinatorRequest
  scanRequest : ScanLockRequest

namespace Session
variable {β : Type} (s : Session)

def d : Deployment := s.self.deployment
def access : AccessContext := s.request.accessContext
def scanLockKey : Digest := s.scanRequest.key s.d

-- The facts of one operation, newest first.
def note (facts : List Fact) (journal : Log) : Log :=
  facts.map (fun fact => ⟨some s.thread,s.scanLockKey,fact⟩) ++ journal

abbrev Operation (β : Type) := Input → Stores → Except PyError (β × Stores × List Fact)

def outcome (op : Operation β) (input : Input) (w : World) : Except PyError β × World :=
  match op input w.stores,input.fault with
  | .ok (value,stores,facts),.none => (.ok value,⟨stores,s.note facts w.journal⟩)
  | .ok (_,stores,facts),.after cause =>
    (.error cause.error,⟨stores,s.note (.failed cause.error :: facts) w.journal⟩)
  | .error error,.none => (.error error,⟨w.stores,s.note [.failed error] w.journal⟩)
  | .error error,.after _ => (.error error,⟨w.stores,s.note [.failed error] w.journal⟩)
  | _,.before cause => (.error cause.error,⟨w.stores,s.note [.failed cause.error] w.journal⟩)

-- One repository operation is one act, with the clock and the fresh ids it is called with.
def perform (op : Operation β) : Run β :=
  .act (fun input w => (s.outcome op input w).2) fun input w => .done (s.outcome op input w).1

def read (op : Stores → Except PyError β) : Run β :=
  s.perform fun _ w => do
    let value ← op w
    pure (value,w,[])

end Session

-- An operation before the scan lock: it reads what no scan writes.
def consult {β : Type} (op : Except PyError β) : Run β :=
  .act (fun _ w => w) fun input _ =>
    match input.fault with
    | .none => .done op
    | .before cause => .done (.error cause.error)
    | .after cause => .done (.error cause.error)

end SwapMonitor
