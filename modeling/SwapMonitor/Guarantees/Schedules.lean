import SwapMonitor.Application.Histories

namespace SwapMonitor
open Interleaving

-- A schedule fixes every choice of the surroundings, so what it leads to can be computed.
section Replay
variable (c : Coordinator) (pool : Pool World Input PyError RunCoordinatorResult)
  (moves : List (Move RunCoordinatorRequest Input))

def Coordinator.replay : Pool World Input PyError RunCoordinatorResult := (schedule c.run pool moves).getD pool

theorem replay_reached : Reached c.run pool (c.replay pool moves) := by
  unfold Coordinator.replay
  cases ran : schedule c.run pool moves with
  | none => exact .initial
  | some last => exact schedule_reached ran

end Replay

-- What is asked of the record an adjudication reads.
def AskedOfAdjudicated (asked : RecommendationStateRecord → Prop) : Fact → Prop
  | .adjudicated current => asked current
  | _ => True

instance {asked : RecommendationStateRecord → Prop} [DecidablePred asked] (fact : Fact) : Decidable (AskedOfAdjudicated asked fact) := by
  cases fact <;> unfold AskedOfAdjudicated <;> infer_instance

-- Nothing in the store: fresh in-memory repositories.
def unseeded : UUID → Option RecommendationStateRecord := fun _ => none

theorem unseeded_seeded : Seeded unseeded := by intro _ _ h; cases h
theorem unseeded_unclaimed : Unclaimed unseeded := by intro _ _ h; cases h
theorem unseeded_unfenced : Unfenced unseeded := by intro _ _ h; cases h

def emptyPool : Pool World Input PyError RunCoordinatorResult := Coordinator.opening unseeded 100

-- A small deployment to replay schedules in: one plan with one source position.
def tenPieces : Quantity := ⟨.ofNat 10,by decide +kernel⟩

def samplePosition : Position where
  positionId := 4
  portfolioId := 2
  instrument := 8
  quantity := tenPieces
  role := .rotationSource
  status := .opened
  openedAt := 0
  closedAt := none
  positive := by decide +kernel
  history := trivial

-- The payloads of a replayed schedule differ in a window, a scan key or a content hash, and
-- have different digests.
def sampleDeployment : Deployment where
  sha256
    | .scanIdentity identity => identity.scanWindowStart.toNat * 3
    | .finalStrategy scanLockKey _ contentHash => (scanLockKey * 100 + contentHash) * 3 + 1
    | .childIntent finalStrategyKey _ => finalStrategyKey * 3 + 2
  uuid5 finalKey runId := finalKey * 1000 + runId
  zone := fun _ => some fun _ => 0
  portfolioOwners := fun _ => some 7

def sampleSnapshotRef : ConfigurationSnapshotRef := ⟨5,6,0⟩

def sampleCoordinator : Coordinator where
  deployment := sampleDeployment
  rotationPlans := fun _ => some samplePlan
  configurationSnapshots := fun _ => some ⟨sampleSnapshotRef,.system,1⟩
  maxProviderAttempts := 2
  positive := by decide

-- One call for the scan window that starts then.
def sampleRequest (window : Instant) : RunCoordinatorRequest :=
  ⟨samplePlan,sampleSnapshotRef,some 0,window,"5m","UTC",⟨7,false⟩,.api,"sample",by decide⟩

def sampleSizing : SizingResult := ⟨.actionable,true,⟨4,⟨.ofNat 10,by decide +kernel⟩⟩,rfl⟩

-- An evaluation of the given event, sized when the event is a decision.
def sampleEvaluation (event : RecommendationEvent) (guards : TransitionGuards) : RotationEvaluation where
  event := event
  guards := guards
  outputs := []
  saleSourcePositionId := some 4
  sizingResult := if event = .decisionValidated ∧ guards.sizingOutcome = .passed then some sampleSizing else none
  sized := by
    by_cases decides : event = .decisionValidated <;> by_cases passed : guards.sizingOutcome = .passed <;>
      simp [decides,passed]

def sampleInput (event : RecommendationEvent) (guards : TransitionGuards) : Input where
  fault := .none
  now := 0
  provider := .value ⟨9,true⟩
  evaluator := .value (sampleEvaluation event guards)
  positions := fun _ => some samplePosition

-- So many steps of one call.
def turns (thread : Nat) (count : Nat) (input : Input) : List (Move RunCoordinatorRequest Input) :=
  List.replicate count (.step thread input)

def activating : Input := sampleInput .planActivated {planIsValid := true}
def nearing : Input := sampleInput .nearSignal {ruleOutcome := .passed}
def acting : Input := sampleInput .actionSignal {ruleOutcome := .passed}
def deciding : Input := sampleInput .decisionValidated {sizingOutcome := .passed}

def recovering : Input := sampleInput .dataRecovered {dataOutcome := .freshFullEvaluation}
def pausing : Input := sampleInput .planPaused {authorizationIsValid := true}

-- Market data the coordinator may not act on.
def degrading : Input := {activating with provider := .value ⟨9,false⟩}

-- The call goes no further than its clean-up.
def abandoning (input : Input) : Input := {input with fault := .before .abandons}

-- What a finished call returned.
def returned (thread : Nat) (pool : Pool World Input PyError RunCoordinatorResult) : Option RunCoordinatorResult :=
  match pool.threads[thread]? with
  | some (.done (.ok r)) => some r
  | _ => none

theorem returned_exact {thread : Nat} {pool : Pool World Input PyError RunCoordinatorResult}
    {r : RunCoordinatorResult} : returned thread pool = some r ↔ pool.threads[thread]? = some (.done (.ok r)) := by
  unfold returned
  split
  · rename_i r' found
    rw [found]
    simp
  · rename_i other
    constructor
    · intro none'
      cases none'
    · exact fun found => absurd found (other r)

-- Four calls in a row, from an empty store to the notified decision.
def notifyingCalls : List (Move RunCoordinatorRequest Input) :=
  .start (sampleRequest 0) :: turns 0 21 activating ++ .start (sampleRequest 1) :: turns 1 21 nearing ++
    .start (sampleRequest 2) :: turns 2 21 acting ++ .start (sampleRequest 3) :: turns 3 22 deciding

def notifiedPool : Pool World Input PyError RunCoordinatorResult :=
  sampleCoordinator.replay emptyPool notifyingCalls

theorem notified_reached : Reached sampleCoordinator.run (Coordinator.opening unseeded 100) notifiedPool :=
  replay_reached sampleCoordinator emptyPool notifyingCalls

-- An entry that passes a test, and where it stands.
theorem entered {test : Fact → Bool} {j : Log} (found : j.any (fun e => test e.fact) = true) :
    ∃ newer actor key fact older, j = newer ++ ⟨actor,key,fact⟩ :: older ∧ test fact = true := by
  obtain ⟨⟨actor,key,fact⟩,present,passed⟩ := List.any_eq_true.mp found
  obtain ⟨newer,older,split⟩ := List.append_of_mem present
  exact ⟨newer,actor,key,fact,older,split,passed⟩

def Fact.storesRun (test : StoredRun → Bool) : Fact → Bool
  | .runStored s => test s
  | _ => false

def Fact.writes (test : RecommendationStateRecord → Bool) : Fact → Bool
  | .transitioned _ updated => test updated
  | _ => false

theorem stores_run {test : StoredRun → Bool} {fact : Fact} (stores : fact.storesRun test = true) :
    ∃ s, fact = .runStored s ∧ test s = true := by
  cases fact with
  | runStored s => exact ⟨s,rfl,stores⟩
  | _ => cases stores

theorem writes_record {test : RecommendationStateRecord → Bool} {fact : Fact} (writes : fact.writes test = true) :
    ∃ previous updated, fact = .transitioned previous updated ∧ test updated = true := by
  cases fact with
  | transitioned previous updated => exact ⟨previous,updated,rfl,writes⟩
  | _ => cases writes

end SwapMonitor
