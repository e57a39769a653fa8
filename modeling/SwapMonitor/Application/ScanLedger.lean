import SwapMonitor.Application.Session

namespace SwapMonitor
open Interleaving

-- How far the call that holds a scan's lease has come with the plan's recommendation.
inductive Phase where
  | idle
  | evaluated (source : RecommendationStateRecord)
  | adjudicated (current : RecommendationStateRecord)
  | written

-- The abstract state of one logical scan: who may write about it, and what was written.
structure ScanLedger where
  holder : Option (Nat × LockLease) := none
  scan : Option LogicalScanRun := none
  attempts : List ScanAttempt := []
  provided : Nat := 0
  positions : List (UUID × Position) := []
  stored : Option StoredRun := none
  author : Option Nat := none
  phase : Phase := .idle
  intents : List ChildIntent := []
  broken : Bool := false

def ScanLedger.enter (L : ScanLedger) (actor : Option Nat) : Fact → ScanLedger
  | .acquired lease => {L with holder := actor.map (·,lease),phase := .idle,positions := []}
  | .released => {L with holder := none,phase := .idle}
  | .scanCreated scan => {L with scan := some scan}
  | .attemptRecorded attempt => {L with attempts := L.attempts ++ [attempt]}
  | .providerCalled => {L with provided := L.provided + 1}
  | .stateCreated _ => L
  | .evaluatedFrom record => {L with phase := .evaluated record}
  | .positionRead positionId position => {L with positions := (positionId,position) :: L.positions}
  | .runStored stored => {L with stored := some stored,author := actor}
  | .adjudicated current => {L with phase := .adjudicated current}
  | .transitioned _ updated => if updated.finalizationStrategyRunId.isSome then {L with phase := .written} else L
  | .intentStored intent => {L with intents := L.intents ++ [intent]}
  | .completed scan => {L with scan := some scan}
  -- An operation of a call without the lease breaks nothing.
  | .failed _ => if actor = L.holder.map (·.1) then {L with broken := true} else L

def ledger (key : Digest) (j : Log) : ScanLedger := view {} ScanLedger.enter key j

@[simp] theorem ledger_nil (key : Digest) : ledger key [] = {} := rfl

theorem ledger_same (key : Digest) (actor : Option Nat) (fact : Fact) (older : Log) :
    ledger key (⟨actor,key,fact⟩ :: older) = (ledger key older).enter actor fact := view_same _ _ _ _ _ _

theorem ledger_other {key : Digest} {e : Entry Digest Fact} (older : Log) (other : e.key ≠ key) :
    ledger key (e :: older) = ledger key older := view_other _ _ _ other

-- The record a fact leaves behind.
def Fact.record : Fact → Option RecommendationStateRecord
  | .stateCreated record => some record
  | .transitioned _ updated => some updated
  | _ => none

-- The plan's recommendation record, from the seed an earlier process may have left.
def recordOf (seed : UUID → Option RecommendationStateRecord) (planId : UUID) :
    Log → Option RecommendationStateRecord
  | [] => seed planId
  | e :: older =>
    match e.fact.record with
    | some record => if record.rotationPlanId = planId then some record else recordOf seed planId older
    | none => recordOf seed planId older

theorem record_cons (seed : UUID → Option RecommendationStateRecord) (planId : UUID) (e : Entry Digest Fact)
    (older : Log) : recordOf seed planId (e :: older) = match e.fact.record with
      | some record => if record.rotationPlanId = planId then some record else recordOf seed planId older
      | none => recordOf seed planId older := rfl

-- The call is the one that holds the scan's lease.
def Holds (actor : Option Nat) (L : ScanLedger) : Prop :=
  ∃ thread lease, actor = some thread ∧ L.holder = some (thread,lease)

def ScanLedger.completed (L : ScanLedger) : Prop := ∃ scan, L.scan = some scan ∧ scan.status = .completed

def ScanLedger.running (L : ScanLedger) : Nat := L.attempts.countP fun attempt => attempt.status == .running

-- The three ways a record can lie when a stored run is adjudicated: it carries the run's own
-- write, it is back at the pair the run started from, or neither.
def Fenced (s : StoredRun) (current : RecommendationStateRecord) : Prop :=
  current.pair = s.next ∧ current.finalizationStrategyRunId = some s.run.strategyRunId ∧
    current.finalizationStrategyKey = some s.candidate.finalStrategyKey

def Returned (s : StoredRun) (current : RecommendationStateRecord) : Prop :=
  current.pair = s.previous ∧ s.previous ≠ s.next

def Lost (s : StoredRun) (current : RecommendationStateRecord) : Prop :=
  ¬ Fenced s current ∧ ¬ Returned s current

-- The claim a migration left for a candidate from before the fences.
def Claimed (current : RecommendationStateRecord) : Prop := current.legacyFinalizationClaimStatus = .claimed

-- A stored run is finished, or the call that should have finished it was interrupted.
def Settled (L : ScanLedger) : Prop := L.stored.isSome → L.completed ∨ L.broken = true

-- Nothing a migration claimed is in the store to begin with.
def Unclaimed (seed : UUID → Option RecommendationStateRecord) : Prop :=
  ∀ planId record, seed planId = some record → ¬ Claimed record

-- A seeded record is filed under its own plan.
def Seeded (seed : UUID → Option RecommendationStateRecord) : Prop :=
  ∀ planId record, seed planId = some record → record.rotationPlanId = planId

-- The intent a notifying run is entitled to.
def intentOf (d : Deployment) (s : StoredRun) : ChildIntent :=
  buildChildIntent d (d.uuid5 (s.identity.key d) s.run.strategyRunId) s.candidate.plan.rotationPlanId
    s.candidate.plan.portfolioId s.run.strategyRunId (s.identity.key d) .notification s.run.occurredAt

structure LegalAttempt (c : Coordinator) (L : ScanLedger) (a : ScanAttempt) : Prop where
  created : L.scan.isSome
  running : a.status = .running → L.stored = none ∧ L.running < c.maxProviderAttempts
  final : ∀ id, a.finalStrategyRunId = some id → ∃ s, L.stored = some s ∧ s.run.strategyRunId = id
  decided : a.status = .succeeded → a.finalizationDisposition.isSome ∧ a.finalStrategyRunId.isSome
  succeeded : a.finalizationDisposition.isSome → a.status = .succeeded
  superseded : a.finalizationDisposition = some .superseded →
    ∃ s current, L.stored = some s ∧ L.phase = .adjudicated current ∧ Lost s current
  applied : a.finalizationDisposition = some .applied → ∃ s, L.stored = some s ∧
    (L.phase = .written ∨ ∃ current, L.phase = .adjudicated current ∧ Fenced s current) ∧
    (s.notifies = true → L.intents ≠ [])
  once : ∀ disposition, a.finalizationDisposition = some disposition → (∃ b ∈ L.attempts, b.status = .succeeded) →
    ∃ b ∈ L.attempts, b.status = .succeeded ∧ b.finalizationDisposition ≠ some disposition

-- The sale source a build was given is the one read for the evaluation, and was checked.
def SaleChecked (L : ScanLedger) (c : Candidate) : Prop :=
  (match c.evaluation.saleSourcePositionId with
    | none => c.saleSourcePosition = none
    | some positionId => ∃ position, c.saleSourcePosition = some position ∧
        (positionId,position) ∈ L.positions ∧ AuthorizedSource c.plan position) ∧
  (c.evaluation.event = .decisionValidated → c.evaluation.guards.sizingOutcome = .passed →
    ∃ position sizing, c.saleSourcePosition = some position ∧ c.evaluation.sizingResult = some sizing ∧
      sizing.actionable = true ∧ sizing.sourceSale.sourcePositionId = position.positionId ∧
      c.saleQuantity = some sizing.sourceSale.quantity)

structure LegalRun (c : Coordinator) (key : Digest) (older : Log) (s : StoredRun) : Prop where
  unstored : (ledger key older).stored = none
  created : ∃ scan, (ledger key older).scan = some scan ∧ scan.rotationPlanId = s.candidate.plan.rotationPlanId
  attempted : (ledger key older).attempts ≠ []
  phase : (ledger key older).phase = .evaluated s.source
  plan : c.rotationPlans s.candidate.plan.rotationPlanId = some s.candidate.plan
  scanned : s.candidate.scanLockKey = key
  keyed : s.Keyed c.deployment
  fresh : ∀ other s', (ledger other older).stored = some s' → s'.run.strategyRunId ≠ s.run.strategyRunId
  sale : SaleChecked (ledger key older) s.candidate

-- A degraded-data write: only before anything is evaluated, and without a fence.
def Degrades (c : Coordinator) (L : ScanLedger) (previous updated : RecommendationStateRecord) : Prop :=
  L.stored = none ∧ L.phase = .idle ∧ updated.finalizationStrategyRunId = none ∧
    ∃ plan outcome, c.rotationPlans plan.rotationPlanId = some plan ∧
      transitionDegradedData plan previous = .ok outcome ∧
      updated.pair = (outcome.nextState,outcome.remainingStagesHalted)

-- The write of a stored run, over the very record its adjudication read.
def Applies (L : ScanLedger) (previous updated : RecommendationStateRecord) : Prop :=
  ∃ s, L.stored = some s ∧ L.phase = .adjudicated previous ∧
    updated.rotationPlanId = s.candidate.plan.rotationPlanId ∧ updated.pair = s.next ∧
    updated.finalizationStrategyRunId = some s.run.strategyRunId ∧
    updated.finalizationStrategyKey = some s.candidate.finalStrategyKey ∧
    (Returned s previous ∨ previous.pair = s.next ∧ Claimed previous)

structure LegalWrite (c : Coordinator) (seed : UUID → Option RecommendationStateRecord) (key : Digest) (older : Log)
    (previous updated : RecommendationStateRecord) : Prop where
  current : recordOf seed updated.rotationPlanId older = some previous
  plan : previous.rotationPlanId = updated.rotationPlanId
  revision : updated.revision = previous.revision + 1
  status : updated.legacyFinalizationClaimStatus = previous.legacyFinalizationClaimStatus
  claimedRun : updated.legacyFinalizationStrategyRunId = previous.legacyFinalizationStrategyRunId
  claimedKey : updated.legacyFinalizationStrategyKey = previous.legacyFinalizationStrategyKey
  move : Degrades c (ledger key older) previous updated ∨ Applies (ledger key older) previous updated

structure LegalAdjudication (seed : UUID → Option RecommendationStateRecord) (key : Digest) (older : Log)
    (current : RecommendationStateRecord) : Prop where
  stored : ∃ s, (ledger key older).stored = some s ∧ recordOf seed s.candidate.plan.rotationPlanId older = some current
  unfinished : ¬ (ledger key older).completed
  undecided : ∀ a ∈ (ledger key older).attempts, a.finalizationDisposition ≠ some .applied
  first : (ledger key older).phase = .idle ∨ ∃ source, (ledger key older).phase = .evaluated source

structure LegalIntent (d : Deployment) (L : ScanLedger) (intent : ChildIntent) : Prop where
  owed : ∃ s, L.stored = some s ∧ s.notifies = true ∧ intent = intentOf d s ∧
    (L.phase = .written ∨ ∃ current, L.phase = .adjudicated current ∧ Fenced s current)
  first : L.intents = []

def LegalCompletion (L : ScanLedger) (completed : LogicalScanRun) : Prop :=
  ∃ scan s, L.scan = some scan ∧ scan.status = .running ∧ L.stored = some s ∧
    completed.logicalScanRunId = scan.logicalScanRunId ∧ completed.scanLockKey = scan.scanLockKey ∧
    completed.rotationPlanId = scan.rotationPlanId ∧ completed.status = .completed ∧ completed.finalStrategyRunId = some s.run.strategyRunId ∧
    ∃ a ∈ L.attempts, a.status = .succeeded

-- What each fact says of the state it was entered in. Everything but the attempt to get a
-- lease, and the failures of those who got none, is the holder's.
def LegalFact (c : Coordinator) (seed : UUID → Option RecommendationStateRecord) (e : Entry Digest Fact)
    (older : Log) : Fact → Prop
  | .acquired lease => (ledger e.key older).holder = none ∧ e.actor.isSome ∧ lease.key = e.key
  | .released => Holds e.actor (ledger e.key older) ∧ (Unclaimed seed → Settled (ledger e.key older))
  | .scanCreated scan => Holds e.actor (ledger e.key older) ∧ (ledger e.key older).scan = none ∧
      scan.status = .running ∧ scan.scanLockKey = e.key
  | .attemptRecorded a => Holds e.actor (ledger e.key older) ∧ LegalAttempt c (ledger e.key older) a
  | .providerCalled => Holds e.actor (ledger e.key older) ∧ (ledger e.key older).stored = none ∧
      (ledger e.key older).provided < (ledger e.key older).running
  | .stateCreated record => Holds e.actor (ledger e.key older) ∧
      recordOf seed record.rotationPlanId older = none ∧ record.legacyFinalizationClaimStatus = .notApplicable ∧
      record.finalizationStrategyRunId = none
  | .evaluatedFrom record => Holds e.actor (ledger e.key older) ∧ (ledger e.key older).stored = none ∧
      (ledger e.key older).phase = .idle ∧ recordOf seed record.rotationPlanId older = some record
  | .positionRead _ _ => Holds e.actor (ledger e.key older)
  | .runStored s => Holds e.actor (ledger e.key older) ∧ LegalRun c e.key older s
  | .adjudicated current => Holds e.actor (ledger e.key older) ∧ LegalAdjudication seed e.key older current
  | .transitioned previous updated => Holds e.actor (ledger e.key older) ∧
      LegalWrite c seed e.key older previous updated
  | .intentStored intent => Holds e.actor (ledger e.key older) ∧
      LegalIntent c.deployment (ledger e.key older) intent
  | .completed scan => Holds e.actor (ledger e.key older) ∧ LegalCompletion (ledger e.key older) scan
  | .failed _ => e.actor.isSome

-- A call writes about one scan only.
structure Legal (c : Coordinator) (seed : UUID → Option RecommendationStateRecord) (e : Entry Digest Fact)
    (older : Log) : Prop where
  single : ∀ other ∈ older, other.actor = e.actor → other.key = e.key
  fact : LegalFact c seed e older e.fact

end SwapMonitor
