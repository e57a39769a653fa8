import SwapMonitor.Application.Held
import SwapMonitor.Persistence.AttemptLogs

namespace SwapMonitor
open Interleaving

-- A portfolio that is the one of the plan, if the plan is known.
def Filed (c : Coordinator) (planId portfolioId : UUID) : Prop :=
  ∀ plan, c.rotationPlans planId = some plan → portfolioId = plan.portfolioId

-- A final attempt that carries the evidence of a stored run.
structure Evidenced (d : Deployment) (s : StoredRun) (a : ScanAttempt) : Prop where
  key : a.finalStrategyKey = some (s.identity.key d)
  version : a.finalStrategyIdentityFormatVersion = some s.identity.formatVersion
  configuration : a.configurationSnapshot = some s.run.configurationSnapshot
  marketData : a.marketDataSnapshotId = some s.candidate.snapshot.snapshotId
  content : a.marketDataContentHash = some s.candidate.snapshot.contentHash

-- What a fact documents beside what makes it legal: everything a later call checks before it
-- takes over what an earlier one left.
def Documents (c : Coordinator) (e : Entry Digest Fact) (older : Log) : Prop :=
  match e.fact with
  | .scanCreated scan => scan.identity.key c.deployment = e.key ∧ Filed c scan.rotationPlanId scan.portfolioId
  | .completed completed => ∃ scan, (ledger e.key older).scan = some scan ∧ completed.identity = scan.identity ∧
      completed.portfolioId = scan.portfolioId
  | .attemptRecorded a => Stores.validateScanAttemptAppend (ledger e.key older).attempts a = .ok () ∧
      (a.status = .succeeded → ∃ s, (ledger e.key older).stored = some s ∧ Evidenced c.deployment s a)
  | .stateCreated record => Filed c record.rotationPlanId record.portfolioId
  | .transitioned _ updated => Filed c updated.rotationPlanId updated.portfolioId
  | _ => True

section Laws
variable {c : Coordinator} {seed : UUID → Option RecommendationStateRecord} {j : Log} {key : Digest}

end Laws

-- The journal documents what it should, attempt ids were drawn, and a held lease is registered
-- under the portfolio of its scan's plan.
structure Documented (c : Coordinator) (w : World) : Prop where
  documents : Lawful (Documents c) w.journal
  drawn : ∀ e ∈ w.journal, ∀ a, e.fact = .attemptRecorded a → a.scanAttemptId < w.stores.nextUuid
  leased : ∀ key thread lease, (ledger key w.journal).holder = some (thread,lease) → ∃ identity : ScanIdentity,
    identity.key c.deployment = key ∧ ∃ portfolioId, w.stores.leasePortfolios lease.leaseId = some portfolioId ∧
      Filed c identity.rotationPlanId portfolioId

-- Attempts on a scan's books were entered in the journal.
theorem attempt_noted {key : Digest} {j : Log} {a : ScanAttempt} (present : a ∈ (ledger key j).attempts) :
    ∃ e ∈ j, e.fact = .attemptRecorded a := by
  induction j with
  | nil => cases present
  | cons e older ih =>
    rw [cons_attempts] at present
    cases known : e.fact with
    | attemptRecorded new =>
      simp only [known] at present
      split at present
      · rcases List.mem_append.mp present with old | newest
        · obtain ⟨e',entered,fact⟩ := ih old
          exact ⟨e',List.mem_cons_of_mem e entered,fact⟩
        · cases List.mem_singleton.mp newest
          exact ⟨e,List.mem_cons_self,known⟩
      · obtain ⟨e',entered,fact⟩ := ih present
        exact ⟨e',List.mem_cons_of_mem e entered,fact⟩
    | _ =>
      simp only [known] at present
      obtain ⟨e',entered,fact⟩ := ih present
      exact ⟨e',List.mem_cons_of_mem e entered,fact⟩

theorem Documented.fresh {c : Coordinator} {w : World} (documented : Documented c w) {key : Digest} {a : ScanAttempt}
    (present : a ∈ (ledger key w.journal).attempts) : a.scanAttemptId ≠ w.stores.nextUuid := by
  obtain ⟨e,entered,fact⟩ := attempt_noted present
  exact Nat.ne_of_lt (documented.drawn e entered a fact)

section Steps
variable {c : Coordinator} {w w' : Stores} {j : Log} {e : Entry Digest Fact}

-- One more fact over stores that left the leases alone.
theorem Documented.noted (documented : Documented c ⟨w,j⟩) (later : w.nextUuid ≤ w'.nextUuid)
    (leases : w'.leasePortfolios = w.leasePortfolios) (told : Documents c e j)
    (drawn : ∀ a, e.fact = .attemptRecorded a → a.scanAttemptId < w'.nextUuid)
    (holder : ∀ key, (ledger key (e :: j)).holder = (ledger key j).holder) : Documented c ⟨w',e :: j⟩ := by
  refine ⟨⟨told,documented.documents⟩,?_,?_⟩
  · intro e' present a fact
    rcases List.mem_cons.mp present with rfl | old
    · exact drawn a fact
    · exact Nat.lt_of_lt_of_le (documented.drawn e' old a fact) later
  · intro key thread lease held
    rw [holder] at held
    obtain ⟨identity,keyed,portfolioId,registered,filed⟩ := documented.leased key thread lease held
    exact ⟨identity,keyed,portfolioId,leases ▸ registered,filed⟩

theorem Documented.quietly (documented : Documented c ⟨w,j⟩) (quiet : e.fact.quiet = true) : Documented c ⟨w,e :: j⟩ := by
  refine documented.noted (Nat.le_refl _) rfl ?_ ?_ ?_
  · cases known : e.fact <;> simp_all [Documents,Fact.quiet]
  · intro a fact
    rw [fact] at quiet
    cases quiet
  · intro key
    rw [cons_holder]
    cases known : e.fact <;> simp_all [Fact.quiet]

end Steps
end SwapMonitor
