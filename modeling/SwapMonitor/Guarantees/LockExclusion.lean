import SwapMonitor.Guarantees.RecoveryLogs
import SwapMonitor.Persistence.ScanLocks

namespace SwapMonitor.Locks
open Repositories (Mutable)

variable {d : Deployment} {p : InMemoryLockProvider} {log : LockLog}

-- The dictionaries name one another, and hold what is outstanding.
structure OneToOne (log : LockLog) (p : InMemoryLockProvider) : Prop where
  outstanding : ∀ key lease, p.leases key = some lease ↔ lease.key = key ∧ ∃ portfolioId, (lease,portfolioId) ∈ outstanding log
  single : ∀ a b, a ∈ Locks.outstanding log → b ∈ Locks.outstanding log → a.1.key = b.1.key → a = b
  keys : ∀ leaseId key, p.leaseKeys leaseId = some key ↔ p.leases key = some ⟨leaseId,key⟩
  portfolios : ∀ leaseId, (p.leasePortfolios leaseId).isSome = (p.leaseKeys leaseId).isSome

theorem kept_paired (kept : Kept log p) : OneToOne log p := by
  refine ⟨kept.byKey,fun a b left right same => outstanding_unique kept left right (.inr same),?_,?_⟩
  · intro leaseId key
    rw [kept.keys,kept.byKey]
    exact (and_iff_right rfl).symm
  · intro leaseId
    rw [Bool.eq_iff_iff,Option.isSome_iff_exists,Option.isSome_iff_exists]
    simp only [kept.portfolios,kept.keys]
    exact exists_comm

-- What every call does at a point of a run.
structure Excluding (d : Deployment) (log : LockLog) (p : InMemoryLockProvider) : Prop where
  refuses : ∀ access request leaseId, (∃ error, (p.call d (.acquire access request leaseId)).1 = .error error) ↔
    ¬Mutable d access request.plan.portfolioId
  declines : ∀ access request leaseId, (p.call d (.acquire access request leaseId)).1 = .ok none ↔
    Mutable d access request.plan.portfolioId ∧ (p.leases (request.key d)).isSome = true
  frees : ∀ access lease, ((p.leases lease.key).isSome = true ∧ (p.call d (.release access lease)).2.leases lease.key = none) ↔
    ∃ portfolioId, (lease,portfolioId) ∈ outstanding log ∧ Mutable d access portfolioId
  stale : ∀ access lease, (∀ portfolioId, (lease,portfolioId) ∉ outstanding log) → (p.call d (.release access lease)).2 = p
  raised : ∀ call error, (p.call d call).1 = .error error → (p.call d call).2 = p
  declined : ∀ access request leaseId, (p.call d (.acquire access request leaseId)).1 = .ok none →
    (p.call d (.acquire access request leaseId)).2 = p

theorem kept_excluding (kept : Kept log p) : Excluding d log p := by
  refine ⟨?_,?_,?_,?_,?_,?_⟩
  · intro access request leaseId
    rcases acquire_cases d access p request leaseId with ⟨denied,error,called⟩ | ⟨allowed,_,called⟩ | ⟨allowed,_,called⟩
    · rw [called]
      exact iff_of_true ⟨error,rfl⟩ denied
    · rw [called]
      exact iff_of_false (fun ⟨_,raised⟩ => nomatch raised) (not_not.mpr allowed)
    · rw [called]
      exact iff_of_false (fun ⟨_,raised⟩ => nomatch raised) (not_not.mpr allowed)
  · intro access request leaseId
    rcases acquire_cases d access p request leaseId with ⟨denied,error,called⟩ | ⟨allowed,held,called⟩ | ⟨_,free,called⟩
    · rw [called]
      exact iff_of_false (fun returned => nomatch returned) fun ⟨allowed,_⟩ => denied allowed
    · rw [called]
      exact iff_of_true rfl ⟨allowed,held⟩
    · rw [called]
      refine iff_of_false (fun returned => nomatch returned) ?_
      rw [free]
      exact fun ⟨_,held⟩ => nomatch held
  · intro access lease
    rcases release_cases d access p lease with ⟨unknown,called⟩ | ⟨portfolioId,known,⟨denied,error,called⟩ | ⟨⟨allowed,keyed⟩,called⟩⟩
    · rw [called]
      refine iff_of_false ?_ ?_
      · intro ⟨held,free⟩
        rw [free] at held
        cases held
      · intro ⟨portfolioId,member,_⟩
        exact unknown_outstanding kept unknown _ member rfl
    · rw [called]
      refine iff_of_false ?_ ?_
      · intro ⟨held,free⟩
        rw [free] at held
        cases held
      · intro ⟨portfolioId',member,allowed⟩
        have own := (kept.portfolios lease.leaseId portfolioId').mpr ⟨lease.key,member⟩
        obtain rfl : portfolioId = portfolioId' := Option.some.inj (known.symm.trans own)
        exact denied ⟨allowed,(kept.keys lease.leaseId lease.key).mpr ⟨portfolioId,member⟩⟩
    · rw [called]
      have member := known_outstanding kept known keyed
      refine iff_of_true ⟨?_,?_⟩ ⟨portfolioId,member,allowed⟩
      · rw [(kept.byKey lease.key lease).mpr ⟨rfl,portfolioId,member⟩]
        rfl
      · exact Function.update_self ..
  · intro access lease stale
    rcases release_cases d access p lease with ⟨_,called⟩ | ⟨portfolioId,known,⟨_,error,called⟩ | ⟨⟨_,keyed⟩,_⟩⟩
    · rw [called]
    · rw [called]
    · exact absurd (known_outstanding kept known keyed) (stale portfolioId)
  · intro call error raised
    cases call with
    | acquire access request leaseId =>
      rcases acquire_cases d access p request leaseId with ⟨_,_,called⟩ | ⟨_,_,called⟩ | ⟨_,_,called⟩
      · rw [called]
      · rw [called]
      · rw [called] at raised
        cases raised
    | release access lease =>
      rcases release_cases d access p lease with ⟨_,called⟩ | ⟨portfolioId,_,⟨_,_,called⟩ | ⟨_,called⟩⟩
      · rw [called]
      · rw [called]
      · rw [called] at raised
        cases raised
  · intro access request leaseId declined
    rcases acquire_cases d access p request leaseId with ⟨_,_,called⟩ | ⟨_,_,called⟩ | ⟨_,_,called⟩
    · rw [called]
    · rw [called]
    · rw [called] at declined
      cases declined

-- At every point of every run of calls.
theorem locks_exclude (runs : Runs d log p) : OneToOne log p ∧ Excluding d log p :=
  ⟨kept_paired (runs_kept runs),kept_excluding (runs_kept runs)⟩

def stranger : AccessContext := ⟨8,false⟩

def heldLocks : InMemoryLockProvider := (InMemoryLockProvider.empty.call sampleDeployment (.acquire ⟨7,false⟩ Repositories.sampleLock 20)).2

def heldLog : LockLog := [(.acquire ⟨7,false⟩ Repositories.sampleLock 20,.ok (some ⟨20,Repositories.sampleLock.key sampleDeployment⟩))]

theorem held_runs : Runs sampleDeployment heldLog heldLocks :=
  @Runs.step sampleDeployment _ _ (.acquire ⟨7,false⟩ Repositories.sampleLock 20) .start (by simp [Fresh,issued])

theorem locks_exclude_sample : OneToOne heldLog heldLocks ∧ Excluding sampleDeployment heldLog heldLocks := locks_exclude held_runs

-- A stranger who asks for a key that is held is refused with an error, and a release that frees a key returns nothing too.
theorem stranger_refused :
    ¬((heldLocks.call sampleDeployment (.acquire stranger Repositories.sampleLock 21)).1 = .ok none ↔
      (heldLocks.leases (Repositories.sampleLock.key sampleDeployment)).isSome = true) ∧
    ¬∀ call, (heldLocks.call sampleDeployment call).1 = .ok none → (heldLocks.call sampleDeployment call).2 = heldLocks := by
  constructor
  · intro claimed
    exact nomatch claimed.mpr rfl
  · intro claimed
    have same := claimed (.release ⟨7,false⟩ ⟨20,Repositories.sampleLock.key sampleDeployment⟩) rfl
    have held := congrArg (fun locks => locks.leases (Repositories.sampleLock.key sampleDeployment)) same
    exact nomatch held

end SwapMonitor.Locks
