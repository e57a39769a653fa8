import SwapMonitor.Application.DocumentedCalls
import SwapMonitor.Domain.TextForms

namespace SwapMonitor
open Interleaving

-- A computation that raises nothing.
def Succeeds (x : Except PyError α) : Prop := ∃ value, x = .ok value

theorem Succeeds.bind {x : Except PyError α} {f : α → Except PyError β} {value : α} (first : x = .ok value)
    (rest : Succeeds (f value)) : Succeeds (x >>= f) := by
  subst first
  exact rest

theorem Succeeds.check {condition : Bool} {kind : ErrorClass} {message : String} {f : Unit → Except PyError β}
    (passed : condition = false) (rest : Succeeds (f ())) : Succeeds (raiseIf condition kind message >>= f) :=
  Succeeds.bind ((raiseIf_ok ..).mpr passed) rest

theorem Succeeds.ok (value : α) : Succeeds (.ok value : Except PyError α) := ⟨value,rfl⟩

-- What every reachable world satisfies.
def Kept (s : Session) (seed : UUID → Option RecommendationStateRecord) : World → Prop :=
  ((contract s.self seed).also (Documented s.self)).invariant

-- Nothing on a scan's books is later than t.
structure Timed (t : Instant) (L : ScanLedger) : Prop where
  attempts : ∀ a ∈ L.attempts, a.startedAt ≤ t
  scan : ∀ scan, L.scan = some scan → scan.createdAt ≤ t

theorem Timed.later {t t' : Instant} {L : ScanLedger} (timed : Timed t L) (later : t ≤ t') : Timed t' L :=
  ⟨fun a present => le_trans (timed.attempts a present) later,fun scan found => le_trans (timed.scan scan found) later⟩

-- A call whose actor may write in the plan's portfolio, with keys that tell payloads apart and
-- a correlation id that fits an attempt.
structure Session.Entitled (s : Session) (plan : RotationPlan) : Prop extends Session.Asks s plan where
  permitted : ∃ owner, requirePortfolioMutation s.d plan.portfolioId s.access = .ok owner
  distinct : Function.Injective s.d.sha256
  correlated : s.request.correlationId.length ≤ 256

-- What the stores accept from such a call.
section Admissions
variable {s : Session} {seed : UUID → Option RecommendationStateRecord} {w : Stores} {j : Log} {plan : RotationPlan}
  {scan cur : LogicalScanRun}

-- Who may write in a portfolio may read it.
theorem mutation_reads {d : Deployment} {portfolioId owner : UUID} {access : AccessContext}
    (permitted : requirePortfolioMutation d portfolioId access = .ok owner) :
    requirePortfolioRead d portfolioId access = .ok owner := by
  simp only [requirePortfolioMutation,bind_ok,pure_ok] at permitted
  obtain ⟨holder,known,_,mutates,rfl⟩ := permitted
  have allowed : access.canMutate (.portfolio portfolioId) (some holder) = true := by
    unfold AccessContext.requireMutation at mutates
    split at mutates
    · assumption
    · simp [raise] at mutates
  have reads : access.requireRead (.portfolio portfolioId) (some holder) = .ok () := by
    rw [AccessContext.requireRead,raiseIf_ok,Bool.not_eq_false']
    exact allowed
  simp only [requirePortfolioRead,bind_ok,pure_ok]
  exact ⟨holder,known,(),reads,rfl⟩

theorem Session.Entitled.reads (entitled : s.Entitled plan) :
    ∃ owner, requirePortfolioRead s.d plan.portfolioId s.access = .ok owner := by
  obtain ⟨owner,permitted⟩ := entitled.permitted
  exact ⟨owner,mutation_reads permitted⟩

-- An attempt with the next number that recovers the last one, and that is final where it must be.
structure Follows (L : ScanLedger) (a : AttemptFields) : Prop where
  number : a.attemptNumber = L.attempts.length + 1
  recovers : a.recoveryOfAttemptId = L.attempts.getLast?.map fun previous => previous.scanAttemptId
  single : a.duplicateOfAttemptId = none
  final : a.finalStrategyRunId = none ∧ (∀ b ∈ L.attempts, b.status ≠ .succeeded) ∨
    ∃ x, L.stored = some x ∧ a.finalStrategyRunId = some x.run.strategyRunId

end Admissions

-- A computation whose errors are exceptions, none of them the end of the call.
def Caught (x : Except PyError α) : Prop := ∀ error, x = .error error → error.isException = true

section Exceptions
variable {α β : Type}

end Exceptions
end SwapMonitor
