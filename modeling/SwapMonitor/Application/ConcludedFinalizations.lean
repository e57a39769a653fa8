import SwapMonitor.Application.Concluding

namespace SwapMonitor
open Interleaving

section WellFormed
variable {s : Session} {plan : RotationPlan}

end WellFormed

-- A scan that is fetched for: nothing is stored yet, and the last attempt is the running one.
structure Fetching (scan : LogicalScanRun) (running : ScanAttempt) (L : ScanLedger) : Prop where
  pending : Pending scan L
  unstored : L.stored = none
  last : L.attempts.getLast? = some running

-- A scan whose stored run is to be finished.
structure Carried (scan : LogicalScanRun) (x : StoredRun) (L : ScanLedger) : Prop where
  stored : L.stored = some x
  pending : Pending scan L
  attempted : L.attempts ≠ []

-- Books a call may leave with such a result: a stored run was finished, and the result says how.
def Finished (r : RunCoordinatorResult) (L : ScanLedger) : Prop :=
  ∀ x, L.stored = some x → L.completed ∧ r.disposition.verdict.isSome ∧ r.strategyRun = some x.run

theorem Finished.unstored {r : RunCoordinatorResult} {L : ScanLedger} (unstored : L.stored = none) : Finished r L := by
  intro x stored
  rw [unstored] at stored
  cases stored

theorem Finished.verdict {r : RunCoordinatorResult} {L : ScanLedger} {x : StoredRun} (done : L.completed)
    (stored : L.stored = some x) (verdict : r.disposition.verdict.isSome) (run : r.strategyRun = some x.run) :
    Finished r L := by
  intro x' stored'
  rw [stored,Option.some.injEq] at stored'
  exact ⟨done,verdict,stored' ▸ run⟩

theorem Fetching.alike {scan : LogicalScanRun} {running : ScanAttempt} {L L' : ScanLedger}
    (fetching : Fetching scan running L) (alike : Alike L L') : Fetching scan running L' :=
  ⟨fetching.pending.alike alike.scan,alike.stored.trans fetching.unstored,by rw [alike.attempts]; exact fetching.last⟩

theorem Carried.alike {scan : LogicalScanRun} {x : StoredRun} {L L' : ScanLedger} (carried : Carried scan x L)
    (alike : Alike L L') : Carried scan x L' :=
  ⟨alike.stored.trans carried.stored,carried.pending.alike alike.scan,by rw [alike.attempts]; exact carried.attempted⟩

-- Without a stored run no attempt has succeeded.
theorem Verdicts.unsettled {L : ScanLedger} (verdicts : Verdicts L) (unstored : L.stored = none) :
    ∀ b ∈ L.attempts, b.status ≠ .succeeded := by
  intro b present succeeded
  obtain ⟨_,x,stored,_⟩ := verdicts b present succeeded
  rw [unstored] at stored
  cases stored

section Programs
variable {s : Session} {lease : LockLease} {seed : UUID → Option RecommendationStateRecord} {t : Instant}
  {L : ScanLedger} {j : Log} {scan : LogicalScanRun} {plan : RotationPlan} {x : StoredRun}

theorem Concludes.verdicts {p : Run β} {Q : Except PyError β → ScanLedger → Log → Prop}
    (concludes : Verdicts L → Concludes s lease seed t L j p Q) : Concludes s lease seed t L j p Q := by
  refine Concludes.using (P := Verdicts L) ?_ concludes
  intro w _ kept held
  rw [← held.books]
  exact verdicts_known w.journal kept.1.2

-- What the adjudication of a stored run hands on.
def Adjudicated (scan : LogicalScanRun) (x : StoredRun) : Session.Finalized → ScanLedger → Log → Prop
  | .inl r,L,_ => Finished r L
  | .inr (a,_),L,_ => Carried scan x L ∧ a ∈ L.attempts ∧ Session.isFinal x.run a = true

-- What the guarded part of a recovery hands on.
def Attached (scan : LogicalScanRun) (x : StoredRun) :
    RunCoordinatorResult ⊕ (FinalStrategyIdentity × ScanAttempt × Option Digest) → ScanLedger → Log → Prop
  | .inl r,L,_ => Finished r L
  | .inr _,L,_ => Scanned scan L ∧ L.completed ∧ L.stored = some x

end Programs
end SwapMonitor
