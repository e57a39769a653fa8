import SwapMonitor.Persistence.Repositories

namespace SwapMonitor
open Function (update)

namespace Repositories
variable {d : Deployment} {access : AccessContext} {r r' : Repositories}

-- The actor owns the portfolio or administers the system.
def Mutable (d : Deployment) (access : AccessContext) (portfolioId : UUID) : Prop :=
  ∃ owner, requirePortfolioMutation d portfolioId access = .ok owner

-- Of a portfolio the same actors may read and write.
theorem mutation_read (portfolioId : UUID) :
    requirePortfolioMutation d portfolioId access = requirePortfolioRead d portfolioId access := by
  have allowed : ∀ owner, access.requireMutation (.portfolio portfolioId) (some owner) =
      access.requireRead (.portfolio portfolioId) (some owner) := by
    intro owner
    unfold AccessContext.requireMutation AccessContext.requireRead AccessContext.canMutate AccessContext.canRead raiseIf
    cases access.isAdministrator || some owner == some access.actorUserId <;> simp
  simp only [requirePortfolioMutation,requirePortfolioRead,allowed]

-- What the checks of an attempt established.
structure Attempted (d : Deployment) (access : AccessContext) (w : Stores) (scan : LogicalScanRun) (attempt : ScanAttempt) :
    Prop where
  found : w.scansById attempt.logicalScanRunId = some scan
  mutable : Mutable d access scan.portfolioId
  referenced : w.validateFinalReference scan attempt = .ok ()
  appended : Stores.validateScanAttemptAppend (w.attemptsByScan scan.logicalScanRunId) attempt = .ok ()

-- What the checks of a completion established.
structure Attached (d : Deployment) (access : AccessContext) (w : Stores) (scanId runId : UUID) (scan completed : LogicalScanRun) :
    Prop where
  found : w.scansById scanId = some scan
  mutable : Mutable d access scan.portfolioId
  running : scan.status = .running
  succeeded : ∃ attempt ∈ w.attemptsByScan scanId, attempt.status = .succeeded ∧ attempt.finalStrategyRunId = some runId
  same : completed.logicalScanRunId = scan.logicalScanRunId ∧ completed.scanLockKey = scan.scanLockKey ∧
    completed.portfolioId = scan.portfolioId
  completed : completed.status = .completed ∧ completed.finalStrategyRunId = some runId

-- What the checks of a run that is stored under a free key established.
structure Recorded (d : Deployment) (access : AccessContext) (w : Stores) (plan : RotationPlan) (run : StrategyRun)
    (key : Digest) (scanId : Option UUID) : Prop where
  mutable : Mutable d access plan.portfolioId
  own : run.rotationPlanId = plan.rotationPlanId ∧ run.portfolioId = plan.portfolioId
  free : w.runsByKey (plan.rotationPlanId,key) = none
  unlinked : w.requireOpenScan d access plan scanId = .ok ()

-- All that a call may change, and the call that changes it.
inductive Change (d : Deployment) (access : AccessContext) (r : Repositories) : Operation → Repositories → Prop where
  | nothing (operation : Operation) : Change d access r operation r
  | position (position : Position) : Mutable d access position.portfolioId → r.secondOpen position = false →
      Change d access r (.addPosition position) {r with positions := putPosition r.positions position}
  | plan (plan : RotationPlan) (owner : UUID) : requirePortfolioMutation d plan.portfolioId access = .ok owner →
      r.foreignGroup owner plan = false → r.foreignPosition plan = false →
      Change d access r (.addPlan plan) {r with plans := update r.plans plan.rotationPlanId (some plan)}
  | recordCreated (plan : RotationPlan) (createdAt : Instant) : Mutable d access plan.portfolioId →
      r.stores.records plan.rotationPlanId = none → Change d access r (.getOrCreateState plan createdAt) {r with
        stores := {r.stores with
          records := update r.stores.records plan.rotationPlanId (some (Stores.idleRecord plan createdAt))}}
  | recordChanged (plan : RotationPlan) (stored updated : RecommendationStateRecord) (next : RecommendationState × Bool)
      (changedAt : Instant) (runId : Option UUID) (key : Option Digest) : Mutable d access plan.portfolioId →
      r.stores.records plan.rotationPlanId = some stored → stored.portfolioId = plan.portfolioId →
      updated.portfolioId = plan.portfolioId →
      Change d access r (.recordTransition plan stored next changedAt runId key) {r with stores := {r.stores with
        records := update r.stores.records plan.rotationPlanId (some updated)}}
  | scanCreated (request : ScanLockRequest) (createdAt : Instant) : Mutable d access request.plan.portfolioId →
      r.stores.scansByKey (request.key d) = none → Change d access r (.createOrRecover request createdAt) {r with
        stores := {r.stores with
          scansById := update r.stores.scansById r.stores.nextUuid (some (r.stores.newScan d request createdAt))
          scansByKey := update r.stores.scansByKey (request.key d) (some (r.stores.newScan d request createdAt))
          attemptsByScan := update r.stores.attemptsByScan r.stores.nextUuid []
          nextUuid := r.stores.nextUuid + 1}}
  | attempted (scan : LogicalScanRun) (attempt : ScanAttempt) : Attempted d access r.stores scan attempt →
      Change d access r (.recordAttempt attempt) {r with stores := {r.stores with
        attemptsByScan := update r.stores.attemptsByScan scan.logicalScanRunId
          (r.stores.attemptsByScan scan.logicalScanRunId ++ [attempt])}}
  | completed (scanId runId : UUID) (plan : RotationPlan) (completedAt : Instant) (scan completed : LogicalScanRun) :
      Attached d access r.stores scanId runId scan completed →
      Change d access r (.attachFinalStrategyRun scanId plan runId completedAt) {r with stores := {r.stores with
        scansById := update r.stores.scansById scanId (some completed)
        scansByKey := update r.stores.scansByKey completed.scanLockKey (some completed)}}
  | runStored (plan : RotationPlan) (run : StrategyRun) (key : Digest) (scanId : Option UUID) :
      Recorded d access r.stores plan run key scanId → Change d access r (.recordOrGetRun plan run key scanId)
        {r with stores := r.stores.storing plan run key scanId}
  | intentStored (intent : ChildIntent) : Mutable d access intent.portfolioId →
      r.stores.intentsByKey intent.intentKey = none → Change d access r (.recordOrGetIntent intent) {r with
        stores := {r.stores with
          intentsByKey := update r.stores.intentsByKey intent.intentKey (some intent)
          intentKeysByStrategyRun := update r.stores.intentKeysByStrategyRun intent.strategyRunId
            (r.stores.intentKeysByStrategyRun intent.strategyRunId ++ [intent.intentKey])}}

theorem answered_ok {f : α → β} {outcome : Except PyError α} {result : β} :
    outcome.map f = .ok result ↔ ∃ value, outcome = .ok value ∧ f value = result := by
  cases outcome <;> simp [Except.map]

theorem within_ok {answer : α → Reply} {outcome : Except PyError (α × Stores)} {result : Reply × Repositories} :
    within r answer outcome = .ok result ↔ ∃ value stores, outcome = .ok (value,stores) ∧
      (answer value,{r with stores}) = result := by
  cases outcome with
  | error error => simp [within,Except.map]
  | ok pair =>
    obtain ⟨value,stores⟩ := pair
    simp [within,Except.map]

theorem reading_ok {answer : α → Reply} {outcome : Except PyError α} {result : Reply × Repositories} :
    reading r answer outcome = .ok result ↔ ∃ value, outcome = .ok value ∧ (answer value,r) = result := by
  cases outcome <;> simp [reading,Except.map]

theorem scan_found {scan : LogicalScanRun} {scanId : UUID} {w : Stores} (read : w.getScan d access scanId = .ok scan) :
    w.scansById scanId = some scan ∧ ∃ owner, requirePortfolioRead d scan.portfolioId access = .ok owner := by
  unfold Stores.getScan at read
  split at read
  · cases read
  · rename_i stored known
    simp only [bind_ok,pure_ok] at read
    obtain ⟨owner,readable,rfl⟩ := read
    exact ⟨known,owner,readable⟩

section Steps
variable {w w' : Stores}

theorem state_created {plan : RotationPlan} {createdAt : Instant} {record : RecommendationStateRecord}
    (ran : w.getOrCreateState d access plan createdAt = .ok (record,w')) :
    w' = w ∨ Mutable d access plan.portfolioId ∧ w.records plan.rotationPlanId = none ∧
      w' = {w with records := update w.records plan.rotationPlanId (some (Stores.idleRecord plan createdAt))} := by
  simp only [Stores.getOrCreateState,bind_ok] at ran
  obtain ⟨owner,allowed,ran⟩ := ran
  split at ran
  · simp only [bind_ok,pure_ok,Prod.mk.injEq] at ran
    obtain ⟨_,_,_,same⟩ := ran
    exact .inl same.symm
  · rename_i absent
    cases ran
    exact .inr ⟨⟨owner,allowed⟩,absent,rfl⟩

theorem state_changed {plan : RotationPlan} {previous updated : RecommendationStateRecord} {next : RecommendationState × Bool}
    {changedAt : Instant} {runId : Option UUID} {key : Option Digest}
    (ran : w.transition d access plan previous next changedAt runId key = .ok (updated,w')) :
    Mutable d access plan.portfolioId ∧ w.records plan.rotationPlanId = some previous ∧
      previous.portfolioId = plan.portfolioId ∧ updated.portfolioId = plan.portfolioId ∧
      updated.revision = previous.revision + 1 ∧
      w' = {w with records := update w.records plan.rotationPlanId (some updated)} := by
  simp only [Stores.transition,bind_ok] at ran
  obtain ⟨owner,allowed,ran⟩ := ran
  split at ran
  · cases ran
  · rename_i stored known
    simp only [bind_ok,pure_ok,raiseIf_ok,decide_eq_false_iff_not,not_not,Prod.mk.injEq] at ran
    obtain ⟨_,rfl,_,portfolio,record,created,rfl,rfl⟩ := ran
    have fields := record_fields created
    refine ⟨⟨owner,allowed⟩,known,portfolio,?_,?_,rfl⟩
    · rw [fields]
      rfl
    · rw [fields]
      rfl

theorem scan_created {request : ScanLockRequest} {createdAt : Instant} {scan : LogicalScanRun}
    (ran : w.createOrRecover d access request createdAt = .ok (scan,w')) :
    w' = w ∨ Mutable d access request.plan.portfolioId ∧ w.scansByKey (request.key d) = none ∧ w' = {w with
      scansById := update w.scansById w.nextUuid (some (w.newScan d request createdAt))
      scansByKey := update w.scansByKey (request.key d) (some (w.newScan d request createdAt))
      attemptsByScan := update w.attemptsByScan w.nextUuid []
      nextUuid := w.nextUuid + 1} := by
  simp only [Stores.createOrRecover,bind_ok] at ran
  obtain ⟨owner,allowed,ran⟩ := ran
  split at ran
  · simp only [bind_ok,pure_ok,Prod.mk.injEq] at ran
    obtain ⟨_,_,_,same⟩ := ran
    exact .inl same.symm
  · rename_i absent
    cases ran
    exact .inr ⟨⟨owner,allowed⟩,absent,rfl⟩

theorem attempt_recorded {attempt : ScanAttempt} (ran : w.recordAttempt d access attempt = .ok w') :
    ∃ scan, Attempted d access w scan attempt ∧ w' = {w with
      attemptsByScan := update w.attemptsByScan scan.logicalScanRunId
        (w.attemptsByScan scan.logicalScanRunId ++ [attempt])} := by
  simp only [Stores.recordAttempt,Stores.validateAttemptReferences,bind_ok,pure_ok] at ran
  obtain ⟨scan,read,owner,allowed,_,_,_,⟨_,_,_,_,referenced⟩,_,_,_,appended,rfl⟩ := ran
  exact ⟨scan,⟨(scan_found read).1,⟨owner,allowed⟩,referenced,appended⟩,rfl⟩

theorem run_attached {scanId runId : UUID} {plan : RotationPlan} {completedAt : Instant} {completed : LogicalScanRun}
    (ran : w.attachFinalStrategyRun d access scanId plan runId completedAt = .ok (completed,w')) :
    ∃ scan, Attached d access w scanId runId scan completed ∧ w' = {w with
      scansById := update w.scansById scanId (some completed)
      scansByKey := update w.scansByKey completed.scanLockKey (some completed)} := by
  simp only [Stores.attachFinalStrategyRun,bind_ok,pure_ok,raiseIf_ok,decide_eq_false_iff_not,not_not,Bool.not_eq_false',
    List.any_eq_true,Bool.and_eq_true,beq_iff_eq,Prod.mk.injEq] at ran
  obtain ⟨scan,read,owner,allowed,_,_,_,unfinished,_,_,_,succeeded,_,finished,rfl,rfl⟩ := ran
  unfold Stores.completeScan at finished
  split at finished
  · cases finished
    have running : scan.status = .running := by
      cases status : scan.status with
      | running => rfl
      | completed => exact absurd status unfinished
    exact ⟨scan,⟨(scan_found read).1,⟨owner,allowed⟩,running,succeeded,⟨rfl,rfl,rfl⟩,⟨rfl,rfl⟩⟩,rfl⟩
  · cases finished

theorem run_recorded {plan : RotationPlan} {run found : StrategyRun} {key : Digest} {scanId : Option UUID}
    (ran : w.recordOrGet d access plan run key scanId = .ok (found,w')) :
    w.runsByKey (plan.rotationPlanId,key) = some found ∧ found.same run = true ∧
        (run.rotationPlanId = plan.rotationPlanId ∧ run.portfolioId = plan.portfolioId) ∧
        Mutable d access plan.portfolioId ∧ w.logicalScanByKey (plan.rotationPlanId,key) = scanId ∧ w' = w ∨
      Recorded d access w plan run key scanId ∧ found = run ∧ w' = w.storing plan run key scanId := by
  cases stored : w.runsByKey (plan.rotationPlanId,key) with
  | some existing =>
    simp only [Stores.recordOrGet,stored,bind_ok,pure_ok,raiseIf_ok,decide_eq_false_iff_not,not_or,not_not,
      Bool.or_eq_false_iff,Bool.not_eq_false',Prod.mk.injEq] at ran
    obtain ⟨owner,allowed,_,own,_,⟨same,linked⟩,rfl,rfl⟩ := ran
    exact .inl ⟨rfl,same,own,⟨owner,allowed⟩,linked,rfl⟩
  | none =>
    rw [Stores.stored_when_free d access w stored] at ran
    simp only [bind_ok,pure_ok,raiseIf_ok,decide_eq_false_iff_not,not_or,not_not,Prod.mk.injEq] at ran
    obtain ⟨owner,allowed,_,own,_,unlinked,rfl,rfl⟩ := ran
    exact .inr ⟨⟨⟨owner,allowed⟩,own,stored,unlinked⟩,rfl,rfl⟩

theorem intent_recorded {intent found : ChildIntent} (ran : w.recordOrGetIntent d access intent = .ok (found,w')) :
    w' = w ∨ Mutable d access intent.portfolioId ∧ w.intentsByKey intent.intentKey = none ∧ w' = {w with
      intentsByKey := update w.intentsByKey intent.intentKey (some intent)
      intentKeysByStrategyRun := update w.intentKeysByStrategyRun intent.strategyRunId
        (w.intentKeysByStrategyRun intent.strategyRunId ++ [intent.intentKey])} := by
  simp only [Stores.recordOrGetIntent,bind_ok] at ran
  obtain ⟨owner,allowed,ran⟩ := ran
  split at ran
  · cases ran
  · simp only [bind_ok] at ran
    obtain ⟨_,_,_,_,ran⟩ := ran
    split at ran
    · simp only [bind_ok,pure_ok,Prod.mk.injEq] at ran
      obtain ⟨_,_,_,_,_,same⟩ := ran
      exact .inl same.symm
    · rename_i absent
      cases ran
      exact .inr ⟨⟨owner,allowed⟩,absent,rfl⟩

end Steps

theorem perform_changes {operation : Operation} {answer : Reply} (ran : r.perform d access operation = .ok (answer,r')) :
    Change d access r operation r' := by
  have unread : ∀ {α : Type} {answered : α → Reply} {outcome : Except PyError α},
      reading r answered outcome = .ok (answer,r') → Change d access r operation r' := by
    intro _ _ _ read
    obtain ⟨_,_,same⟩ := reading_ok.mp read
    cases same
    exact .nothing _
  cases operation with
  | addPosition position =>
    obtain ⟨_,did,same⟩ := answered_ok.mp ran
    cases same
    simp only [addPosition,bind_ok,pure_ok,raiseIf_ok,exists_const] at did
    obtain ⟨owner,allowed,single,rfl⟩ := did
    exact .position position ⟨owner,allowed⟩ single
  | getPosition | listPositions | getPlan | getState | getByLockKey | getScan | listAttempts | getForLogicalScan | getIntent
  | listIntents => exact unread ran
  | addPlan plan =>
    obtain ⟨_,did,same⟩ := answered_ok.mp ran
    cases same
    simp only [addPlan,bind_ok,pure_ok,raiseIf_ok,exists_const] at did
    obtain ⟨owner,allowed,groups,positions,rfl⟩ := did
    exact .plan plan owner allowed groups positions
  | getOrCreateState plan createdAt =>
    obtain ⟨_,_,did,same⟩ := within_ok.mp ran
    cases same
    rcases state_created did with rfl | ⟨mutable,absent,rfl⟩
    · exact .nothing _
    · exact .recordCreated plan createdAt mutable absent
  | recordTransition plan previous =>
    obtain ⟨_,_,did,same⟩ := within_ok.mp ran
    cases same
    obtain ⟨mutable,known,portfolio,kept,_,rfl⟩ := state_changed did
    exact .recordChanged plan previous _ _ _ _ _ mutable known portfolio kept
  | createOrRecover request createdAt =>
    obtain ⟨_,_,did,same⟩ := within_ok.mp ran
    cases same
    rcases scan_created did with rfl | ⟨mutable,absent,rfl⟩
    · exact .nothing _
    · exact .scanCreated request createdAt mutable absent
  | recordAttempt attempt =>
    rw [perform] at ran
    obtain ⟨_,_,did,same⟩ := within_ok.mp ran
    obtain ⟨_,did,wrapped⟩ := answered_ok.mp did
    cases wrapped
    cases same
    obtain ⟨scan,attempted,rfl⟩ := attempt_recorded did
    exact .attempted scan attempt attempted
  | attachFinalStrategyRun scanId plan runId =>
    obtain ⟨_,_,did,same⟩ := within_ok.mp ran
    cases same
    obtain ⟨scan,attached,rfl⟩ := run_attached did
    exact .completed scanId runId plan _ scan _ attached
  | recordOrGetRun plan run key scanId =>
    obtain ⟨_,_,did,same⟩ := within_ok.mp ran
    cases same
    rcases run_recorded did with ⟨_,_,_,_,_,rfl⟩ | ⟨recorded,_,rfl⟩
    · exact .nothing _
    · exact .runStored plan run key scanId recorded
  | recordOrGetIntent intent =>
    obtain ⟨_,_,did,same⟩ := within_ok.mp ran
    cases same
    rcases intent_recorded did with rfl | ⟨mutable,absent,rfl⟩
    · exact .nothing _
    · exact .intentStored intent mutable absent

theorem after_changes (operation : Operation) : Change d access r operation (r.after d access operation) := by
  unfold after
  split
  · rename_i ran
    exact perform_changes ran
  · exact .nothing _

end Repositories

end SwapMonitor
