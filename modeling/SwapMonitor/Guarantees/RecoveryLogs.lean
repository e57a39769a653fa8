import SwapMonitor.Guarantees.StoredRuns
import SwapMonitor.Persistence.AttemptLogs

namespace SwapMonitor
open Stores Bodies

namespace Repositories
variable {d : Deployment} {r : Repositories} {permitted : Repositories → AccessContext → Operation → Prop}

-- In every state the calls reach, and from it on.
theorem attempt_logs_valid (reached : Reached d permitted r) :
    Logged r.stores ∧
    (∀ r', Leads d permitted r r' → ∀ id scan, r.stores.scansById id = some scan → scan.status = .completed →
      r'.stores.scansById id = some scan) ∧
    (∀ access request createdAt, Undone (Body.createOrRecover d access request createdAt)) ∧
    (∀ access attempt, Undone (Body.recordAttempt d access attempt)) ∧
    (∀ access scanId plan runId completedAt, Undone (Body.attachFinalStrategyRun d access scanId plan runId completedAt)) ∧
    ∀ access plan run key scanId, Undone (Body.recordOrGet d access plan run key scanId) := by
  obtain ⟨groups,positions,path⟩ := reached
  refine ⟨leads_logged (constructed_logged groups positions) path,?_,?_,?_,?_,?_⟩
  · exact fun r' later id scan stored completed => leads_completed later stored completed
  · exact fun access request createdAt => settled_undone fun w => created_atomic d access w request createdAt
  · exact fun access attempt => settled_undone fun w => attempted_atomic d access w attempt
  · exact fun access scanId plan runId completedAt =>
      settled_undone fun w => attached_atomic d access w scanId plan runId completedAt
  · exact fun access plan run key scanId => settled_undone fun w => recorded_atomic d access w plan run key scanId

def sampleLock : ScanLockRequest := ⟨samplePlan,⟨1,0,0,"5m",6,"UTC"⟩⟩

def runningFields : AttemptFields where
  scanAttemptId := 20
  logicalScanRunId := 30
  attemptNumber := 1
  status := .running
  configurationSnapshotHash := 6
  marketDataSnapshotId := none
  marketDataContentHash := none
  triggerCorrelationId := "api"
  actorCorrelationId := "owner"
  startedAt := 0
  completedAt := none

def runningAttempt : ScanAttempt := ⟨runningFields,by decide +kernel⟩

def finishedFields : AttemptFields :=
  {runningFields with
    scanAttemptId := 21
    attemptNumber := 2
    status := .succeeded
    marketDataSnapshotId := some (.plain "market")
    marketDataContentHash := some 8
    completedAt := some 1
    recoveryOfAttemptId := some 20
    finalStrategyRunId := some 10
    finalStrategyKey := some 1
    finalStrategyIdentityFormatVersion := some "strategy-run:v1"
    finalizationDisposition := some .applied}

def finishedAttempt : ScanAttempt := ⟨finishedFields,by decide +kernel⟩

def afterScan : Repositories := (emptyRepositories.drawing 30).after sampleDeployment sampleOwner (.createOrRecover sampleLock 0)
def afterAttempt : Repositories := (afterScan.drawing 31).after sampleDeployment sampleOwner (.recordAttempt runningAttempt)
def afterRun : Repositories := (afterAttempt.drawing 32).after sampleDeployment sampleOwner (.recordOrGetRun samplePlan firstRun 1 (some 30))
def afterFinish : Repositories := (afterRun.drawing 33).after sampleDeployment sampleOwner (.recordAttempt finishedAttempt)
def afterCompletion : Repositories :=
  (afterFinish.drawing 34).after sampleDeployment sampleOwner (.attachFinalStrategyRun 30 samplePlan 10 2)

-- An attempt that was left running is recovered by one that succeeds, and the scan is completed with its run.
theorem attempt_logs_valid_sample : Logged afterCompletion.stores ∧
    (afterCompletion.stores.attemptsByScan 30).map (·.toAttemptFields) = [runningFields,finishedFields] ∧
    (afterCompletion.stores.scansById 30).map (fun scan => (scan.status,scan.finalStrategyRunId)) = some (.completed,some 10) :=
  have path : Leads sampleDeployment Always emptyRepositories afterCompletion :=
    .call sampleOwner (.attachFinalStrategyRun 30 samplePlan 10 2) 34
      (.call sampleOwner (.recordAttempt finishedAttempt) 33
        (.call sampleOwner (.recordOrGetRun samplePlan firstRun 1 (some 30)) 32
          (.call sampleOwner (.recordAttempt runningAttempt) 31
            (.call sampleOwner (.createOrRecover sampleLock 0) 30 .here trivial rfl) trivial rfl) trivial rfl) trivial rfl) trivial rfl
  ⟨(attempt_logs_valid ⟨_,_,path⟩).1,rfl,rfl⟩

end Repositories

end SwapMonitor
