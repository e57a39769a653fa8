import SwapMonitor.Persistence.AttemptLogs
import SwapMonitor.Persistence.ScanCalls

namespace SwapMonitor
open Exceptions Relational

-- What a session has read: each table as it was at some time.
structure Seen (history : List Database) (seen : Database) : Prop where
  rotationPlans : ∃ db ∈ history, seen.rotationPlans = db.rotationPlans
  configurationSnapshots : ∃ db ∈ history, seen.configurationSnapshots = db.configurationSnapshots
  recommendationStates : ∃ db ∈ history, seen.recommendationStates = db.recommendationStates
  logicalScanRuns : ∃ db ∈ history, seen.logicalScanRuns = db.logicalScanRuns
  scanAttempts : ∃ db ∈ history, seen.scanAttempts = db.scanAttempts
  strategyRuns : ∃ db ∈ history, seen.strategyRuns = db.strategyRuns
  childIntents : ∃ db ∈ history, seen.childIntents = db.childIntents

-- A session that has read all tables at one time.
theorem read_at {history : List Database} {db : Database} (member : db ∈ history) : Seen history db :=
  ⟨⟨db,member,rfl⟩,⟨db,member,rfl⟩,⟨db,member,rfl⟩,⟨db,member,rfl⟩,⟨db,member,rfl⟩,⟨db,member,rfl⟩,⟨db,member,rfl⟩⟩

-- A call that was answered, the tables it met, and the tables it left.
structure ServedCall where
  request : Request
  answer : Except PyError Reply
  met : Database
  left : Database

-- Calls of any sessions, the latest first. Their writes follow on one another, while each has read what it has read before.
inductive Timeline (e : Engine) (start : Database) : List Database → List ServedCall → Prop where
  | start : Timeline e start [start] []
  | call {current : Database} {earlier : List Database} {log : List ServedCall} (request : Request) (seen : Database) :
      Timeline e start (current :: earlier) log → Seen (current :: earlier) seen →
      Timeline e start ((seen.perform e current request).2 :: current :: earlier)
        (⟨request,(seen.perform e current request).1,current,(seen.perform e current request).2⟩ :: log)

variable {e : Engine} {access : AccessContext} {seen current after : Database}

theorem flush_ok {checks : List (String × Bool)} {indexes : List (Index Row)} {row : Row} {rows rows' : List Row} :
    flush checks indexes row rows = .ok rows' ↔ insert checks indexes row rows = .ok rows' := by
  unfold flush
  cases insert checks indexes row rows <;> simp

section Outcomes

-- A record that was found is read; one that was not is added.
theorem state_created {plan : RotationPlan} {createdAt : Instant} {record : RecommendationStateRecord}
    (answered : Database.getOrCreateState e access seen current plan createdAt = .ok (record,after)) :
    (after = current ∧ ∃ row, (seen.state plan.rotationPlanId = some row ∨ current.state plan.rotationPlanId = some row) ∧
        recommendationStateFromModel row = .ok record) ∨
      record = Stores.idleRecord plan createdAt ∧ ∃ checks rows,
        insert checks Database.stateIndexes (recommendationStateToModel e.dialect record) current.recommendationStates = .ok rows ∧
          after = {current with recommendationStates := rows} := by
  have read : ∀ {row}, (do
      let stored ← Database.storedState plan row
      pure (stored,current)) = (.ok (record,after) : Except PyError _) → after = current ∧ recommendationStateFromModel row = .ok record := by
    intro row stored
    simp only [Database.storedState,bind_ok,pure_ok,Prod.mk.injEq] at stored
    obtain ⟨_,⟨_,_,restored⟩,rfl,rfl⟩ := stored
    exact ⟨rfl,restored⟩
  simp only [Database.getOrCreateState,bind_ok] at answered
  obtain ⟨_,_,answered⟩ := answered
  split at answered
  · rename_i row found
    obtain ⟨kept,restored⟩ := read answered
    exact .inl ⟨kept,row,.inl found,restored⟩
  · split at answered
    · rename_i rows inserted
      cases answered
      exact .inr ⟨rfl,_,rows,flush_ok.mp inserted,rfl⟩
    · split at answered
      · cases answered
      · rename_i row found
        obtain ⟨kept,restored⟩ := read answered
        exact .inl ⟨kept,row,.inr found,restored⟩

-- What an accepted transition had read, and what it counted on.
structure Changed (e : Engine) (seen current after : Database) (plan : RotationPlan) (previous updated : RecommendationStateRecord)
    (next : RecommendationState × Bool) (changedAt : Instant) (runId : Option UUID) (key : Option Digest) : Prop where
  read : ∃ row, seen.state plan.rotationPlanId = some row ∧ recommendationStateFromModel row = .ok previous
  own : previous.portfolioId = plan.portfolioId
  fields : updated.toRecordFields = {Stores.transitioned plan previous previous next changedAt none with
    finalizationStrategyRunId := runId
    finalizationStrategyKey := key}
  counted : current.recommendationStates.countP (Database.unchanged plan previous) = 1
  left : after = {current with
    recommendationStates := update (Database.unchanged plan previous) (Database.written (recommendationStateToModel e.dialect updated))
      current.recommendationStates}

theorem state_changed {plan : RotationPlan} {previous updated : RecommendationStateRecord} {next : RecommendationState × Bool}
    {changedAt : Instant} {runId : Option UUID} {key : Option Digest}
    (answered : Database.transition e access seen current plan previous next changedAt runId key = .ok (updated,after)) :
    Changed e seen current after plan previous updated next changedAt runId key := by
  simp only [Database.transition,bind_ok] at answered
  obtain ⟨_,_,answered⟩ := answered
  split at answered
  · cases answered
  · rename_i row found
    simp only [bind_ok,raiseIf_ok,exists_const,decide_eq_false_iff_not,not_not] at answered
    obtain ⟨stored,restored,same,own,_,created,counted,answered⟩ := answered
    subst same
    split at answered
    · cases answered
    · cases answered
      exact ⟨⟨row,found,restored⟩,own,record_fields created,counted,rfl⟩

-- A scan that was found is restored for the request; one that was not is added.
theorem scan_created {fresh : UUID} {request : ScanLockRequest} {createdAt : Instant} {scan : LogicalScanRun}
    (answered : Database.createOrRecover e access seen current fresh request createdAt = .ok (scan,after)) :
    (after = current ∧ ∃ db row, (db = seen ∨ db = current) ∧ db.scanOfKey (request.key e.deployment) = some row ∧
        Database.scanForRequest e access db row request = .ok scan) ∨
      scan = Database.newScan e fresh request createdAt ∧ ∃ checks rows,
        insert checks Database.scanIndexes (logicalScanToModel e.dialect scan) current.logicalScanRuns = .ok rows ∧
          after = {current with logicalScanRuns := rows} := by
  simp only [Database.createOrRecover,bind_ok] at answered
  obtain ⟨_,_,answered⟩ := answered
  split at answered
  · rename_i row found
    simp only [bind_ok,pure_ok,Prod.mk.injEq] at answered
    obtain ⟨_,restored,rfl,rfl⟩ := answered
    exact .inl ⟨rfl,seen,row,.inl rfl,found,restored⟩
  · split at answered
    · rename_i rows inserted
      cases answered
      exact .inr ⟨rfl,_,rows,inserted,rfl⟩
    · split at answered
      · split at answered
        · cases answered
        · rename_i row found
          simp only [bind_ok,pure_ok,Prod.mk.injEq] at answered
          obtain ⟨_,restored,rfl,rfl⟩ := answered
          exact .inl ⟨rfl,current,row,.inr rfl,found,restored⟩
      · cases answered

-- What an accepted attempt had read.
structure Recorded (e : Engine) (access : AccessContext) (seen current after : Database) (attempt : ScanAttempt) (scan : LogicalScanRun)
    (existing : List ScanAttempt) : Prop where
  read : Database.getScan e access seen attempt.logicalScanRunId = .ok scan
  listed : Database.listAttempts e access seen attempt.logicalScanRunId = .ok existing
  referenced : seen.validateAttemptReferences scan attempt = .ok ()
  unfinished : scan.status = .completed → attempt.finalStrategyRunId.isSome = true
  appended : Stores.validateScanAttemptAppend existing attempt = .ok ()
  inserted : ∃ checks rows, insert checks Database.attemptIndexes (scanAttemptToModel e.dialect attempt) current.scanAttempts = .ok rows ∧
    after = {current with scanAttempts := rows}

theorem attempt_recorded {attempt : ScanAttempt} (answered : Database.recordAttempt e access seen current attempt = .ok after) :
    ∃ scan existing, Recorded e access seen current after attempt scan existing := by
  simp only [Database.recordAttempt,bind_ok,raiseIf_ok,exists_const,pure_ok,flush_ok] at answered
  obtain ⟨scan,read,_,_,existing,listed,_,referenced,unfinished,_,appended,rows,inserted,left⟩ := answered
  refine ⟨scan,existing,read,listed,referenced,?_,appended,_,rows,inserted,left.symm⟩
  intro completed
  simpa [completed] using unfinished

theorem scan_attached {scanId runId : UUID} {plan : RotationPlan} {completedAt : AwareDatetime} {answer : Except PyError LogicalScanRun}
    (answered : Database.attachFinalStrategyRun e access seen current scanId plan runId completedAt = (answer,after)) :
    after = current ∨ ∃ row portfolioId, seen.scan scanId = some row ∧
      Database.requireFinalEvidence e access seen row plan runId = .ok portfolioId ∧
      after = {current with
        logicalScanRuns := update (·.logicalScanRunId == scanId) (Database.completedRow (e.dialect.column completedAt))
          current.logicalScanRuns} := by
  unfold Database.attachFinalStrategyRun at answered
  split at answered
  · cases answered
    exact .inl rfl
  · rename_i row found
    split at answered
    · cases answered
      exact .inl rfl
    · rename_i portfolioId evidence
      cases answered
      exact .inr ⟨row,portfolioId,found,evidence,rfl⟩

-- A run that was found is restored, and is the candidate; one that was not is added.
theorem run_recorded {plan : RotationPlan} {run answer : StrategyRun} {key : Digest} {scanId : Option UUID}
    (answered : Database.recordOrGetRun e access seen current plan run key scanId = .ok (answer,after)) :
    run.rotationPlanId = plan.rotationPlanId ∧
      ((after = current ∧ ∃ db row, (db = seen ∨ db = current) ∧ db.runOfKey plan.rotationPlanId (digestText key) = some row ∧
          Database.exactStrategyRunRetry row run scanId = .ok answer) ∨
        answer = run ∧ Database.requireRunningScan e access seen plan scanId = .ok () ∧ ∃ row checks rows,
          strategyRunToModel run (digestText key) scanId = .ok row ∧
          insert checks Database.runIndexes row current.strategyRuns = .ok rows ∧ after = {current with strategyRuns := rows}) := by
  simp only [Database.recordOrGetRun,bind_ok,raiseIf_ok,exists_const,decide_eq_false_iff_not,not_or,not_not] at answered
  obtain ⟨_,_,⟨own,_⟩,_,_,answered⟩ := answered
  refine ⟨own,?_⟩
  split at answered
  · rename_i row found
    simp only [bind_ok,pure_ok,Prod.mk.injEq] at answered
    obtain ⟨_,restored,rfl,rfl⟩ := answered
    exact .inl ⟨rfl,seen,row,.inl rfl,found,restored⟩
  · simp only [bind_ok] at answered
    obtain ⟨_,running,row,written,answered⟩ := answered
    split at answered
    · rename_i rows inserted
      cases answered
      exact .inr ⟨rfl,running,row,_,rows,written,inserted,rfl⟩
    · split at answered
      · split at answered
        · cases answered
        · rename_i row found
          simp only [bind_ok,pure_ok,Prod.mk.injEq] at answered
          obtain ⟨_,restored,rfl,rfl⟩ := answered
          exact .inl ⟨rfl,current,row,.inr rfl,found,restored⟩
      · split at answered <;> cases answered

theorem intent_recorded {intent answer : ChildIntent}
    (answered : Database.recordOrGetIntent e access seen current intent = .ok (answer,after)) :
    (after = current ∧ ∃ db row, (db = seen ∨ db = current) ∧ db.intent intent.intentKey = some row ∧
        Database.exactIntentRetry e access row intent = .ok answer) ∨
      answer = intent ∧ (∃ run, seen.run intent.strategyRunId = some run) ∧ ∃ checks rows,
        insert checks Database.intentIndexes (childIntentToModel e.dialect intent) current.childIntents = .ok rows ∧
          after = {current with childIntents := rows} := by
  simp only [Database.recordOrGetIntent,bind_ok] at answered
  obtain ⟨_,_,answered⟩ := answered
  split at answered
  · cases answered
  · rename_i run recorded
    simp only [bind_ok] at answered
    obtain ⟨_,_,_,_,_,_,answered⟩ := answered
    split at answered
    · rename_i row found
      simp only [bind_ok,pure_ok,Prod.mk.injEq] at answered
      obtain ⟨_,restored,rfl,rfl⟩ := answered
      exact .inl ⟨rfl,seen,row,.inl rfl,found,restored⟩
    · split at answered
      · rename_i rows inserted
        cases answered
        exact .inr ⟨rfl,⟨run,recorded⟩,_,rows,flush_ok.mp inserted,rfl⟩
      · split at answered
        · cases answered
        · rename_i row found
          simp only [bind_ok,pure_ok,Prod.mk.injEq] at answered
          obtain ⟨_,restored,rfl,rfl⟩ := answered
          exact .inl ⟨rfl,current,row,.inr rfl,found,restored⟩

end Outcomes

-- What a request can leave of the tables it meets.
inductive Leaves (e : Engine) (seen current : Database) (access : AccessContext) : ScanCall → Database → Prop where
  | kept (call : ScanCall) : Leaves e seen current access call current
  | stateAdded {plan : RotationPlan} {createdAt : Instant} {checks : List (String × Bool)} {rows : List RecommendationStateModel} :
      insert checks Database.stateIndexes (recommendationStateToModel e.dialect (Stores.idleRecord plan createdAt))
        current.recommendationStates = .ok rows →
      Leaves e seen current access (.getOrCreateState plan createdAt) {current with recommendationStates := rows}
  | stateChanged {plan : RotationPlan} {previous updated : RecommendationStateRecord} {next : RecommendationState × Bool}
      {changedAt : Instant} {runId : Option UUID} {key : Option Digest} {after : Database} :
      Changed e seen current after plan previous updated next changedAt runId key →
      Leaves e seen current access (.recordTransition plan previous next changedAt runId key) after
  | scanAdded {request : ScanLockRequest} {createdAt : Instant} {fresh : UUID} {checks : List (String × Bool)}
      {rows : List LogicalScanRunModel} :
      insert checks Database.scanIndexes (logicalScanToModel e.dialect (Database.newScan e fresh request createdAt))
        current.logicalScanRuns = .ok rows →
      Leaves e seen current access (.createOrRecover request createdAt) {current with logicalScanRuns := rows}
  | attemptAdded {attempt : ScanAttempt} {scan : LogicalScanRun} {existing : List ScanAttempt} {after : Database} :
      Recorded e access seen current after attempt scan existing →
      Leaves e seen current access (.recordAttempt attempt) after
  | scanCompleted {scanId runId portfolioId : UUID} {plan : RotationPlan} {completedAt : AwareDatetime} {row : LogicalScanRunModel} :
      seen.scan scanId = some row → Database.requireFinalEvidence e access seen row plan runId = .ok portfolioId →
      Leaves e seen current access (.attachFinalStrategyRun scanId plan runId completedAt)
        {current with
          logicalScanRuns := update (·.logicalScanRunId == scanId) (Database.completedRow (e.dialect.column completedAt))
            current.logicalScanRuns}
  | runAdded {plan : RotationPlan} {run : StrategyRun} {key : Digest} {scanId : Option UUID} {row : StrategyRunModel}
      {checks : List (String × Bool)} {rows : List StrategyRunModel} :
      run.rotationPlanId = plan.rotationPlanId → Database.requireRunningScan e access seen plan scanId = .ok () →
      strategyRunToModel run (digestText key) scanId = .ok row → insert checks Database.runIndexes row current.strategyRuns = .ok rows →
      Leaves e seen current access (.recordOrGetRun plan run key scanId) {current with strategyRuns := rows}
  | intentAdded {intent : ChildIntent} {run : StrategyRunModel} {checks : List (String × Bool)} {rows : List ChildIntentModel} :
      seen.run intent.strategyRunId = some run →
      insert checks Database.intentIndexes (childIntentToModel e.dialect intent) current.childIntents = .ok rows →
      Leaves e seen current access (.recordOrGetIntent intent) {current with childIntents := rows}

theorem told_leaves {α : Type} {answer : α → Reply} {call : ScanCall} {x : Except PyError (α × Database)}
    (leaves : ∀ value after, x = .ok (value,after) → Leaves e seen current access call after) :
    Leaves e seen current access call (Database.told answer current x).2 := by
  cases x with
  | error error => exact .kept _
  | ok made => exact leaves made.1 made.2 rfl

theorem request_leaves (request : Request) :
    Leaves e seen current request.access request.call (seen.perform e current request).2 := by
  obtain ⟨access,fresh,call⟩ := request
  cases call with
  | getOrCreateState plan createdAt =>
    refine told_leaves fun record after answered => ?_
    rcases state_created answered with ⟨rfl,_⟩ | ⟨rfl,checks,rows,inserted,rfl⟩
    · exact .kept _
    · exact .stateAdded inserted
  | recordTransition plan previous next changedAt runId key =>
    exact told_leaves fun updated after answered => .stateChanged (state_changed answered)
  | createOrRecover request createdAt =>
    refine told_leaves fun scan after answered => ?_
    rcases scan_created answered with ⟨rfl,_⟩ | ⟨rfl,checks,rows,inserted,rfl⟩
    · exact .kept _
    · exact .scanAdded inserted
  | recordAttempt attempt =>
    refine told_leaves fun _ after answered => ?_
    cases recorded : Database.recordAttempt e access seen current attempt with
    | error error =>
      rw [recorded] at answered
      cases answered
    | ok left =>
      rw [recorded] at answered
      cases answered
      obtain ⟨scan,existing,parts⟩ := attempt_recorded recorded
      exact .attemptAdded parts
  | attachFinalStrategyRun scanId plan runId completedAt =>
    cases attached : Database.attachFinalStrategyRun e access seen current scanId plan runId completedAt with
    | mk answer after =>
      simp only [Database.perform,attached]
      rcases scan_attached attached with rfl | ⟨row,portfolioId,found,evidence,rfl⟩
      · exact .kept _
      · exact .scanCompleted found evidence
  | recordOrGetRun plan run key scanId =>
    refine told_leaves fun answer after answered => ?_
    obtain ⟨own,⟨rfl,_⟩ | ⟨_,running,row,checks,rows,written,inserted,rfl⟩⟩ := run_recorded answered
    · exact .kept _
    · exact .runAdded own running written inserted
  | recordOrGetIntent intent =>
    refine told_leaves fun answer after answered => ?_
    rcases intent_recorded answered with ⟨rfl,_⟩ | ⟨_,⟨run,recorded⟩,checks,rows,inserted,rfl⟩
    · exact .kept _
    · exact .intentAdded recorded inserted
  | _ => exact .kept _

end SwapMonitor
