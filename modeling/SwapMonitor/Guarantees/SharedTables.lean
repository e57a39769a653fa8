import SwapMonitor.Guarantees.RecordHistories
import SwapMonitor.Persistence.RunMirrors
import SwapMonitor.Persistence.TableInvariants

namespace SwapMonitor
open Exceptions Relational

variable {e : Engine} {access : AccessContext} {seen db current after : Database} {earlier : List Database} {log : List ServedCall}
  {plans : List RotationPlanModel} {snapshots : List PersistedConfigurationSnapshot}

theorem timeline_tables (timeline : Timeline e (.unscanned plans snapshots) (current :: earlier) log) :
    ∀ db ∈ current :: earlier, ScanTables e db := by
  generalize same : current :: earlier = history at timeline
  induction timeline generalizing current earlier with
  | start =>
    obtain ⟨rfl,rfl⟩ := List.cons.inj same
    intro db member
    obtain rfl := List.mem_singleton.mp member
    exact unscanned_tables plans snapshots
  | @call current' earlier' log' request seen path read ih =>
    obtain ⟨rfl,rfl⟩ := List.cons.inj same
    intro db member
    rcases List.mem_cons.mp member with rfl | before
    · have chains : ∀ scanId, ∃ attempts, Attempted e seen scanId attempts ∧ RecoveryChain attempts := by
        intro scanId
        obtain ⟨at_time,place,same⟩ := read.scanAttempts
        obtain ⟨attempts,attempted,chain⟩ := (ih rfl at_time place).chains scanId
        refine ⟨attempts,?_,chain⟩
        rw [Attempted,Database.attemptsOf,same]
        exact attempted
      exact leaves_tables (seen_grows path read) chains (ih rfl _ (List.mem_cons_self ..)) (request_leaves request)
    · exact ih rfl db before

section Attempts

-- The attempts of the scans, whatever the sessions had read that recorded them.
structure AttemptHistory (e : Engine) (history : List Database) (current : Database) : Prop where
  chains : ∀ scanId, ∃ attempts, Attempted e current scanId attempts ∧ RecoveryChain attempts
  appended : ∀ db ∈ history, ∀ scanId, db.attemptsOf scanId <+: current.attemptsOf scanId
  finals : ∀ scanId, ∀ row ∈ current.attemptsOf scanId, ∀ runId, row.finalStrategyRunId = some runId →
    (current.runOfScan scanId).map (·.strategyRunId) = some runId
  completed : ∀ scanId row, current.scan scanId = some row → row.status = "COMPLETED" → ∃ run, current.runOfScan scanId = some run ∧
    ∃ attempt ∈ current.attemptsOf scanId, attempt.status = "SUCCEEDED" ∧ attempt.finalStrategyRunId = some run.strategyRunId
  settled : ∀ db ∈ history, ∀ scanId row, db.scan scanId = some row → row.status = "COMPLETED" →
    (∃ now, current.scan scanId = some now ∧ now.status = "COMPLETED") ∧ current.runOfScan scanId = db.runOfScan scanId

theorem completed_final_run (tables : ScanTables e db) {scanId : UUID} {row : LogicalScanRunModel} (found : db.scan scanId = some row)
    (done : row.status = "COMPLETED") : ∃ run, db.runOfScan scanId = some run ∧
      ∃ attempt ∈ db.attemptsOf scanId, attempt.status = "SUCCEEDED" ∧ attempt.finalStrategyRunId = some run.strategyRunId := by
  obtain ⟨attempt,member,succeeded,final⟩ := tables.completed scanId row found done
  obtain ⟨runId,named⟩ := Option.isSome_iff_exists.mp final
  obtain ⟨run,linked,same⟩ := Option.map_eq_some_iff.mp (tables.finals scanId attempt member runId named)
  exact ⟨run,linked,attempt,member,succeeded,by rw [named,same]⟩

theorem attempts_survive_races (timeline : Timeline e (.unscanned plans snapshots) (current :: earlier) log) :
    AttemptHistory e (current :: earlier) current := by
  have tables := timeline_tables timeline
  have now := tables current (List.mem_cons_self ..)
  have grows := timeline_grows timeline
  refine ⟨now.chains,?_,now.finals,fun scanId row found done => completed_final_run now found done,?_⟩
  · exact fun db member scanId => grown_attempts (grows db member) scanId
  · intro db member scanId row found done
    obtain ⟨run,linked,_⟩ := completed_final_run (tables db member) found done
    obtain ⟨later,there,kept⟩ := (grows db member).scans scanId row found
    refine ⟨⟨later,there,kept.completed done⟩,?_⟩
    rw [linked]
    exact lookup_grown (grows db member).runs linked

-- Two sessions have read a scan without attempts, and each records a first one.
def scanRequest (fresh : UUID) : Request := ⟨Repositories.sampleOwner,fresh,.createOrRecover Repositories.sampleLock 0⟩
def attemptRequest : Request := ⟨Repositories.sampleOwner,32,.recordAttempt Repositories.runningAttempt⟩

def scannedTables : Database := (sampleTables.perform sampleEngine sampleTables (scanRequest 30)).2
def attemptedTables : Database := (scannedTables.perform sampleEngine scannedTables attemptRequest).2
def attemptedTwice : Database := (scannedTables.perform sampleEngine attemptedTables attemptRequest).2

theorem attempts_survive_races_sample :
    AttemptHistory sampleEngine [attemptedTwice,attemptedTables,scannedTables,sampleTables] attemptedTwice ∧
      (attemptedTwice.attemptsOf 30).length = 1 := by
  have scanned : Timeline sampleEngine sampleTables [scannedTables,sampleTables] _ :=
    .call (scanRequest 30) sampleTables .start (read_at (List.mem_cons_self ..))
  have attempted : Timeline sampleEngine sampleTables [attemptedTables,scannedTables,sampleTables] _ :=
    .call attemptRequest scannedTables scanned (read_at (List.mem_cons_self ..))
  have twice : Timeline sampleEngine sampleTables [attemptedTwice,attemptedTables,scannedTables,sampleTables] _ :=
    .call attemptRequest scannedTables attempted (read_at (List.mem_cons_of_mem _ (List.mem_cons_self ..)))
  exact ⟨attempts_survive_races twice,rfl⟩

end Attempts

section FirstWins

-- A served call as its session made it.
structure Made (e : Engine) (history : List Database) (served : ServedCall) (seen : Database) : Prop where
  grown : Grows seen served.met
  tables : ScanTables e served.met
  performed : seen.perform e served.met served.request = (served.answer,served.left)
  left : served.left ∈ history

theorem served_made (timeline : Timeline e (.unscanned plans snapshots) (current :: earlier) log) :
    ∀ served ∈ log, ∃ seen, Made e (current :: earlier) served seen := by
  generalize same : current :: earlier = history at timeline
  induction timeline generalizing current earlier with
  | start => exact fun _ member => absurd member List.not_mem_nil
  | call request seen path read ih =>
    obtain ⟨rfl,rfl⟩ := List.cons.inj same
    intro served member
    rcases List.mem_cons.mp member with rfl | before
    · exact ⟨seen,seen_grows path read,timeline_tables path _ (List.mem_cons_self ..),rfl,List.mem_cons_self ..⟩
    · obtain ⟨seen,made⟩ := ih rfl served before
      exact ⟨seen,made.grown,made.tables,made.performed,List.mem_cons_of_mem _ made.left⟩

theorem told_ok {α : Type} {answer : α → Reply} {x : Except PyError (α × Database)} {reply : Reply}
    (told : Database.told answer current x = (.ok reply,after)) : ∃ value, x = .ok (value,after) ∧ answer value = reply := by
  cases x with
  | error error => cases told
  | ok made =>
    obtain ⟨value,left⟩ := made
    cases told
    exact ⟨value,rfl,rfl⟩

-- The tables answer under the key of the first row that had it.
theorem run_first {plan : RotationPlan} {run answer : StrategyRun} {key : Digest} {scanId : Option UUID} (grown : Grows seen current)
    (constructed : run.Constructed)
    (answered : Database.recordOrGetRun e access seen current plan run key scanId = .ok (answer,after)) :
    ∃ row, after.runOfKey plan.rotationPlanId (digestText key) = some row ∧ RunRow row answer.restored ∧
      row.logicalScanRunId = scanId ∧ answer.same run = true := by
  obtain ⟨own,⟨rfl,db,row,read,found,retried⟩ | ⟨rfl,_,row,checks,rows,written,inserted,rfl⟩⟩ := run_recorded answered
  · simp only [Database.exactStrategyRunRetry,bind_ok,pure_ok] at retried
    obtain ⟨existing,restored,_,accepted,rfl⟩ := retried
    obtain ⟨same,linked⟩ := retry_accepted.mp accepted
    refine ⟨row,?_,(read_restored restored).symm ▸ restored,linked,same⟩
    rcases read with rfl | rfl
    · exact lookup_grown grown.runs found
    · exact found
  · obtain ⟨row',again,scanned,named,restored⟩ := run_modelled constructed (modelled_storable written) (digestKey key) scanId
    obtain rfl := Except.ok.inj (again.symm.trans written)
    obtain ⟨_,clear,rfl⟩ := insert_ok.mp inserted
    have keyed : (row'.rotationPlanId,row'.idempotencyKey) = (plan.rotationPlanId,digestText key) := by
      rw [← (run_row restored).2.1,← own,named]
      rfl
    have indexed : index "uq_strategy_run_key" everywhere (fun run : StrategyRunModel => (run.rotationPlanId,run.idempotencyKey)) ∈
        Database.runIndexes := List.mem_cons_of_mem _ (List.mem_cons_self ..)
    have free : lookup (fun run : StrategyRunModel => (run.rotationPlanId,run.idempotencyKey))
        (plan.rotationPlanId,digestText key) current.strategyRuns = none :=
      clear_free (clear _ indexed) keyed fun _ _ => rfl
    exact ⟨row',lookup_new free keyed,restored,scanned,StrategyRun.constructed_same constructed⟩

-- What a row of logical_scan_runs and a scan say of each other.
structure ScanRow (row : LogicalScanRunModel) (scan : LogicalScanRun) : Prop where
  named : row.logicalScanRunId = scan.logicalScanRunId
  locked : row.scanLockKey = scan.scanLockKey
  identity : (⟨row.rotationPlanId,row.marketSessionDate,row.scanWindowStart.restored,row.scanInterval,row.configurationSnapshotHash,
    row.marketTimezone⟩ : ScanIdentity) = scan.identity

-- The scan a request asks for: its plan, portfolio and key, and every component of its identity.
structure AskedScan (d : Deployment) (request : ScanLockRequest) (scan : LogicalScanRun) : Prop where
  portfolio : scan.portfolioId = request.plan.portfolioId
  locked : scan.scanLockKey = request.key d
  identity : scan.identity = {request.identity with rotationPlanId := request.plan.rotationPlanId}

theorem restored_scan {d : Deployment} {row : LogicalScanRunModel} {portfolioId : UUID} {final : Option UUID} {scan : LogicalScanRun}
    (restored : logicalScanFromModel d row portfolioId final = .ok scan) : ScanRow row scan ∧ scan.portfolioId = portfolioId := by
  simp only [logicalScanFromModel,LogicalScanRun.create,bind_ok] at restored
  obtain ⟨_,_,_,_,built⟩ := restored
  obtain ⟨_,rfl⟩ := build_exact.mp built
  exact ⟨⟨rfl,rfl,rfl⟩,rfl⟩

theorem ScanRow.later {row now : LogicalScanRunModel} {scan : LogicalScanRun} (kept : ScanRow row scan) (later : LaterScan row now) :
    ScanRow now scan := by
  obtain ⟨named,locked,identity⟩ := kept
  rw [later.columns]
  exact ⟨named,locked,identity⟩

theorem scan_first {fresh : UUID} {request : ScanLockRequest} {createdAt : Instant} {scan : LogicalScanRun} (grown : Grows seen current)
    (answered : Database.createOrRecover e access seen current fresh request createdAt = .ok (scan,after)) :
    ∃ row, after.scanOfKey (request.key e.deployment) = some row ∧ ScanRow row scan ∧ AskedScan e.deployment request scan := by
  rcases scan_created answered with ⟨rfl,db,row,read,found,asked⟩ | ⟨rfl,checks,rows,inserted,rfl⟩
  · simp only [Database.scanForRequest,bind_ok,raiseIf_ok,exists_const,Bool.not_eq_false',Bool.and_eq_true,beq_iff_eq] at asked
    obtain ⟨_,_,⟨⟨⟨⟨⟨⟨⟨plan,portfolio⟩,date⟩,start⟩,interval⟩,zone⟩,hash⟩,key⟩,_,_,restored⟩ := asked
    obtain ⟨kept,owned⟩ := restored_scan restored
    have held : ∃ now, after.scanOfKey (request.key e.deployment) = some now ∧ LaterScan row now := by
      rcases read with rfl | rfl
      · exact grown.scansOfKeys _ row found
      · exact ⟨row,found,later_refl row⟩
    obtain ⟨now,here,later⟩ := held
    refine ⟨now,here,kept.later later,owned.trans portfolio,kept.locked.symm.trans key,?_⟩
    rw [← kept.identity,plan,date,start,interval,hash,zone]
  · obtain ⟨_,clear,rfl⟩ := insert_ok.mp inserted
    have indexed : index "logical_scan_runs_scan_lock_key_key" everywhere (fun scan : LogicalScanRunModel => scan.scanLockKey) ∈
        Database.scanIndexes := List.mem_cons_of_mem _ (List.mem_cons_self ..)
    have free : lookup (fun scan : LogicalScanRunModel => scan.scanLockKey) (request.key e.deployment) current.logicalScanRuns = none :=
      clear_free (clear _ indexed) rfl fun _ _ => rfl
    refine ⟨_,lookup_new free rfl,⟨rfl,rfl,?_⟩,rfl,rfl,rfl⟩
    simp only [logicalScanToModel,persisted_restored]
    rfl

theorem intent_first {intent answer : ChildIntent} (grown : Grows seen current) (constructed : intent.Constructed e.deployment)
    (answered : Database.recordOrGetIntent e access seen current intent = .ok (answer,after)) :
    ∃ row, after.intent intent.intentKey = some row ∧ childIntentFromModel e.deployment row = .ok answer ∧
      sameLogicalChildIntent answer intent = true := by
  rcases intent_recorded answered with ⟨rfl,db,row,read,found,retried⟩ | ⟨rfl,_,checks,rows,inserted,rfl⟩
  · simp only [Database.exactIntentRetry,bind_ok,raiseIf_ok,exists_const,pure_ok,Bool.not_eq_false'] at retried
    obtain ⟨restored,read_back,_,_,same,rfl⟩ := retried
    refine ⟨row,?_,read_back,same⟩
    rcases read with rfl | rfl
    · exact lookup_grown grown.intents found
    · exact found
  · obtain ⟨_,clear,rfl⟩ := insert_ok.mp inserted
    have indexed : index "uq_child_intent_key" everywhere (fun intent : ChildIntentModel => intent.intentKey) ∈ Database.intentIndexes :=
      List.mem_cons_of_mem _ (List.mem_cons_self ..)
    have free : lookup (fun intent : ChildIntentModel => intent.intentKey) answer.intentKey current.childIntents = none :=
      clear_free (clear _ indexed) rfl fun _ _ => rfl
    exact ⟨_,lookup_new free rfl,intent_restored e.dialect constructed,by simp [sameLogicalChildIntent]⟩

-- Of all sessions that ask for a scan, a run or an intent under one key, whenever they had read the tables, the first to write
-- decides, and the others are told the same.
structure FirstWins (e : Engine) (log : List ServedCall) (current : Database) : Prop where
  scans : ∀ served ∈ log, ∀ request createdAt scan, served.request.call = .createOrRecover request createdAt →
    served.answer = .ok (.scan scan) → ∃ row, current.scanOfKey (request.key e.deployment) = some row ∧
      ScanRow row scan ∧ AskedScan e.deployment request scan
  runs : ∀ served ∈ log, ∀ plan run key scanId answer, served.request.call = .recordOrGetRun plan run key scanId →
    served.answer = .ok (.run answer) → run.Constructed → ∃ row, current.runOfKey plan.rotationPlanId (digestText key) = some row ∧
      RunRow row answer.restored ∧ row.logicalScanRunId = scanId ∧ answer.same run = true ∧
      ∀ id, scanId = some id → current.runOfScan id = some row
  intents : ∀ served ∈ log, ∀ intent answer, served.request.call = .recordOrGetIntent intent → served.answer = .ok (.intent answer) →
    intent.Constructed e.deployment → ∃ row, current.intent intent.intentKey = some row ∧
      childIntentFromModel e.deployment row = .ok answer ∧ sameLogicalChildIntent answer intent = true

theorem first_writer_wins (timeline : Timeline e (.unscanned plans snapshots) (current :: earlier) log) : FirstWins e log current := by
  have grows := timeline_grows timeline
  have made := served_made timeline
  refine ⟨?_,?_,?_⟩
  · intro served member request createdAt scan call answer
    obtain ⟨seen,made⟩ := made served member
    have performed := made.performed
    obtain ⟨⟨access,fresh,asked⟩,told,met,left⟩ := served
    simp only at call answer performed
    subst call answer
    obtain ⟨value,answered,same⟩ := told_ok performed
    cases same
    obtain ⟨row,found,kept,asked⟩ := scan_first made.grown answered
    obtain ⟨now,here,later⟩ := (grows left made.left).scansOfKeys _ row found
    exact ⟨now,here,kept.later later,asked⟩
  · intro served member plan run key scanId answer call answered constructed
    obtain ⟨seen,made⟩ := made served member
    have performed := made.performed
    obtain ⟨⟨access,fresh,asked⟩,told,met,left⟩ := served
    simp only at call answered performed
    subst call answered
    obtain ⟨value,recorded,same⟩ := told_ok performed
    cases same
    obtain ⟨row,found,restored,linked,same⟩ := run_first made.grown constructed recorded
    have here : current.runOfKey plan.rotationPlanId (digestText key) = some row := lookup_grown (grows left made.left).runs found
    refine ⟨row,here,restored,linked,same,?_⟩
    intro id scanned
    have covered : ∀ other : StrategyRunModel, other.logicalScanRunId = row.logicalScanRunId → other.logicalScanRunId.isSome = true := by
      intro other same
      rw [same,linked,scanned]
      rfl
    have known := lookup_distinct (timeline_tables timeline current (List.mem_cons_self ..)).oneRun covered (lookup_some here).1
    rw [linked,scanned] at known
    exact known
  · intro served member intent answer call answered constructed
    obtain ⟨seen,made⟩ := made served member
    have performed := made.performed
    obtain ⟨⟨access,fresh,asked⟩,told,met,left⟩ := served
    simp only at call answered performed
    subst call answered
    obtain ⟨value,recorded,same⟩ := told_ok performed
    cases same
    obtain ⟨row,found,restored,same⟩ := intent_first made.grown constructed recorded
    exact ⟨row,lookup_grown (grows left made.left).intents found,restored,same⟩

-- Two sessions have read no scan, and each draws an id for it.
def scannedTwice : Database := (sampleTables.perform sampleEngine scannedTables (scanRequest 31)).2

def scannedLog : List ServedCall :=
  [⟨scanRequest 31,(sampleTables.perform sampleEngine scannedTables (scanRequest 31)).1,scannedTables,scannedTwice⟩,
    ⟨scanRequest 30,(sampleTables.perform sampleEngine sampleTables (scanRequest 30)).1,sampleTables,scannedTables⟩]

def ServedCall.scanId (served : ServedCall) : Option UUID :=
  match served.answer with
  | .ok (.scan scan) => some scan.logicalScanRunId
  | _ => none

theorem first_writer_wins_sample : FirstWins sampleEngine scannedLog scannedTwice ∧
    scannedLog.map (·.scanId) = [some 30,some 30] := by
  have scanned : Timeline sampleEngine sampleTables [scannedTables,sampleTables] _ :=
    .call (scanRequest 30) sampleTables .start (read_at (List.mem_cons_self ..))
  have twice : Timeline sampleEngine sampleTables [scannedTwice,scannedTables,sampleTables] scannedLog :=
    .call (scanRequest 31) sampleTables scanned (read_at (List.mem_cons_of_mem _ (List.mem_cons_self ..)))
  exact ⟨first_writer_wins twice,rfl⟩

end FirstWins

end SwapMonitor
