import SwapMonitor.Guarantees.RecoveryLogs
import SwapMonitor.Persistence.RunMirrors
import SwapMonitor.Persistence.ScanCalls

namespace SwapMonitor
open Clocks Exceptions Relational

variable {e : Engine} {db : Database} {r : Repositories}

-- The number of characters a text has.
def Text.width : Text → Nat
  | .plain value => value.length
  | .digest _ => 64
  | .snapshotId _ => 79

-- The datetimes of a call have a UTC reading, and its texts are no longer than their columns.
def ScanCall.Fits : ScanCall → Prop
  | .getOrCreateState _ createdAt => Shown createdAt
  | .recordTransition _ _ _ changedAt _ _ => Shown changedAt
  | .createOrRecover scan createdAt => Shown scan.identity.scanWindowStart ∧ Shown createdAt ∧
    scan.identity.scanInterval.length ≤ 32 ∧ scan.identity.marketTimezone.length ≤ 64
  | .recordAttempt attempt => Shown attempt.startedAt ∧ (∀ completedAt ∈ attempt.completedAt, Shown completedAt) ∧
    (∀ createdAt ∈ attempt.configurationSnapshotCreatedAt, Shown createdAt) ∧
    (∀ snapshotId ∈ attempt.marketDataSnapshotId, snapshotId.width ≤ 256)
  | .attachFinalStrategyRun _ _ _ completedAt => Shown completedAt.instant
  | .recordOrGetRun _ run _ _ => run.Kept ∧ run.marketDataSnapshotId.width ≤ 256 ∧ run.stateTransition.length ≤ 128
  | .recordOrGetIntent intent => Shown intent.createdAt
  | _ => True

-- What the callers of the repositories see to: constructed arguments, stored plans and snapshots, and ids no row has.
def Admitted (e : Engine) (db : Database) (request : Request) : Prop :=
  request.call.Fits ∧ match request.call with
  | .getOrCreateState plan _ => Stored db plan
  | .recordTransition plan _ _ _ runId _ => Stored db plan ∧ db.knowsRun runId = true
  | .createOrRecover scan _ => scan.Constructed e.deployment ∧ Stored db scan.plan ∧
    ∀ row ∈ db.logicalScanRuns, row.logicalScanRunId ≠ request.fresh
  | .getByLockKey scan => scan.Constructed e.deployment
  | .recordAttempt attempt => (attempt.configurationSnapshotId.all fun id => (db.snapshot id).isSome) = true ∧
    ∀ row ∈ db.scanAttempts, row.scanAttemptId ≠ attempt.scanAttemptId
  | .attachFinalStrategyRun scanId _ _ completedAt => (e.dialect = .sqlite → completedAt.offset = 0) ∧
    ∀ row, db.scan scanId = some row → row.createdAt.restored ≤ completedAt.instant
  | .recordOrGetRun plan run key _ => Stored db plan ∧ run.Constructed ∧
    (∀ owner, requirePortfolioMutation e.deployment plan.portfolioId request.access = .ok owner →
      db.validateConfigurationSnapshotReference run plan owner = .ok ()) ∧
    (db.runOfKey plan.rotationPlanId (digestText key) = none → ∀ row ∈ db.strategyRuns, row.strategyRunId ≠ run.strategyRunId)
  | .recordOrGetIntent intent => intent.Constructed e.deployment ∧
    (db.intent intent.intentKey = none → ∀ row ∈ db.childIntents, row.childIntentId ≠ intent.childIntentId)
  | _ => True

-- Every call of a history is admitted by the tables it meets.
def AdmittedAll (e : Engine) : Database → List Request → Prop
  | _,[] => True
  | db,request :: rest => Admitted e db request ∧ AdmittedAll e (db.perform e db request).2 rest

-- The answers are the same, but that an attempt under a taken number is refused for reasons of its own.
inductive SameAnswer (call : ScanCall) : Except PyError Reply → Except PyError Reply → Prop where
  | same (answer : Except PyError Reply) : SameAnswer call answer answer
  | refused (attempt : ScanAttempt) (error error' : PyError) : call = .recordAttempt attempt →
      SameAnswer call (.error error) (.error error')

-- A call of the tables next to the same one of the dictionaries.
structure Beside (e : Engine) (call : ScanCall) (r : Repositories) (a : Except PyError Reply × Database)
    (b : Except PyError (Reply × Repositories)) : Prop where
  answer : SameAnswer call a.1 (b.map (·.1))
  mirror : Mirrors e a.2 (match b with | .ok (_,next) => next | .error _ => r).stores

theorem told_beside {α : Type} {call : ScanCall} {answer : α → Reply} {x : Except PyError (α × Database)}
    {y : Except PyError (α × Stores)} (mirror : Mirrors e db r.stores) (agree : Agree (SameAfter e) x y) :
    Beside e call r (Database.told answer db x) (Repositories.within r answer y) := by
  cases agree with
  | returned same =>
    obtain ⟨value,mirrors⟩ := same
    refine ⟨?_,mirrors⟩
    rw [Database.told,Repositories.within,value]
    exact .same _
  | raised error => exact ⟨.same _,mirror⟩

theorem read_beside {α : Type} {call : ScanCall} {answer : α → Reply} {x y : Except PyError α} (mirror : Mirrors e db r.stores)
    (same : x = y) : Beside e call r (x.map answer,db) (Repositories.reading r answer y) := by
  subst same
  cases x with
  | ok value => exact ⟨.same _,mirror⟩
  | error error => exact ⟨.same _,mirror⟩

theorem drawing_mirrors (mirror : Mirrors e db r.stores) (fresh : UUID) : Mirrors e db (r.drawing fresh).stores :=
  {mirror with states := mirror.states}

theorem recorded_beside (mirror : Mirrors e db r.stores) {access : AccessContext} {attempt : ScanAttempt}
    (configured : (attempt.configurationSnapshotId.all fun id => (db.snapshot id).isSome) = true)
    (unused : ∀ row ∈ db.scanAttempts, row.scanAttemptId ≠ attempt.scanAttemptId) :
    Beside e (.recordAttempt attempt) r
      (Database.told (fun _ => .done) db ((Database.recordAttempt e access db db attempt).map fun after => ((),after)))
      (Repositories.within r (fun _ => .done) ((r.stores.recordAttempt e.deployment access attempt).map fun stores => ((),stores))) := by
  by_cases taken : ∃ stored ∈ r.stores.attemptsByScan attempt.logicalScanRunId, stored.attemptNumber = attempt.attemptNumber
  · obtain ⟨stored,member,same⟩ := taken
    obtain ⟨⟨error,refused⟩,⟨error',refused'⟩⟩ := record_attempt_refused mirror access member same
    rw [refused,refused']
    exact ⟨.refused attempt error error' rfl,mirror⟩
  · have unnumbered : ∀ stored ∈ r.stores.attemptsByScan attempt.logicalScanRunId, stored.attemptNumber ≠ attempt.attemptNumber :=
      fun stored member same => taken ⟨stored,member,same⟩
    refine told_beside mirror (agree_map ?_)
    exact agree_imp (record_attempt_agrees mirror unused configured unnumbered) fun _ _ mirrors => ⟨rfl,mirrors⟩

theorem attached_beside (mirror : Mirrors e db r.stores) {access : AccessContext} {scanId runId : UUID} {plan : RotationPlan}
    {completedAt : AwareDatetime} (shown : Shown completedAt.instant) (kept : e.dialect = .sqlite → completedAt.offset = 0)
    (ordered : ∀ row, db.scan scanId = some row → row.createdAt.restored ≤ completedAt.instant) :
    Beside e (.attachFinalStrategyRun scanId plan runId completedAt) r
      (((Database.attachFinalStrategyRun e access db db scanId plan runId completedAt).1.map .scan),
        (Database.attachFinalStrategyRun e access db db scanId plan runId completedAt).2)
      (Repositories.within r .scan (r.stores.attachFinalStrategyRun e.deployment access scanId plan runId completedAt.instant)) := by
  have before : ∀ scan, r.stores.scansById scanId = some scan → scan.createdAt ≤ completedAt.instant := by
    intro scan held
    obtain ⟨row,found,rfl⟩ := tracks_some mirror.scans held
    simpa [logicalScanToModel] using ordered _ found
  have agrees := attach_agrees mirror access plan runId before kept shown
  cases attached : r.stores.attachFinalStrategyRun e.deployment access scanId plan runId completedAt.instant with
  | error error =>
    rw [attached] at agrees
    rw [agrees]
    exact ⟨.same _,mirror⟩
  | ok made =>
    obtain ⟨completed,later⟩ := made
    rw [attached] at agrees
    obtain ⟨after,called,mirrors⟩ := agrees
    rw [called]
    exact ⟨.same _,mirrors⟩

theorem request_beside (mirror : Mirrors e db r.stores) {request : Request} (admitted : Admitted e db request) :
    Beside e request.call (r.drawing request.fresh) (db.perform e db request)
      ((r.drawing request.fresh).perform e.deployment request.access request.call.operation) := by
  have mirror := drawing_mirrors mirror request.fresh
  obtain ⟨access,fresh,call⟩ := request
  obtain ⟨fits,admitted⟩ := admitted
  cases call with
  | getOrCreateState plan createdAt => exact told_beside mirror (get_or_create_agrees mirror admitted createdAt)
  | getState planId => exact read_beside mirror (get_state_same mirror planId)
  | recordTransition plan previous next changedAt runId key =>
    exact told_beside mirror (transition_agrees mirror admitted.1 previous next changedAt admitted.2 key)
  | createOrRecover scan createdAt =>
    exact told_beside mirror (create_or_recover_agrees mirror admitted.1 admitted.2.1 admitted.2.2 createdAt)
  | getByLockKey scan => exact read_beside mirror (by_lock_key_same mirror admitted)
  | getScan scanId => exact read_beside mirror (get_scan_same mirror scanId)
  | recordAttempt attempt => exact recorded_beside mirror admitted.1 admitted.2
  | listAttempts scanId => exact read_beside mirror (list_attempts_same mirror scanId)
  | attachFinalStrategyRun scanId plan runId completedAt => exact attached_beside mirror fits admitted.1 admitted.2
  | recordOrGetRun plan run key scanId =>
    obtain ⟨planned,constructed,configured,unused⟩ := admitted
    exact told_beside mirror (record_run_agrees mirror planned constructed fits.1 configured unused)
  | getForLogicalScan scanId => exact read_beside mirror (get_for_scan_same mirror scanId)
  | recordOrGetIntent intent => exact told_beside mirror (record_intent_agrees mirror admitted.1 admitted.2)
  | getIntent intentKey => exact read_beside mirror (get_intent_same mirror intentKey)
  | listIntents runId => exact read_beside mirror (list_intents_same mirror runId)

-- The answers to a history, one by one.
inductive SameAnswers : List Request → List (Except PyError Reply) → List (Except PyError Reply) → Prop where
  | none : SameAnswers [] [] []
  | next {request : Request} {rest : List Request} {a b : Except PyError Reply} {as bs : List (Except PyError Reply)} :
      SameAnswer request.call a b → SameAnswers rest as bs → SameAnswers (request :: rest) (a :: as) (b :: bs)

theorem served_beside (mirror : Mirrors e db r.stores) {history : List Request} (admitted : AdmittedAll e db history) :
    SameAnswers history (Database.serve e db history).1 (Repositories.serve e.deployment r history).1 ∧
      Mirrors e (Database.serve e db history).2 (Repositories.serve e.deployment r history).2.stores := by
  induction history generalizing db r with
  | nil => exact ⟨.none,mirror⟩
  | cons request rest ih =>
    obtain ⟨here,later⟩ := admitted
    have beside := request_beside mirror here
    obtain ⟨answers,mirrors⟩ := ih beside.mirror later
    exact ⟨.next beside.answer answers,mirrors⟩

theorem empty_mirrors (plans : List RotationPlanModel) (snapshots : List PersistedConfigurationSnapshot)
    (groups positions : UUID → Option UUID) :
    Mirrors e (.unscanned plans snapshots) (Repositories.constructed groups positions).stores where
  states := tracks_empty
  oneState := .nil
  legacy _ _ stored := nomatch stored
  scans := tracks_empty
  scansOfKeys := tracks_empty
  keyed _ _ stored := nomatch stored
  indexed _ _ stored := nomatch stored
  known _ _ stored := nomatch stored
  attempts _ := rfl
  chains _ := chain_empty
  recorded _ _ := rfl
  runs := tracks_empty
  runsOfKeys _ _ := .none
  linked _ _ := rfl
  runsOfScans _ := .none
  oneRun := .nil
  planned _ member := absurd member List.not_mem_nil
  ownRuns _ _ stored := nomatch stored
  intents := tracks_empty
  built _ _ stored := nomatch stored
  intentsOfRuns _ := rfl
  listed _ _ member := absurd member List.not_mem_nil
  single _ := Nat.zero_le 1

theorem adapters_agree (e : Engine) (plans : List RotationPlanModel) (snapshots : List PersistedConfigurationSnapshot)
    (groups positions : UUID → Option UUID) (history : List Request) (admitted : AdmittedAll e (.unscanned plans snapshots) history) :
    SameAnswers history (Database.serve e (.unscanned plans snapshots) history).1
        (Repositories.serve e.deployment (.constructed groups positions) history).1 ∧
      Mirrors e (Database.serve e (.unscanned plans snapshots) history).2
        (Repositories.serve e.deployment (.constructed groups positions) history).2.stores :=
  served_beside (empty_mirrors plans snapshots groups positions) admitted

def sampleEngine : Engine := ⟨sampleDeployment,.sqlite,true⟩

-- A scan and its first attempt.
def sampleHistory : List Request :=
  [⟨Repositories.sampleOwner,30,.createOrRecover Repositories.sampleLock 0⟩,
    ⟨Repositories.sampleOwner,31,.recordAttempt Repositories.runningAttempt⟩]

def sampleTables : Database := .unscanned [⟨1,2,.naive 0⟩] []

theorem lock_fits : (ScanCall.createOrRecover Repositories.sampleLock 0).Fits := ⟨by decide,by decide,by decide,by decide⟩

theorem running_fits : (ScanCall.recordAttempt Repositories.runningAttempt).Fits := ⟨by decide,by decide,by decide,by decide⟩

theorem adapters_agree_sample : AdmittedAll sampleEngine sampleTables sampleHistory ∧
    SameAnswers sampleHistory (Database.serve sampleEngine sampleTables sampleHistory).1
      (Repositories.serve sampleDeployment (.constructed (fun _ => none) fun _ => none) sampleHistory).1 := by
  have stored : Stored sampleTables samplePlan := ⟨_,rfl,rfl⟩
  have unattempted : (sampleTables.perform sampleEngine sampleTables
      ⟨Repositories.sampleOwner,30,.createOrRecover Repositories.sampleLock 0⟩).2.scanAttempts = [] := rfl
  have admitted : AdmittedAll sampleEngine sampleTables sampleHistory := by
    refine ⟨⟨lock_fits,⟨rfl,rfl⟩,stored,fun _ => List.not_mem_nil.elim⟩,⟨running_fits,rfl,?_⟩,trivial⟩
    rw [unattempted]
    exact fun _ => List.not_mem_nil.elim
  exact ⟨admitted,(adapters_agree _ _ _ _ _ _ admitted).1⟩

end SwapMonitor
