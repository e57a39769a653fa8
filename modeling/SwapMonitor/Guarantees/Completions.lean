import SwapMonitor.Guarantees.AdapterRefinement

namespace SwapMonitor
open Clocks Exceptions Relational

variable {e : Engine} {access : AccessContext} {db : Database} {w : Stores}

-- A completion whose evidence is there, from the tables it meets to what its caller and later readers are told.
structure CompletionExact (e : Engine) (scan : LogicalScanRun) (plan : RotationPlan) (strategyRunId : UUID) (completedAt : AwareDatetime)
    (answer : Except PyError LogicalScanRun) (after : Database) : Prop where
  written : after.scan scan.logicalScanRunId =
    some (Database.completedRow (e.dialect.column completedAt) (logicalScanToModel e.dialect scan))
  answered : (∃ completed, answer = .ok completed) ↔ Shown completedAt.instant ∧ scan.createdAt ≤ completedAt.instant
  overflowed : ¬Shown completedAt.instant → answer = .error outOfRange
  told : ∀ completed, answer = .ok completed → completed.completedAt = some completedAt.instant ∧
    completed.finalStrategyRunId = some strategyRunId ∧ completed.identity = scan.identity
  readable : ∀ reader owner, requirePortfolioRead e.deployment scan.portfolioId reader = .ok owner →
    ((∃ stored, Database.getScan e reader after scan.logicalScanRunId = .ok stored) ↔
      (e.dialect.column completedAt).Readable ∧ scan.createdAt ≤ (e.dialect.column completedAt).restored)
  same : ∀ reader completed stored, answer = .ok completed → Database.getScan e reader after scan.logicalScanRunId = .ok stored →
    (stored = completed ↔ (e.dialect = .sqlite → completedAt.offset = 0))
  once : ∀ again run later, (∃ owner, requirePortfolioMutation e.deployment scan.portfolioId again = .ok owner) →
    scan.rotationPlanId = plan.rotationPlanId → scan.portfolioId = plan.portfolioId →
    Database.attachFinalStrategyRun e again after after scan.logicalScanRunId plan run later =
      (raise .logicalScanAlreadyCompletedError "logical scan already has a final strategy run",after)

-- The fields a completed row is restored to.
def LogicalScanRun.completedFields (scan : LogicalScanRun) (strategyRunId : UUID) (completedAt : Instant) : ScanFields :=
  {scan.fields with status := .completed,completedAt := some completedAt,finalStrategyRunId := some strategyRunId}

theorem completed_fields {d : Deployment} {scan : LogicalScanRun} (constructed : scan.Constructed d) (strategyRunId : UUID)
    (completedAt : Instant) : (scan.completedFields strategyRunId completedAt).postInit d = .ok () ↔ scan.createdAt ≤ completedAt := by
  simp only [LogicalScanRun.Constructed,ScanFields.postInit,bind_ok,raiseIf_ok,exists_const] at constructed ⊢
  obtain ⟨dark,_,identity,key,_⟩ := constructed
  constructor
  · intro accepted
    obtain ⟨_,_,_,_,outcome⟩ := accepted
    exact scan_outcome.mp outcome
  · exact fun ordered => ⟨dark,(),identity,key,scan_outcome.mpr ordered⟩

-- What a completed row is read as, when its column is.
def LogicalScanRun.completedFrom (d : Deployment) (scan : LogicalScanRun) (strategyRunId : UUID) (column : ColumnDatetime) :
    Except PyError LogicalScanRun := do
  let completedAt ← restoreDatetime column
  LogicalScanRun.create d (scan.completedFields strategyRunId completedAt.instant)

theorem completed_from {d : Deployment} {scan completed : LogicalScanRun} {strategyRunId : UUID} {column : ColumnDatetime} :
    scan.completedFrom d strategyRunId column = .ok completed ↔
      column.Readable ∧ LogicalScanRun.create d (scan.completedFields strategyRunId column.restored) = .ok completed := by
  simp only [LogicalScanRun.completedFrom,bind_ok,restore_ok]
  constructor
  · rintro ⟨_,⟨readable,rfl⟩,created⟩
    exact ⟨readable,created⟩
  · rintro ⟨readable,created⟩
    exact ⟨_,⟨readable,rfl⟩,created⟩

theorem completed_exact {d : Deployment} {scan : LogicalScanRun} (constructed : scan.Constructed d) (strategyRunId : UUID)
    (column : ColumnDatetime) : (∃ completed, scan.completedFrom d strategyRunId column = .ok completed) ↔
      column.Readable ∧ scan.createdAt ≤ column.restored := by
  rw [← completed_fields constructed strategyRunId column.restored]
  constructor
  · intro ⟨completed,read⟩
    obtain ⟨readable,created⟩ := completed_from.mp read
    exact ⟨readable,(build_exact.mp created).1⟩
  · exact fun ⟨readable,accepted⟩ => ⟨_,completed_from.mpr ⟨readable,build_accepted accepted⟩⟩

theorem created_fields {d : Deployment} {fields : ScanFields} {scan : LogicalScanRun} (created : LogicalScanRun.create d fields = .ok scan) :
    scan.fields = fields := by
  obtain ⟨_,rfl⟩ := build_exact.mp created
  rfl

theorem scan_fields_injective {a b : LogicalScanRun} : a = b ↔ a.fields = b.fields := by
  constructor
  · exact congrArg _
  · intro same
    cases a
    cases b
    simp only [LogicalScanRun.fields,ScanFields.mk.injEq] at same
    obtain ⟨rfl,rfl,rfl,rfl,rfl,rfl,rfl,rfl,rfl,rfl,rfl,rfl,rfl⟩ := same
    rfl

theorem completion_exact (mirror : Mirrors e db w) {scan : LogicalScanRun} (held : w.scansById scan.logicalScanRunId = some scan)
    {plan : RotationPlan} {strategyRunId : UUID} (evidence : w.requireFinalEvidence e.deployment access scan plan strategyRunId = .ok ())
    (completedAt : AwareDatetime) :
    ∃ answer after, Database.attachFinalStrategyRun e access db db scan.logicalScanRunId plan strategyRunId completedAt = (answer,after) ∧
      CompletionExact e scan plan strategyRunId completedAt answer after := by
  obtain ⟨row,found,rfl⟩ := tracks_some mirror.scans held
  have known := mirror.known _ scan held
  have agreed := evidence_agrees mirror access known plan strategyRunId
  rw [evidence] at agreed
  simp only [Stores.requireFinalEvidence,bind_ok,raiseIf_ok,exists_const,decide_eq_false_iff_not,not_not] at evidence
  obtain ⟨_,_,_,_,recorded,_⟩ := evidence
  have final := (final_run mirror scan.logicalScanRunId).trans recorded
  have called : Database.attachFinalStrategyRun e access db db scan.logicalScanRunId plan strategyRunId completedAt =
      (scan.completedFrom e.deployment strategyRunId (.aware completedAt),
        {db with
          logicalScanRuns := update (·.logicalScanRunId == scan.logicalScanRunId)
            (Database.completedRow (e.dialect.column completedAt)) db.logicalScanRuns}) := by
    simp only [Database.attachFinalStrategyRun,Database.scan,found,agreed]
    exact Prod.ext (completed_domain (.aware completedAt) final) rfl
  refine ⟨_,_,called,?_⟩
  have keyed : ∀ row, (Database.completedRow (e.dialect.column completedAt) row).logicalScanRunId = row.logicalScanRunId := fun _ => rfl
  have written : {db with
      logicalScanRuns := update (·.logicalScanRunId == scan.logicalScanRunId)
        (Database.completedRow (e.dialect.column completedAt)) db.logicalScanRuns}.scan scan.logicalScanRunId =
      some (Database.completedRow (e.dialect.column completedAt) (logicalScanToModel e.dialect scan)) := by
    refine (lookup_update keyed).trans ?_
    rw [found,Option.map_some]
    simp [logicalScanToModel]
  generalize left : {db with
      logicalScanRuns := update (·.logicalScanRunId == scan.logicalScanRunId)
        (Database.completedRow (e.dialect.column completedAt)) db.logicalScanRuns} = after at written ⊢
  have portfolio : after.planPortfolioId
      (Database.completedRow (e.dialect.column completedAt) (logicalScanToModel e.dialect scan)).rotationPlanId = .ok scan.portfolioId := by
    subst left
    exact plan_portfolio known
  have domain : Database.scanToDomain e after
      (Database.completedRow (e.dialect.column completedAt) (logicalScanToModel e.dialect scan)) scan.portfolioId =
      scan.completedFrom e.deployment strategyRunId (e.dialect.column completedAt) := by
    subst left
    exact completed_domain _ final
  have got : ∀ reader, Database.getScan e reader after scan.logicalScanRunId = (do
      let _ ← requirePortfolioRead e.deployment scan.portfolioId reader
      scan.completedFrom e.deployment strategyRunId (e.dialect.column completedAt)) := by
    intro reader
    simp only [Database.getScan,written,portfolio,returned_bind,domain]
  refine ⟨written,completed_exact known.constructed _ (.aware completedAt),?_,?_,?_,?_,?_⟩
  · intro outside
    simp [LogicalScanRun.completedFrom,restoreDatetime,AwareDatetime.astimezoneUtc,requireShown,outside,Bind.bind,Except.bind]
  · intro completed read
    have fields := created_fields (completed_from.mp read).2
    refine ⟨congrArg ScanFields.completedAt fields,congrArg ScanFields.finalStrategyRunId fields,?_⟩
    exact congrArg ScanFields.identity fields
  · intro reader owner readable
    rw [got,readable,returned_bind]
    exact completed_exact known.constructed _ _
  · intro reader completed stored created read
    rw [got,bind_ok] at read
    obtain ⟨_,_,restored⟩ := read
    rw [scan_fields_injective,created_fields (completed_from.mp created).2,created_fields (completed_from.mp restored).2,
      ← column_restored e.dialect completedAt]
    simp [LogicalScanRun.completedFields,ColumnDatetime.restored]
  · intro again run later owned rotation own
    obtain ⟨owner,mutable⟩ := owned
    have refused : Database.requireFinalEvidence e again after
        (Database.completedRow (e.dialect.column completedAt) (logicalScanToModel e.dialect scan)) plan run =
        raise .logicalScanAlreadyCompletedError "logical scan already has a final strategy run" := by
      simp only [Database.requireFinalEvidence,portfolio,returned_bind,mutable]
      simp [Database.completedRow,logicalScanToModel,rotation,own,raiseIf,raise,Bind.bind,Except.bind]
    simp only [Database.attachFinalStrategyRun,written,refused]
    rfl

-- In every run of admitted calls a scan with its evidence is completed so.
theorem completions_exact {plans : List RotationPlanModel} {snapshots : List PersistedConfigurationSnapshot} {history : List Request}
    (admitted : AdmittedAll e (.unscanned plans snapshots) history) {r : Repositories}
    (served : (Repositories.serve e.deployment (.constructed (fun _ => none) fun _ => none) history).2 = r)
    (left : (Database.serve e (.unscanned plans snapshots) history).2 = db) {scan : LogicalScanRun}
    (held : r.stores.scansById scan.logicalScanRunId = some scan) {plan : RotationPlan} {strategyRunId : UUID}
    (evidence : r.stores.requireFinalEvidence e.deployment access scan plan strategyRunId = .ok ()) (completedAt : AwareDatetime) :
    ∃ answer after, Database.attachFinalStrategyRun e access db db scan.logicalScanRunId plan strategyRunId completedAt = (answer,after) ∧
      CompletionExact e scan plan strategyRunId completedAt answer after := by
  subst served left
  exact completion_exact (served_beside (empty_mirrors plans snapshots _ _) admitted).2 held evidence completedAt

def finalFields : AttemptFields :=
  {Repositories.runningFields with
    attemptNumber := 1
    status := .succeeded
    marketDataSnapshotId := some (.plain "market")
    marketDataContentHash := some 8
    completedAt := some 1
    finalStrategyRunId := some 10
    finalStrategyKey := some 1
    finalStrategyIdentityFormatVersion := some "strategy-run:v1"
    finalizationDisposition := some .applied}

def finalAttempt : ScanAttempt := ⟨finalFields,by decide +kernel⟩

-- A scan, its run, and the attempt that made it.
def openRequest : Request := ⟨Repositories.sampleOwner,30,.createOrRecover Repositories.sampleLock 0⟩
def runRequest : Request := ⟨Repositories.sampleOwner,31,.recordOrGetRun samplePlan Repositories.firstRun 1 (some 30)⟩
def finalRequest : Request := ⟨Repositories.sampleOwner,32,.recordAttempt finalAttempt⟩

def configuredTables : Database := .unscanned [⟨1,2,.naive 0⟩] [⟨sampleSnapshotRef,.system,1⟩]
def openedTables : Database := (configuredTables.perform sampleEngine configuredTables openRequest).2
def runTables : Database := (openedTables.perform sampleEngine openedTables runRequest).2

def finalTables : Database := (Database.serve sampleEngine configuredTables [openRequest,runRequest,finalRequest]).2
def finalScan : LogicalScanRun := Database.newScan sampleEngine 30 Repositories.sampleLock 0

theorem firstRun_fits : (ScanCall.recordOrGetRun samplePlan Repositories.firstRun 1 (some 30)).Fits :=
  ⟨⟨⟨by decide,by decide⟩,rfl⟩,by decide,by decide⟩

theorem final_fits : (ScanCall.recordAttempt finalAttempt).Fits := ⟨by decide,by decide,by decide,by decide⟩

theorem final_admitted : AdmittedAll sampleEngine configuredTables [openRequest,runRequest,finalRequest] := by
  have unrecorded : openedTables.strategyRuns = [] := rfl
  have unattempted : runTables.scanAttempts = [] := by decide +kernel
  refine ⟨⟨lock_fits,⟨rfl,rfl⟩,⟨_,rfl,rfl⟩,fun _ => List.not_mem_nil.elim⟩,
    ⟨firstRun_fits,⟨_,rfl,rfl⟩,Repositories.firstRun_constructed,?_,?_⟩,⟨final_fits,rfl,?_⟩,trivial⟩
  · intro owner allowed
    cases allowed
    rfl
  · intro _
    rw [show (configuredTables.perform sampleEngine configuredTables openRequest).2.strategyRuns = [] from unrecorded]
    exact fun _ => List.not_mem_nil.elim
  · intro row member
    have listed : row ∈ runTables.scanAttempts := member
    rw [unattempted] at listed
    exact absurd listed List.not_mem_nil

-- Its caller gave a time of a clock eight hours ahead of UTC.
def taipeiTime : AwareDatetime := ⟨5,{offset := 28800000000}⟩

theorem completions_exact_sample : ∃ answer after,
    Database.attachFinalStrategyRun sampleEngine Repositories.sampleOwner finalTables finalTables 30 samplePlan 10 taipeiTime =
      (answer,after) ∧ CompletionExact sampleEngine finalScan samplePlan 10 taipeiTime answer after :=
  completions_exact final_admitted rfl rfl (show _ = some finalScan from rfl) rfl taipeiTime

end SwapMonitor
