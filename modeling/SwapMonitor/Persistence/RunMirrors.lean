import SwapMonitor.Persistence.RunIndexes
import SwapMonitor.Persistence.ScanMirrors

namespace SwapMonitor
open Exceptions Relational
open Function (update_self update_of_ne)

variable {e : Engine} {access : AccessContext} {db : Database} {w : Stores}

section StrategyRuns

def digestKey (value : Digest) : IdempotencyKey := ⟨digestText value,digest_named value⟩

-- The row of a new run, and what its columns say.
structure NewRow (run : StrategyRun) (idempotencyKey : Digest) (scanId : Option UUID) (row : StrategyRunModel) : Prop where
  written : strategyRunToModel run (digestText idempotencyKey) scanId = .ok row
  restored : RunRow row run
  scanned : row.logicalScanRunId = scanId
  keyed : row.idempotencyKey = digestText idempotencyKey

theorem new_row {run : StrategyRun} (constructed : run.Constructed) (kept : run.Kept) (idempotencyKey : Digest)
    (scanId : Option UUID) : ∃ row, NewRow run idempotencyKey scanId row := by
  obtain ⟨row,written,scanned,keyed,restored⟩ := run_modelled constructed kept.storable (digestKey idempotencyKey) scanId
  rw [kept.plain] at restored
  exact ⟨row,written,restored,scanned,keyed⟩

-- The conditions of a run that is new: its plan is stored, its snapshot is, and no stored run has its id.
structure Recordable (e : Engine) (db : Database) (plan : RotationPlan) (run : StrategyRun) : Prop where
  planned : Stored db plan
  owned : Database.knowsPortfolio e plan.portfolioId = true
  own : run.rotationPlanId = plan.rotationPlanId ∧ run.portfolioId = plan.portfolioId
  configured : (db.snapshot run.configurationSnapshot.snapshotId).isSome = true
  unused : ∀ row ∈ db.strategyRuns, row.strategyRunId ≠ run.strategyRunId

theorem run_references {plan : RotationPlan} {run : StrategyRun} {idempotencyKey : Digest} {scanId : Option UUID} {row : StrategyRunModel}
    (recordable : Recordable e db plan run) (new : NewRow run idempotencyKey scanId row)
    (scanned : ∀ id, scanId = some id → (db.scan id).isSome = true) :
    ∀ check ∈ Database.runReferences e db row, check.2 = true := by
  obtain ⟨_,planned,owned,configured⟩ := run_row new.restored
  simp only [Database.runReferences,List.forall_mem_cons,List.not_mem_nil,false_implies,implies_true,and_true]
  refine ⟨reference_known ?_,reference_known ?_,reference_known ?_,reference_known ?_⟩
  · rw [← planned,recordable.own.1]
    exact stored_known recordable.planned
  · rw [← owned,recordable.own.2]
    exact recordable.owned
  · rw [new.scanned]
    cases scanId with
    | none => rfl
    | some id => exact scanned id rfl
  · rw [← configured]
    exact recordable.configured

-- Neither its id nor its key stands in the way of a new run.
theorem run_clear {plan : RotationPlan} {run : StrategyRun} {idempotencyKey : Digest} {scanId : Option UUID} {row : StrategyRunModel}
    (recordable : Recordable e db plan run) (new : NewRow run idempotencyKey scanId row)
    (free : db.runOfKey plan.rotationPlanId (digestText idempotencyKey) = none) :
    (∀ stored ∈ db.strategyRuns, (index "strategy_runs_pkey" everywhere (·.strategyRunId)).clashes stored row = false) ∧
      ∀ stored ∈ db.strategyRuns,
        (index "uq_strategy_run_key" everywhere fun run => (run.rotationPlanId,run.idempotencyKey)).clashes stored row = false := by
  obtain ⟨named,planned,_⟩ := run_row new.restored
  constructor
  · intro stored member
    refine index_clear.mpr fun _ _ => ?_
    rw [← named]
    exact recordable.unused stored member
  · intro stored member
    refine index_clear.mpr fun _ _ => ?_
    rw [← planned,recordable.own.1,new.keyed]
    exact lookup_none.mp free stored member

theorem run_inserted {plan : RotationPlan} {run : StrategyRun} {idempotencyKey : Digest} {scanId : Option UUID} {row : StrategyRunModel}
    (recordable : Recordable e db plan run) (new : NewRow run idempotencyKey scanId row)
    (free : db.runOfKey plan.rotationPlanId (digestText idempotencyKey) = none)
    (scanned : ∀ id, scanId = some id → (db.scan id).isSome = true ∧ db.runOfScan id = none) :
    insert (Database.runReferences e db row) Database.runIndexes row db.strategyRuns = .ok (db.strategyRuns ++ [row]) := by
  obtain ⟨unused,unkeyed⟩ := run_clear recordable new free
  have unlinked : ∀ stored ∈ db.strategyRuns, row.logicalScanRunId.isSome = true → stored.logicalScanRunId ≠ row.logicalScanRunId := by
    intro stored member linked
    rw [new.scanned] at linked ⊢
    obtain ⟨id,rfl⟩ := Option.isSome_iff_exists.mp linked
    exact lookup_none.mp (scanned id rfl).2 stored member
  refine insert_ok.mpr ⟨run_references recordable new fun id same => (scanned id same).1,?_,rfl⟩
  simp only [Database.runIndexes,List.forall_mem_cons,List.not_mem_nil,false_implies,implies_true,and_true]
  refine ⟨unused,unkeyed,fun stored member => ?_,fun stored member => ?_⟩
  · exact index_clear.mpr fun _ linked => unlinked stored member linked
  · exact index_clear.mpr fun _ linked same => unlinked stored member linked (Prod.mk.inj same).1

-- A scan whose run was recorded refuses another one by name.
theorem run_refused {plan : RotationPlan} {run : StrategyRun} {idempotencyKey : Digest} {scanId : UUID} {row stored : StrategyRunModel}
    (recordable : Recordable e db plan run) (new : NewRow run idempotencyKey (some scanId) row)
    (free : db.runOfKey plan.rotationPlanId (digestText idempotencyKey) = none) (scanned : (db.scan scanId).isSome = true)
    (linked : db.runOfScan scanId = some stored) :
    insert (Database.runReferences e db row) Database.runIndexes row db.strategyRuns = .error "uq_strategy_run_logical_scan" := by
  obtain ⟨unused,unkeyed⟩ := run_clear recordable new free
  obtain ⟨member,same⟩ := lookup_some linked
  refine insert_clash [index "strategy_runs_pkey" everywhere (·.strategyRunId),
      index "uq_strategy_run_key" everywhere fun run => (run.rotationPlanId,run.idempotencyKey)]
    (index "uq_strategy_run_logical_scan" (·.logicalScanRunId.isSome) (·.logicalScanRunId))
    (run_references recordable new fun id equal => Option.some.inj equal ▸ scanned) ?_ member ?_
  · simp only [List.forall_mem_cons,List.not_mem_nil,false_implies,implies_true,and_true]
    exact ⟨unused,unkeyed⟩
  · simp [index,same,new.scanned]

theorem run_kept {row : StrategyRunModel} {runId : Option UUID} (known : db.knowsRun runId = true) :
    {db with strategyRuns := db.strategyRuns ++ [row]}.knowsRun runId = true := by
  cases runId with
  | none => rfl
  | some id =>
    obtain ⟨stored,found⟩ := Option.isSome_iff_exists.mp known
    exact Option.isSome_of_eq_some (lookup_kept found)

theorem key_new {planId planId' : UUID} {key key' : Digest} (apart : (planId,key) ≠ (planId',key')) :
    (planId,digestText key) ≠ (planId',digestText key') := by
  intro same
  obtain ⟨plans,texts⟩ := Prod.mk.inj same
  exact apart (Prod.ext plans (digest_injective texts))

-- The runs of the tables under every key, after one is added under a free one.
theorem runs_of_keys {plan : RotationPlan} {run : StrategyRun} {idempotencyKey : Digest} {scanId : Option UUID} {row : StrategyRunModel}
    (recordable : Recordable e db plan run) (new : NewRow run idempotencyKey scanId row)
    (free : db.runOfKey plan.rotationPlanId (digestText idempotencyKey) = none) (planId : UUID) (key : Digest) :
    {db with strategyRuns := db.strategyRuns ++ [row]}.runOfKey planId (digestText key) =
      if (planId,key) = (plan.rotationPlanId,idempotencyKey) then some row else db.runOfKey planId (digestText key) := by
  have own : (row.rotationPlanId,row.idempotencyKey) = (plan.rotationPlanId,digestText idempotencyKey) := by
    rw [← (run_row new.restored).2.1,recordable.own.1,new.keyed]
  by_cases same : (planId,key) = (plan.rotationPlanId,idempotencyKey)
  · obtain ⟨rfl,rfl⟩ := Prod.mk.inj same
    rw [if_pos rfl]
    refine (lookup_append).trans ?_
    rw [if_pos own]
    exact congrArg (Option.or · (some row)) free
  · rw [if_neg same]
    refine lookup_other ?_
    rw [own]
    exact key_new (Ne.symm same)

theorem scan_index : index "uq_strategy_run_logical_scan" (·.logicalScanRunId.isSome) (·.logicalScanRunId) ∈ Database.runIndexes :=
  List.mem_cons_of_mem _ (List.mem_cons_of_mem _ (List.mem_cons_self ..))

theorem run_stored_mirrors (mirror : Mirrors e db w) {plan : RotationPlan} {run : StrategyRun} {idempotencyKey : Digest}
    {scanId : Option UUID} {row : StrategyRunModel} (recordable : Recordable e db plan run) (new : NewRow run idempotencyKey scanId row)
    (free : db.runOfKey plan.rotationPlanId (digestText idempotencyKey) = none)
    (inserted : insert (Database.runReferences e db row) Database.runIndexes row db.strategyRuns = .ok (db.strategyRuns ++ [row]))
    (opened : ∀ id, scanId = some id → db.runOfScan id = none ∧ ∃ scan, w.scansById id = some scan ∧
      scan.rotationPlanId = plan.rotationPlanId ∧ scan.portfolioId = plan.portfolioId ∧ scan.status ≠ .completed) :
    Mirrors e {db with strategyRuns := db.strategyRuns ++ [row]} (w.storing plan run idempotencyKey scanId) := by
  obtain ⟨named,_,_⟩ := run_row new.restored
  have unknown : lookup (·.strategyRunId) row.strategyRunId db.strategyRuns = none := by
    rw [← named]
    exact lookup_none.mpr recordable.unused
  -- only the scan of the run gets one
  have scanned : ∀ id, {db with strategyRuns := db.strategyRuns ++ [row]}.runOfScan id =
      if scanId = some id then some row else db.runOfScan id := by
    intro id
    refine lookup_append.trans ?_
    rw [new.scanned]
    by_cases same : scanId = some id
    · rw [if_pos same,if_pos same]
      exact congrArg (Option.or · (some row)) (opened id same).1
    · rw [if_neg same,if_neg same,Option.or_none]
      rfl
  have dictionary : ∀ id, (w.storing plan run idempotencyKey scanId).runsByLogicalScan id =
      if scanId = some id then some run else w.runsByLogicalScan id := by
    intro id
    cases scanId with
    | none => rfl
    | some own =>
      by_cases same : own = id
      · subst same
        simp [Stores.storing]
      · simp [Stores.storing,update_of_ne (Ne.symm same),same]
  refine {mirror with
    legacy := ?_
    known := ?_
    runs := ?_
    runsOfKeys := ?_
    linked := ?_
    runsOfScans := ?_
    oneRun := distinct_insert mirror.oneRun scan_index inserted
    planned := ?_
    ownRuns := ?_
    built := ?_}
  · intro planId record stored
    exact run_kept (mirror.legacy planId record stored)
  · intro id scan stored
    have known := mirror.known id scan stored
    refine ⟨known.constructed,known.shown,known.planned,fun completed => ?_⟩
    have apart : scanId ≠ some scan.logicalScanRunId := by
      intro same
      obtain ⟨_,own,found,_,_,unfinished⟩ := opened _ same
      rw [scan_named mirror stored] at found
      obtain rfl := Option.some.inj (found.symm.trans stored)
      exact unfinished completed
    rw [dictionary,if_neg apart]
    exact known.final completed
  · have added := tracks_insert mirror.runs unknown new.restored
    rw [← named] at added
    exact added
  · intro planId key
    rw [runs_of_keys recordable new free]
    by_cases same : (planId,key) = (plan.rotationPlanId,idempotencyKey)
    · rw [if_pos same,same]
      simp only [Stores.storing,update_self]
      exact .some new.restored
    · rw [if_neg same]
      simp only [Stores.storing,update_of_ne same]
      exact mirror.runsOfKeys planId key
  · intro planId key
    rw [runs_of_keys recordable new free]
    by_cases same : (planId,key) = (plan.rotationPlanId,idempotencyKey)
    · rw [if_pos same,same]
      simp [Stores.storing,new.scanned]
    · rw [if_neg same]
      simp only [Stores.storing,update_of_ne same]
      exact mirror.linked planId key
  · intro id
    rw [scanned,dictionary]
    by_cases same : scanId = some id
    · rw [if_pos same,if_pos same]
      exact .some new.restored
    · rw [if_neg same,if_neg same]
      exact mirror.runsOfScans id
  · intro stored member
    rcases List.mem_append.mp member with old | added
    · exact mirror.planned stored old
    · obtain rfl := List.mem_singleton.mp added
      rw [← (run_row new.restored).2.1,recordable.own.1]
      exact stored_known recordable.planned
  · intro id stored found
    rw [dictionary] at found
    by_cases same : scanId = some id
    · rw [if_pos same] at found
      obtain rfl := Option.some.inj found
      obtain ⟨_,scan,held,planned,owned,_⟩ := opened id same
      exact ⟨scan,held,recordable.own.1.trans planned.symm,recordable.own.2.trans owned.symm⟩
    · rw [if_neg same] at found
      exact mirror.ownRuns id stored found
  · intro key intent stored
    obtain ⟨constructed,of_run,held,own⟩ := mirror.built key intent stored
    refine ⟨constructed,of_run,?_,own⟩
    refine (update_of_ne ?_ ..).trans held
    intro same
    obtain ⟨kept,found,_⟩ := tracks_some mirror.runs held
    exact recordable.unused kept (lookup_some found).1 ((lookup_some found).2.trans same)

theorem completed_final {scan : LogicalScanRun} (completed : scan.status = .completed) : scan.finalStrategyRunId.isSome = true := by
  have outcome := scan.outcome
  cases ended : scan.completedAt <;> cases final : scan.finalStrategyRunId <;> simp_all

-- A completed scan has its run.
theorem completed_recorded (mirror : Mirrors e db w) {scanId : UUID} {scan : LogicalScanRun} (held : w.scansById scanId = some scan)
    (completed : scan.status = .completed) : (w.runsByLogicalScan scanId).isSome = true := by
  have final := (mirror.known scanId scan held).final completed
  rw [scan_named mirror held] at final
  rw [← Option.isSome_map,final]
  exact completed_final completed

theorem exact_retry_same (mirror : Mirrors e db w) {planId : UUID} {key : Digest} {stored : StrategyRunModel} {existing : StrategyRun}
    (found : db.runOfKey planId (digestText key) = some stored) (restored : RunRow stored existing) (run : StrategyRun)
    (scanId : Option UUID) : Database.exactStrategyRunRetry stored run scanId = (do
      raiseIf (!existing.same run || decide (w.logicalScanByKey (planId,key) ≠ scanId)) .idempotencyConflictError
        "idempotency key already records a different strategy run"
      pure existing) := by
  have linked := mirror.linked planId key
  rw [found,Option.bind_some] at linked
  unfold Database.exactStrategyRunRetry requireExactStrategyRunRetry
  rw [show strategyRunFromModel stored = .ok existing from restored,returned_bind,linked]

theorem record_run_agrees (mirror : Mirrors e db w) {plan : RotationPlan} {run : StrategyRun} {idempotencyKey : Digest}
    {scanId : Option UUID} (planned : Stored db plan) (constructed : run.Constructed) (kept : run.Kept)
    (configured : ∀ owner, requirePortfolioMutation e.deployment plan.portfolioId access = .ok owner →
      db.validateConfigurationSnapshotReference run plan owner = .ok ())
    (unused : db.runOfKey plan.rotationPlanId (digestText idempotencyKey) = none →
      ∀ row ∈ db.strategyRuns, row.strategyRunId ≠ run.strategyRunId) :
    Agree (SameAfter e) (Database.recordOrGetRun e access db db plan run idempotencyKey scanId)
      (w.recordOrGet e.deployment access plan run idempotencyKey scanId) := by
  have here := mirror.runsOfKeys plan.rotationPlanId idempotencyKey
  cases held : w.runsByKey (plan.rotationPlanId,idempotencyKey) with
  | some existing =>
    rw [held] at here
    obtain ⟨stored,found,restored⟩ : ∃ stored, db.runOfKey plan.rotationPlanId (digestText idempotencyKey) = some stored ∧
        RunRow stored existing := by
      generalize db.runOfKey plan.rotationPlanId (digestText idempotencyKey) = row at here
      cases here with
      | some restored => exact ⟨_,rfl,restored⟩
    unfold Database.recordOrGetRun Stores.recordOrGet
    refine agree_check fun owner allowed => ?_
    refine agree_check fun _ _ => ?_
    simp only [configured owner allowed,returned_bind,found,held,exact_retry_same mirror found restored,bind_assoc]
    exact agree_check fun _ _ => .returned ⟨rfl,mirror⟩
  | none =>
    rw [held] at here
    have free : db.runOfKey plan.rotationPlanId (digestText idempotencyKey) = none := by
      generalize db.runOfKey plan.rotationPlanId (digestText idempotencyKey) = row at here
      cases here
      rfl
    rw [Stores.stored_when_free _ _ _ held]
    unfold Database.recordOrGetRun
    refine agree_check fun owner allowed => ?_
    refine agree_check fun _ own => ?_
    simp only [configured owner allowed,returned_bind,free]
    have recordable : Recordable e db plan run := by
      refine ⟨planned,mutation_known allowed,by simpa using own,?_,unused free⟩
      have reference := configured owner allowed
      unfold Database.validateConfigurationSnapshotReference at reference
      cases found : db.snapshot run.configurationSnapshot.snapshotId with
      | some persisted => rfl
      | none =>
        rw [found] at reference
        cases reference
    obtain ⟨row,new⟩ := new_row constructed kept idempotencyKey scanId
    cases scanId with
    | none =>
      have inserted := run_inserted recordable new free nofun
      simp only [Database.requireRunningScan,Stores.requireOpenScan,pure_bind,new.written,returned_bind,inserted]
      exact .returned ⟨rfl,run_stored_mirrors mirror recordable new free inserted nofun⟩
    | some scanId =>
      simp only [Database.requireRunningScan,Stores.requireOpenScan,get_scan_same mirror,bind_assoc]
      refine agree_check fun scan read => ?_
      refine agree_check fun _ own_scan => ?_
      have scan_held := read_found read
      have scan_known : (db.scan scanId).isSome = true := by
        obtain ⟨row,found,_⟩ := tracks_some mirror.scans scan_held
        exact Option.isSome_of_eq_some found
      have final := mirror.runsOfScans scanId
      cases recorded : w.runsByLogicalScan scanId with
      | some other =>
        -- the run of the scan is found with its status or by the index
        rw [recorded] at final
        obtain ⟨stored,linked⟩ : ∃ stored, db.runOfScan scanId = some stored := by
          generalize db.runOfScan scanId = row at final
          cases final
          exact ⟨_,rfl⟩
        have refused := run_refused recordable new free scan_known linked
        by_cases completed : scan.status = .completed
        · simp only [completed,decide_true,raiseIf,if_true,Option.isSome_some]
          exact .raised _
        · simp only [completed,decide_false,raiseIf,Bool.false_eq_true,if_false,Option.isSome_some,if_true,returned_bind,new.written,
            refused]
          exact .raised _
      | none =>
        rw [recorded] at final
        have unlinked : db.runOfScan scanId = none := by
          generalize db.runOfScan scanId = row at final
          cases final
          rfl
        have unfinished : scan.status ≠ .completed := by
          intro completed
          have some_run := completed_recorded mirror scan_held completed
          rw [recorded] at some_run
          cases some_run
        have opened : ∀ id, some scanId = some id → (db.scan id).isSome = true ∧ db.runOfScan id = none :=
          fun id same => Option.some.inj same ▸ ⟨scan_known,unlinked⟩
        have inserted := run_inserted recordable new free opened
        simp only [unfinished,decide_false,raiseIf,Bool.false_eq_true,if_false,Option.isSome_none,returned_bind,new.written,inserted]
        refine .returned ⟨rfl,run_stored_mirrors mirror recordable new free inserted ?_⟩
        intro id same
        obtain rfl := Option.some.inj same
        obtain ⟨rotation,portfolio⟩ : scan.rotationPlanId = plan.rotationPlanId ∧ scan.portfolioId = plan.portfolioId := by
          simpa using own_scan
        exact ⟨unlinked,scan,scan_held,rotation,portfolio,unfinished⟩

theorem get_for_scan_same (mirror : Mirrors e db w) (scanId : UUID) :
    Database.getForLogicalScan e access db scanId = w.getForLogicalScan e.deployment access scanId := by
  unfold Database.getForLogicalScan Stores.getForLogicalScan
  rw [get_scan_same mirror]
  cases read : w.getScan e.deployment access scanId with
  | error error => rfl
  | ok scan =>
    obtain ⟨held,owner,readable⟩ := Repositories.scan_found read
    simp only [returned_bind,readable,scan_named mirror held]
    have final := mirror.runsOfScans scanId
    cases recorded : w.runsByLogicalScan scanId with
    | none =>
      rw [recorded] at final
      generalize db.runOfScan scanId = row at final
      cases final
      rfl
    | some run =>
      rw [recorded] at final
      generalize db.runOfScan scanId = row at final
      cases final with
      | some restored =>
        obtain ⟨own,found,rotation,portfolio⟩ := mirror.ownRuns scanId run recorded
        obtain rfl := Option.some.inj (held.symm.trans found)
        obtain ⟨_,planned,owned,_⟩ := run_row restored
        simp only [← planned,← owned,rotation,portfolio,ne_eq,not_true_eq_false,or_self,decide_false,raiseIf,Bool.false_eq_true,if_false,
          returned_bind,show strategyRunFromModel _ = .ok run from restored]

end StrategyRuns

section ChildIntents

theorem get_intent_same (mirror : Mirrors e db w) (intentKey : Digest) :
    Database.getIntent e access db intentKey = w.getIntent e.deployment access intentKey := by
  unfold Database.getIntent Stores.getIntent
  cases held : w.intentsByKey intentKey with
  | none => simp only [Database.intent,(tracks_none mirror.intents).mp held]
  | some intent =>
    obtain ⟨row,found,rfl⟩ := tracks_some mirror.intents held
    simp only [Database.intent,found,intent_restored e.dialect (mirror.built _ _ held).1]
    rfl

theorem intents_restored {intents : List ChildIntent} (constructed : ∀ intent ∈ intents, intent.Constructed e.deployment) :
    (intents.map (childIntentToModel e.dialect)).mapM (childIntentFromModel e.deployment) = .ok intents := by
  induction intents with
  | nil => rfl
  | cons intent rest ih =>
    rw [List.map_cons,List.mapM_cons,intent_restored e.dialect (constructed intent (List.mem_cons_self ..)),returned_bind,
      ih fun other member => constructed other (List.mem_cons_of_mem _ member)]
    rfl

theorem list_intents_same (mirror : Mirrors e db w) (runId : UUID) :
    Database.listIntents e access db runId = w.listIntents e.deployment access runId := by
  have constructed : ∀ intent ∈ (w.intentKeysByStrategyRun runId).filterMap w.intentsByKey, intent.Constructed e.deployment := by
    intro intent member
    obtain ⟨key,_,stored⟩ := List.mem_filterMap.mp member
    exact (mirror.built key intent stored).1
  -- a run has no two intents to be put in order
  have short : ((w.intentKeysByStrategyRun runId).filterMap w.intentsByKey).length ≤ 1 :=
    (List.length_filterMap_le ..).trans (mirror.single runId)
  have ordered : ∀ rows : List ChildIntentModel, rows.length ≤ 1 →
      (rows.insertionSort fun a b => a.intentKey ≤ b.intentKey) = rows := by
    intro rows few
    cases rows with
    | nil => rfl
    | cons row rest =>
      cases rest with
      | nil => rfl
      | cons other rest => simp at few
  unfold Database.listIntents Stores.listIntents
  rw [mirror.intentsOfRuns,ordered _ (by rw [List.length_map]; exact short)]
  simp only [intents_restored constructed,returned_bind]

theorem intent_checked {access : AccessContext} {existing candidate : ChildIntent} (constructed : existing.Constructed e.deployment) :
    Database.exactIntentRetry e access (childIntentToModel e.dialect existing) candidate = (do
      let _ ← requirePortfolioRead e.deployment existing.portfolioId access
      raiseIf (!sameLogicalChildIntent existing candidate) .idempotencyConflictError
        "child intent key already records different evidence"
      pure existing) := by
  rw [Database.exactIntentRetry,intent_restored e.dialect constructed,returned_bind]

theorem intent_named (mirror : Mirrors e db w) {key : Digest} {intent : ChildIntent} (held : w.intentsByKey key = some intent) :
    intent.intentKey = key := by
  obtain ⟨row,found,rfl⟩ := tracks_some mirror.intents held
  exact (lookup_some found).2

-- The key of an intent follows from its run, so a run that has an intent has the one a caller may record for it.
theorem intent_of_run (mirror : Mirrors e db w) {intent : ChildIntent} {run : StrategyRun} (constructed : intent.Constructed e.deployment)
    (held : w.runsById intent.strategyRunId = some run) (own : finalStrategyKeyFromRun run = some (.digest intent.finalStrategyKey))
    {key : Digest} (member : key ∈ w.intentKeysByStrategyRun intent.strategyRunId) : key = intent.intentKey := by
  obtain ⟨other,stored,same_run⟩ := mirror.listed _ key member
  obtain ⟨other_constructed,other_run,other_held,other_own⟩ := mirror.built key other stored
  rw [same_run,held] at other_held
  obtain rfl := Option.some.inj other_held
  rw [own] at other_own
  have keys : intent.finalStrategyKey = other.finalStrategyKey := by simpa using other_own
  simp only [ChildIntent.Constructed,ChildIntent.postInit,bind_ok,raiseIf_ok,exists_const,decide_eq_false_iff_not,not_not]
    at constructed other_constructed
  rw [← intent_named mirror stored,other_constructed.2,constructed.2,keys]

theorem intent_inserted (mirror : Mirrors e db w) {intent : ChildIntent} {run : StrategyRun} (constructed : intent.Constructed e.deployment)
    (held : w.runsById intent.strategyRunId = some run) (own : finalStrategyKeyFromRun run = some (.digest intent.finalStrategyKey))
    (planned : db.knowsPlan intent.rotationPlanId = true) (owned : Database.knowsPortfolio e intent.portfolioId = true)
    (free : w.intentsByKey intent.intentKey = none) (unused : ∀ row ∈ db.childIntents, row.childIntentId ≠ intent.childIntentId) :
    insert (Database.intentReferences e db (childIntentToModel e.dialect intent)) Database.intentIndexes
        (childIntentToModel e.dialect intent) db.childIntents = .ok (db.childIntents ++ [childIntentToModel e.dialect intent]) := by
  refine insert_ok.mpr ⟨?_,?_,rfl⟩
  · simp only [Database.intentReferences,List.forall_mem_cons,List.not_mem_nil,false_implies,implies_true,and_true]
    refine ⟨reference_known planned,reference_known owned,reference_known ?_⟩
    obtain ⟨row,found,_⟩ := tracks_some mirror.runs held
    exact Option.isSome_of_eq_some found
  · simp only [Database.intentIndexes,List.forall_mem_cons,List.not_mem_nil,false_implies,implies_true,and_true]
    refine ⟨fun stored member => ?_,fun stored member => ?_,fun stored member => ?_⟩
    · exact index_clear.mpr fun _ _ => unused stored member
    · exact index_clear.mpr fun _ _ => lookup_none.mp ((tracks_none mirror.intents).mp free) stored member
    · refine index_clear.mpr fun _ _ same => ?_
      have listed : stored ∈ db.childIntents.filter (·.strategyRunId == intent.strategyRunId) :=
        List.mem_filter.mpr ⟨member,beq_iff_eq.mpr (Prod.mk.inj same).1⟩
      rw [mirror.intentsOfRuns] at listed
      obtain ⟨other,inside,rfl⟩ := List.mem_map.mp listed
      obtain ⟨key,keyed,found⟩ := List.mem_filterMap.mp inside
      rw [intent_of_run mirror constructed held own keyed,free] at found
      cases found

theorem intent_stored_mirrors (mirror : Mirrors e db w) {intent : ChildIntent} {run : StrategyRun}
    (constructed : intent.Constructed e.deployment) (held : w.runsById intent.strategyRunId = some run)
    (own : finalStrategyKeyFromRun run = some (.digest intent.finalStrategyKey)) (free : w.intentsByKey intent.intentKey = none) :
    Mirrors e {db with childIntents := db.childIntents ++ [childIntentToModel e.dialect intent]}
      {w with
        intentsByKey := Function.update w.intentsByKey intent.intentKey (some intent)
        intentKeysByStrategyRun := Function.update w.intentKeysByStrategyRun intent.strategyRunId
          (w.intentKeysByStrategyRun intent.strategyRunId ++ [intent.intentKey])} := by
  have none_before : w.intentKeysByStrategyRun intent.strategyRunId = [] := by
    refine List.eq_nil_iff_forall_not_mem.mpr fun key member => ?_
    obtain ⟨other,stored,_⟩ := mirror.listed _ key member
    rw [intent_of_run mirror constructed held own member,free] at stored
    cases stored
  have kept : ∀ {key other}, w.intentsByKey key = some other →
      Function.update w.intentsByKey intent.intentKey (some intent) key = some other := by
    intro key other stored
    refine (update_of_ne ?_ ..).trans stored
    intro same
    rw [same,free] at stored
    cases stored
  refine {mirror with
    intents := tracks_insert mirror.intents ((tracks_none mirror.intents).mp free) rfl
    built := ?_
    intentsOfRuns := ?_
    listed := ?_
    single := ?_}
  · intro key other stored
    by_cases same : key = intent.intentKey
    · subst same
      obtain rfl := Option.some.inj ((update_self intent.intentKey _ w.intentsByKey).symm.trans stored)
      exact ⟨constructed,run,held,own⟩
    · exact mirror.built key other ((update_of_ne same ..).symm.trans stored)
  · intro runId
    have before := mirror.intentsOfRuns runId
    have named : (childIntentToModel e.dialect intent).strategyRunId = intent.strategyRunId := rfl
    by_cases same : runId = intent.strategyRunId
    · subst same
      rw [none_before] at before
      simp only [List.filter_append,before,none_before,List.filter_singleton,named,beq_self_eq_true,update_self,cond_true,
        List.filterMap_nil,List.map_nil,List.nil_append,List.filterMap_cons,List.map_cons]
    · have others : ∀ key ∈ w.intentKeysByStrategyRun runId,
          Function.update w.intentsByKey intent.intentKey (some intent) key = w.intentsByKey key := by
        intro key member
        obtain ⟨other,stored,_⟩ := mirror.listed runId key member
        exact (kept stored).trans stored.symm
      simp only [List.filter_append,before,List.filter_singleton,named,beq_false_of_ne (Ne.symm same),update_of_ne same,cond_false,
        List.append_nil]
      rw [List.filterMap_congr others]
  · intro runId key member
    by_cases same : runId = intent.strategyRunId
    · subst same
      simp only [update_self,none_before] at member
      obtain rfl := List.mem_singleton.mp member
      exact ⟨intent,update_self ..,rfl⟩
    · simp only [update_of_ne same] at member
      obtain ⟨other,stored,of_run⟩ := mirror.listed runId key member
      exact ⟨other,kept stored,of_run⟩
  · intro runId
    by_cases same : runId = intent.strategyRunId
    · subst same
      simp [none_before]
    · simp only [update_of_ne same]
      exact mirror.single runId

theorem record_intent_agrees (mirror : Mirrors e db w) {intent : ChildIntent} (constructed : intent.Constructed e.deployment)
    (unused : db.intent intent.intentKey = none → ∀ row ∈ db.childIntents, row.childIntentId ≠ intent.childIntentId) :
    Agree (SameAfter e) (Database.recordOrGetIntent e access db db intent) (w.recordOrGetIntent e.deployment access intent) := by
  unfold Database.recordOrGetIntent Stores.recordOrGetIntent
  refine agree_check fun owner allowed => ?_
  cases held : w.runsById intent.strategyRunId with
  | none =>
    simp only [Database.run,(tracks_none mirror.runs).mp held]
    exact .raised _
  | some run =>
    obtain ⟨row,found,restored⟩ := tracks_some mirror.runs held
    obtain ⟨_,rotation,portfolio,_⟩ := run_row restored
    simp only [Database.run,found,← rotation,← portfolio]
    refine agree_check fun _ scope => ?_
    simp only [show strategyRunFromModel row = .ok run from restored,returned_bind]
    refine agree_check fun _ key => ?_
    have own : finalStrategyKeyFromRun run = some (.digest intent.finalStrategyKey) := by simpa using key
    cases stored : w.intentsByKey intent.intentKey with
    | some existing =>
      obtain ⟨row,known,rfl⟩ := tracks_some mirror.intents stored
      simp only [Database.intent,known,intent_checked (mirror.built _ _ stored).1,bind_assoc]
      refine agree_check fun _ _ => ?_
      exact agree_check fun _ _ => .returned ⟨rfl,mirror⟩
    | none =>
      have free := (tracks_none mirror.intents).mp stored
      have planned : db.knowsPlan intent.rotationPlanId = true := by
        have known := mirror.planned row (lookup_some found).1
        rw [← rotation] at known
        have same : run.rotationPlanId = intent.rotationPlanId := by
          simp only [raiseIf_ok,decide_eq_false_iff_not,not_or,not_not] at scope
          exact scope.1
        rwa [same] at known
      have inserted := intent_inserted mirror constructed held own planned (mutation_known allowed) stored (unused free)
      simp only [Database.intent,free,flush_inserted inserted]
      exact .returned ⟨rfl,intent_stored_mirrors mirror constructed held own stored⟩

end ChildIntents

end SwapMonitor
