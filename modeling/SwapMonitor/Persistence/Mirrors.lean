import SwapMonitor.Exceptions.Agreement
import SwapMonitor.Persistence.AttemptLogs
import SwapMonitor.Persistence.Database
import Mathlib.Data.Option.Basic

namespace SwapMonitor
open Exceptions Relational
open Function (update_self update_of_ne)

-- A row of strategy_runs and the run it is restored as.
def RunRow (row : StrategyRunModel) (run : StrategyRun) : Prop := strategyRunFromModel row = .ok run

theorem run_row {row : StrategyRunModel} {run : StrategyRun} (restored : RunRow row run) :
    run.strategyRunId = row.strategyRunId ∧ run.rotationPlanId = row.rotationPlanId ∧ run.portfolioId = row.portfolioId ∧
      run.configurationSnapshot.snapshotId = row.configurationSnapshotId := by
  simp only [RunRow,strategyRunFromModel,bind_ok,raiseIf_ok,exists_const] at restored
  obtain ⟨outputs,_,_,created⟩ := restored
  obtain ⟨_,_,_,_,_,rfl⟩ := StrategyRun.create_parts created
  exact ⟨rfl,rfl,rfl,rfl⟩

-- What the row of a scan leaves to other tables.
structure ScanKnown (d : Deployment) (plans : UUID → Option RotationPlanModel) (runs : UUID → Option StrategyRun)
    (scan : LogicalScanRun) : Prop where
  constructed : scan.Constructed d
  shown : ∀ completedAt, scan.completedAt = some completedAt → Clocks.Shown completedAt
  planned : ∃ plan, plans scan.rotationPlanId = some plan ∧ plan.portfolioId = scan.portfolioId
  final : scan.status = .completed → (runs scan.logicalScanRunId).map (·.strategyRunId) = scan.finalStrategyRunId

-- The tables hold what the dictionaries of the in-memory repositories hold.
structure Mirrors (e : Engine) (db : Database) (w : Stores) : Prop where
  states : Tracks (fun row record => row = recommendationStateToModel e.dialect record) (·.rotationPlanId) db.recommendationStates w.records
  oneState : Distinct everywhere (·.rotationPlanId) db.recommendationStates
  legacy : ∀ planId record, w.records planId = some record → db.knowsRun record.legacyFinalizationStrategyRunId = true
  scans : Tracks (fun row scan => row = logicalScanToModel e.dialect scan) (·.logicalScanRunId) db.logicalScanRuns w.scansById
  scansOfKeys : Tracks (fun row scan => row = logicalScanToModel e.dialect scan) (·.scanLockKey) db.logicalScanRuns w.scansByKey
  keyed : ∀ key scan, w.scansByKey key = some scan → w.scansById scan.logicalScanRunId = some scan
  indexed : ∀ scanId scan, w.scansById scanId = some scan → w.scansByKey scan.scanLockKey = some scan
  known : ∀ scanId scan, w.scansById scanId = some scan → ScanKnown e.deployment db.plan w.runsByLogicalScan scan
  attempts : ∀ scanId, db.attemptsOf scanId = (w.attemptsByScan scanId).map (scanAttemptToModel e.dialect)
  chains : ∀ scanId, RecoveryChain (w.attemptsByScan scanId)
  recorded : ∀ scanId, w.scansById scanId = none → w.attemptsByScan scanId = []
  runs : Tracks RunRow (·.strategyRunId) db.strategyRuns w.runsById
  runsOfKeys : ∀ planId key, Option.Rel RunRow (db.runOfKey planId (digestText key)) (w.runsByKey (planId,key))
  linked : ∀ planId key, (db.runOfKey planId (digestText key)).bind (·.logicalScanRunId) = w.logicalScanByKey (planId,key)
  runsOfScans : ∀ scanId, Option.Rel RunRow (db.runOfScan scanId) (w.runsByLogicalScan scanId)
  oneRun : Distinct (·.logicalScanRunId.isSome) (·.logicalScanRunId) db.strategyRuns
  planned : ∀ row ∈ db.strategyRuns, db.knowsPlan row.rotationPlanId = true
  ownRuns : ∀ scanId run, w.runsByLogicalScan scanId = some run → ∃ scan, w.scansById scanId = some scan ∧
    run.rotationPlanId = scan.rotationPlanId ∧ run.portfolioId = scan.portfolioId
  intents : Tracks (fun row intent => row = childIntentToModel e.dialect intent) (·.intentKey) db.childIntents w.intentsByKey
  built : ∀ key intent, w.intentsByKey key = some intent → intent.Constructed e.deployment ∧
    ∃ run, w.runsById intent.strategyRunId = some run ∧ finalStrategyKeyFromRun run = some (.digest intent.finalStrategyKey)
  intentsOfRuns : ∀ runId, db.childIntents.filter (·.strategyRunId == runId) =
    ((w.intentKeysByStrategyRun runId).filterMap w.intentsByKey).map (childIntentToModel e.dialect)
  listed : ∀ runId key, key ∈ w.intentKeysByStrategyRun runId → ∃ intent, w.intentsByKey key = some intent ∧ intent.strategyRunId = runId
  single : ∀ runId, (w.intentKeysByStrategyRun runId).length ≤ 1

-- What a call of either repository may answer: the same, and tables that still hold what the dictionaries hold.
def SameAfter (e : Engine) (a : α × Database) (b : α × Stores) : Prop := a.1 = b.1 ∧ Mirrors e a.2 b.2

variable {e : Engine} {access : AccessContext} {db : Database} {w : Stores}

-- The plan a caller passes is the one that is stored.
def Stored (db : Database) (plan : RotationPlan) : Prop :=
  ∃ row, db.plan plan.rotationPlanId = some row ∧ row.portfolioId = plan.portfolioId

theorem stored_known {plan : RotationPlan} (stored : Stored db plan) : db.knowsPlan plan.rotationPlanId = true := by
  obtain ⟨row,found,_⟩ := stored
  simp [Database.knowsPlan,found]

theorem mutation_known {portfolioId owner : UUID} (allowed : requirePortfolioMutation e.deployment portfolioId access = .ok owner) :
    Database.knowsPortfolio e portfolioId = true := by
  simp only [requirePortfolioMutation,bind_ok] at allowed
  obtain ⟨other,owned,_⟩ := allowed
  unfold portfolioOwner at owned
  unfold Database.knowsPortfolio
  split at owned
  · rename_i found
    simp [found]
  · cases owned

-- An enforced foreign key is satisfied by what is known.
theorem reference_known {name : String} {known : Bool} (holds : known = true) : (e.references name known).2 = true := by
  simp [Engine.references,holds]

theorem returned_bind {value : α} {next : α → Except PyError β} : ((.ok value : Except PyError α) >>= next) = next value := rfl

theorem flush_inserted {checks : List (String × Bool)} {indexes : List (Index Row)} {row : Row} {rows : List Row}
    (inserted : insert checks indexes row rows = .ok (rows ++ [row])) : flush checks indexes row rows = .ok (rows ++ [row]) := by
  rw [flush,inserted]

section RecommendationStates

theorem state_inserted (model : RecommendationStateModel) (free : db.state model.rotationPlanId = none)
    (unclaimed : model.legacyFinalizationStrategyRunId = none)
    (known : ∀ check ∈ Database.stateReferences e db model ++ model.checks, check.2 = true) :
    insert (Database.stateReferences e db model ++ model.checks) Database.stateIndexes model db.recommendationStates =
      .ok (db.recommendationStates ++ [model]) := by
  refine insert_ok.mpr ⟨known,?_,rfl⟩
  simp only [Database.stateIndexes,List.forall_mem_cons,List.not_mem_nil,false_implies,implies_true,and_true]
  constructor
  · intro stored member
    exact index_clear.mpr fun _ _ => lookup_none.mp free stored member
  · intro stored _
    refine index_clear.mpr fun _ claimed => ?_
    rw [unclaimed] at claimed
    cases claimed

theorem get_or_create_agrees (mirror : Mirrors e db w) {plan : RotationPlan} (stored : Stored db plan) (createdAt : Instant) :
    Agree (SameAfter e) (Database.getOrCreateState e access db db plan createdAt)
      (w.getOrCreateState e.deployment access plan createdAt) := by
  unfold Database.getOrCreateState Stores.getOrCreateState
  refine agree_check fun owner allowed => ?_
  cases held : w.records plan.rotationPlanId with
  | some record =>
    obtain ⟨row,found,rfl⟩ := tracks_some mirror.states held
    simp only [Database.state,found,Database.storedState,record_restored,bind_assoc]
    exact agree_check fun _ _ => .returned ⟨rfl,mirror⟩
  | none =>
    have free := (tracks_none mirror.states).mp held
    have known : ∀ check ∈ Database.stateReferences e db (recommendationStateToModel e.dialect (Stores.idleRecord plan createdAt)) ++
        (recommendationStateToModel e.dialect (Stores.idleRecord plan createdAt)).checks, check.2 = true := by
      intro check member
      rcases List.mem_append.mp member with reference | own
      · simp only [Database.stateReferences,List.mem_cons,List.not_mem_nil,or_false] at reference
        rcases reference with rfl | rfl | rfl | rfl
        · exact reference_known (stored_known stored)
        · exact reference_known (mutation_known allowed)
        · exact reference_known rfl
        · exact reference_known rfl
      · exact record_checked e.dialect _ check own
    have inserted := state_inserted (recommendationStateToModel e.dialect (Stores.idleRecord plan createdAt)) free rfl known
    simp only [Database.state,free,flush_inserted inserted]
    refine .returned ⟨rfl,{mirror with states := ?_,oneState := ?_,legacy := ?_}⟩
    · exact tracks_insert mirror.states free rfl
    · exact distinct_insert mirror.oneState (List.mem_cons_self ..) inserted
    · intro planId record
      by_cases same : planId = plan.rotationPlanId
      · subst same
        simp only [update_self,Option.some.injEq]
        intro created
        subst created
        rfl
      · simp only [update_of_ne same]
        exact mirror.legacy planId record

theorem get_state_same (mirror : Mirrors e db w) (planId : UUID) :
    Database.getState e access db planId = w.getState e.deployment access planId := by
  unfold Database.getState Stores.getState
  cases held : w.records planId with
  | some record =>
    obtain ⟨row,found,rfl⟩ := tracks_some mirror.states held
    simp only [Database.state,found,record_restored]
    rfl
  | none => simp only [Database.state,(tracks_none mirror.states).mp held]

-- Of the rows only the plan's own can be selected, and it is when its record is the one the caller compared.
theorem own_selected (mirror : Mirrors e db w) {plan : RotationPlan} {record : RecommendationStateRecord}
    (found : lookup (·.rotationPlanId) plan.rotationPlanId db.recommendationStates = some (recommendationStateToModel e.dialect record)) :
    db.recommendationStates.countP (Database.unchanged plan record) = 1 ∧
      Database.unchanged plan record (recommendationStateToModel e.dialect record) = true := by
  have named := (lookup_some found).2
  have selected : Database.unchanged plan record (recommendationStateToModel e.dialect record) = true := by
    simp only [Database.unchanged,named,beq_self_eq_true,Bool.true_and]
    simp only [recommendationStateToModel,beq_self_eq_true,Bool.and_true]
  refine ⟨?_,selected⟩
  unfold Database.unchanged
  rw [count_keyed mirror.oneState,found]
  simp [recommendationStateToModel]

theorem transition_agrees (mirror : Mirrors e db w) {plan : RotationPlan} (stored : Stored db plan)
    (previous : RecommendationStateRecord) (next : RecommendationState × Bool) (changedAt : Instant)
    {finalizationStrategyRunId : Option UUID} (recorded : db.knowsRun finalizationStrategyRunId = true)
    (finalizationStrategyKey : Option Digest) :
    Agree (SameAfter e)
      (Database.transition e access db db plan previous next changedAt finalizationStrategyRunId finalizationStrategyKey)
      (w.transition e.deployment access plan previous next changedAt finalizationStrategyRunId finalizationStrategyKey) := by
  unfold Database.transition Stores.transition
  refine agree_check fun owner allowed => ?_
  cases held : w.records plan.rotationPlanId with
  | none =>
    simp only [Database.state,(tracks_none mirror.states).mp held]
    exact .raised _
  | some record =>
    obtain ⟨row,found,rfl⟩ := tracks_some mirror.states held
    simp only [Database.state,found,record_restored,returned_bind]
    refine agree_check fun _ same => ?_
    obtain rfl : previous = record := by simpa using same
    refine agree_check fun _ own => ?_
    refine agree_check fun updated created => ?_
    have fields := record_fields created
    have plan_named : updated.rotationPlanId = plan.rotationPlanId := congrArg RecordFields.rotationPlanId fields
    have portfolio_named : updated.portfolioId = plan.portfolioId := congrArg RecordFields.portfolioId fields
    have claimed : updated.legacyFinalizationStrategyRunId = previous.legacyFinalizationStrategyRunId := by rw [fields]; rfl
    have fenced : updated.finalizationStrategyRunId = finalizationStrategyRunId :=
      congrArg RecordFields.finalizationStrategyRunId fields
    have owned : previous.portfolioId = plan.portfolioId := by simpa using own
    have known : ∀ check ∈ Database.stateReferences e db (recommendationStateToModel e.dialect updated) ++
        (recommendationStateToModel e.dialect updated).checks, check.2 = true := by
      intro check member
      rcases List.mem_append.mp member with reference | own
      · simp only [Database.stateReferences,List.mem_cons,List.not_mem_nil,or_false] at reference
        rcases reference with rfl | rfl | rfl | rfl
        · refine reference_known ?_
          rw [recommendationStateToModel,plan_named]
          exact stored_known stored
        · refine reference_known ?_
          rw [recommendationStateToModel,portfolio_named]
          exact mutation_known allowed
        · refine reference_known ?_
          rw [recommendationStateToModel,fenced]
          exact recorded
        · refine reference_known ?_
          rw [recommendationStateToModel,claimed]
          exact mirror.legacy _ _ held
      · exact record_checked e.dialect _ check own
    obtain ⟨count,selected⟩ := own_selected mirror found
    have passed : (Database.stateReferences e db (recommendationStateToModel e.dialect updated) ++
        (recommendationStateToModel e.dialect updated).checks).find? (!·.2) = none := by
      refine List.find?_eq_none.mpr fun check member => ?_
      rw [known check member]
      exact Bool.false_ne_true
    simp only [count,passed]
    refine .returned ⟨rfl,{mirror with states := ?_,oneState := ?_,legacy := ?_}⟩
    · refine tracks_update mirror.states (fun _ => rfl) found selected ?_ ?_
      · have here := (lookup_some found).2
        simp only [Database.written,recommendationStateToModel] at here ⊢
        rw [here,owned,plan_named,portfolio_named]
      · intro other row elsewhere there
        have named := (lookup_some there).2
        simp [Database.unchanged,named,elsewhere]
    · exact distinct_update mirror.oneState (fun _ => rfl) fun _ => rfl
    · intro planId record
      by_cases same : planId = plan.rotationPlanId
      · subst same
        simp only [update_self,Option.some.injEq]
        intro written
        subst written
        rw [claimed]
        exact mirror.legacy _ _ held
      · simp only [update_of_ne same]
        exact mirror.legacy planId record

end RecommendationStates

end SwapMonitor
