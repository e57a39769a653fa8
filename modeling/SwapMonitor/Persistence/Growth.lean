import SwapMonitor.Persistence.Timelines

namespace SwapMonitor
open Exceptions Relational

variable {e : Engine} {access : AccessContext} {call : ScanCall} {start seen db current after : Database} {earlier : List Database}
  {log : List ServedCall}

-- A later row of the same scan.
structure LaterScan (row now : LogicalScanRunModel) : Prop where
  columns : now = {row with status := now.status,completedAt := now.completedAt}
  completed : row.status = "COMPLETED" → now.status = "COMPLETED"

-- What later tables keep of earlier ones.
structure Grows (db db' : Database) : Prop where
  plans : db'.rotationPlans = db.rotationPlans
  snapshots : db'.configurationSnapshots = db.configurationSnapshots
  states : ∀ planId row, db.state planId = some row → ∃ now, db'.state planId = some now ∧ row.revision ≤ now.revision ∧
    (row.revision = now.revision → row = now)
  scans : ∀ scanId row, db.scan scanId = some row → ∃ now, db'.scan scanId = some now ∧ LaterScan row now
  scansOfKeys : ∀ key row, db.scanOfKey key = some row → ∃ now, db'.scanOfKey key = some now ∧ LaterScan row now
  attempts : db.scanAttempts <+: db'.scanAttempts
  runs : db.strategyRuns <+: db'.strategyRuns
  intents : db.childIntents <+: db'.childIntents

theorem later_refl (row : LogicalScanRunModel) : LaterScan row row := ⟨rfl,id⟩

theorem later_trans {row between now : LogicalScanRunModel} (first : LaterScan row between) (second : LaterScan between now) :
    LaterScan row now := by
  refine ⟨?_,second.completed ∘ first.completed⟩
  have columns := second.columns
  rw [first.columns] at columns
  exact columns

theorem grows_refl (db : Database) : Grows db db where
  plans := rfl
  snapshots := rfl
  states _ row found := ⟨row,found,Nat.le_refl _,fun _ => rfl⟩
  scans _ row found := ⟨row,found,later_refl row⟩
  scansOfKeys _ row found := ⟨row,found,later_refl row⟩
  attempts := List.prefix_refl _
  runs := List.prefix_refl _
  intents := List.prefix_refl _

theorem grows_trans {db db' db'' : Database} (first : Grows db db') (second : Grows db' db'') : Grows db db'' where
  plans := second.plans.trans first.plans
  snapshots := second.snapshots.trans first.snapshots
  states planId row found := by
    obtain ⟨between,there,ordered,same⟩ := first.states planId row found
    obtain ⟨now,here,ordered',same'⟩ := second.states planId between there
    refine ⟨now,here,ordered.trans ordered',fun equal => ?_⟩
    obtain rfl := same (Nat.le_antisymm ordered (equal ▸ ordered'))
    exact same' equal
  scans scanId row found := by
    obtain ⟨between,there,later⟩ := first.scans scanId row found
    obtain ⟨now,here,later'⟩ := second.scans scanId between there
    exact ⟨now,here,later_trans later later'⟩
  scansOfKeys key row found := by
    obtain ⟨between,there,later⟩ := first.scansOfKeys key row found
    obtain ⟨now,here,later'⟩ := second.scansOfKeys key between there
    exact ⟨now,here,later_trans later later'⟩
  attempts := first.attempts.trans second.attempts
  runs := first.runs.trans second.runs
  intents := first.intents.trans second.intents

-- An inserted row comes last.
theorem inserted_grown {checks : List (String × Bool)} {indexes : List (Index Row)} {row : Row} {rows rows' : List Row}
    (inserted : insert checks indexes row rows = .ok rows') : rows <+: rows' := by
  obtain ⟨_,_,rfl⟩ := insert_ok.mp inserted
  exact List.prefix_append ..

theorem lookup_grown [DecidableEq K] {key : Row → K} {value : K} {rows rows' : List Row} {row : Row} (grown : rows <+: rows')
    (found : lookup key value rows = some row) : lookup key value rows' = some row := by
  obtain ⟨more,rfl⟩ := grown
  rw [lookup,List.find?_append,← lookup,found,Option.some_or]

theorem inserted_found [DecidableEq K] {checks : List (String × Bool)} {indexes : List (Index Row)} {row stored : Row}
    {rows rows' : List Row} {key : Row → K} {value : K} (inserted : insert checks indexes row rows = .ok rows')
    (found : lookup key value rows = some stored) : lookup key value rows' = some stored :=
  lookup_grown (inserted_grown inserted) found

theorem completed_later (column : ColumnDatetime) (row : LogicalScanRunModel) : LaterScan row (Database.completedRow column row) :=
  ⟨rfl,fun _ => rfl⟩

theorem completed_found [DecidableEq K] {key : LogicalScanRunModel → K} {value : K} {rows : List LogicalScanRunModel}
    {row : LogicalScanRunModel} {scanId : UUID} {column : ColumnDatetime}
    (keyed : ∀ row, key (Database.completedRow column row) = key row) (found : lookup key value rows = some row) :
    ∃ now, lookup key value (update (·.logicalScanRunId == scanId) (Database.completedRow column) rows) = some now ∧
      LaterScan row now := by
  rw [lookup_update keyed,found,Option.map_some]
  refine ⟨_,rfl,?_⟩
  split
  · exact completed_later column row
  · exact later_refl row

theorem changed_found {plan : RotationPlan} {previous updated : RecommendationStateRecord} {next : RecommendationState × Bool}
    {changedAt : Instant} {runId : Option UUID} {key : Option Digest}
    (changed : Changed e seen current after plan previous updated next changedAt runId key) {planId : UUID} :
    after.state planId = (current.state planId).map fun row =>
      if Database.unchanged plan previous row then Database.written (recommendationStateToModel e.dialect updated) row else row := by
  rw [changed.left]
  exact lookup_update fun _ => rfl

theorem changed_revision {plan : RotationPlan} {previous updated : RecommendationStateRecord} {next : RecommendationState × Bool}
    {changedAt : Instant} {runId : Option UUID} {key : Option Digest}
    (changed : Changed e seen current after plan previous updated next changedAt runId key) :
    updated.revision = previous.revision + 1 := congrArg RecordFields.revision changed.fields

theorem next_revision {plan : RotationPlan} {previous updated : RecommendationStateRecord} {next : RecommendationState × Bool}
    {changedAt : Instant} {runId : Option UUID} {key : Option Digest}
    (changed : Changed e seen current after plan previous updated next changedAt runId key) {row : RecommendationStateModel}
    (selected : Database.unchanged plan previous row = true) :
    (Database.written (recommendationStateToModel e.dialect updated) row).revision = row.revision + 1 := by
  simp only [Database.unchanged,Bool.and_eq_true,beq_iff_eq] at selected
  obtain ⟨_,⟨⟨_,revision⟩,_⟩,_⟩ := selected
  rw [revision]
  exact changed_revision changed

theorem leaves_grow (leaves : Leaves e seen current access call after) : Grows current after := by
  have same := grows_refl current
  cases leaves with
  | kept => exact same
  | stateAdded inserted =>
    refine {same with states := ?_}
    intro planId row found
    exact ⟨row,inserted_found inserted found,Nat.le_refl _,fun _ => rfl⟩
  | stateChanged changed =>
    have states : ∀ planId row, current.state planId = some row → ∃ now, after.state planId = some now ∧ row.revision ≤ now.revision ∧
        (row.revision = now.revision → row = now) := by
      intro planId row found
      rw [changed_found changed,found,Option.map_some]
      refine ⟨_,rfl,?_⟩
      split
      · rename_i selected
        have next := next_revision changed selected
        exact ⟨by omega,fun same => by omega⟩
      · exact ⟨Nat.le_refl _,fun _ => rfl⟩
    obtain ⟨_,_,_,_,rfl⟩ := changed
    exact {same with states := states}
  | scanAdded inserted =>
    refine {same with scans := ?_,scansOfKeys := ?_}
    · intro scanId row found
      exact ⟨row,inserted_found inserted found,later_refl row⟩
    · intro key row found
      exact ⟨row,inserted_found inserted found,later_refl row⟩
  | attemptAdded recorded =>
    obtain ⟨checks,rows,inserted,rfl⟩ := recorded.inserted
    exact {same with attempts := inserted_grown inserted}
  | scanCompleted found evidence =>
    refine {same with scans := ?_,scansOfKeys := ?_}
    · exact fun scanId row found => completed_found (fun _ => rfl) found
    · exact fun key row found => completed_found (fun _ => rfl) found
  | runAdded own running written inserted => exact {same with runs := inserted_grown inserted}
  | intentAdded recorded inserted => exact {same with intents := inserted_grown inserted}

-- Whatever a session has read, the current tables have grown from it.
theorem timeline_grows (timeline : Timeline e start (current :: earlier) log) : ∀ db ∈ current :: earlier, Grows db current := by
  generalize same : current :: earlier = history at timeline
  induction timeline generalizing current earlier with
  | start =>
    obtain ⟨rfl,rfl⟩ := List.cons.inj same
    intro db member
    obtain rfl := List.mem_singleton.mp member
    exact grows_refl _
  | call request seen path read ih =>
    obtain ⟨rfl,rfl⟩ := List.cons.inj same
    intro db member
    rcases List.mem_cons.mp member with rfl | before
    · exact grows_refl _
    · exact grows_trans (ih rfl db before) (leaves_grow (request_leaves request))

theorem seen_grows (timeline : Timeline e start (current :: earlier) log) (read : Seen (current :: earlier) seen) : Grows seen current := by
  have grows := timeline_grows timeline
  obtain ⟨⟨a,inA,plans⟩,⟨b,inB,snapshots⟩,⟨c,inC,states⟩,⟨f,inF,scans⟩,⟨g,inG,attempts⟩,⟨h,inH,runs⟩,⟨k,inK,intents⟩⟩ := read
  refine ⟨?_,?_,?_,?_,?_,?_,?_,?_⟩
  · exact (grows a inA).plans.trans plans.symm
  · exact (grows b inB).snapshots.trans snapshots.symm
  · unfold Database.state
    rw [states]
    exact (grows c inC).states
  · unfold Database.scan
    rw [scans]
    exact (grows f inF).scans
  · unfold Database.scanOfKey
    rw [scans]
    exact (grows f inF).scansOfKeys
  · exact attempts ▸ (grows g inG).attempts
  · exact runs ▸ (grows h inH).runs
  · exact intents ▸ (grows k inK).intents

end SwapMonitor
