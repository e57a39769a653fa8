import SwapMonitor.Application.FinalizationEvidence
import SwapMonitor.Persistence.StrategyRuns

namespace SwapMonitor.Migrations

-- A row of recommendation_states with the three columns the revision adds.
structure StateRow where
  rotationPlanId : UUID
  portfolioId : UUID
  state : String
  remainingStagesHalted : Bool
  finalizationStrategyRunId : Option UUID
  finalizationStrategyKey : Option Digest
  legacyFinalizationClaimStatus : LegacyFinalizationClaimStatus := .noClaim
  legacyFinalizationStrategyRunId : Option UUID := none
  legacyFinalizationStrategyKey : Option Text := none

structure Tables where
  scans : List LogicalScanRun
  runs : List StrategyRunModel
  attempts : List ScanAttempt
  intents : List ChildIntent

def hexadecimal (c : Char) : Bool := c ∈ "0123456789abcdef".toList

-- _sha256 of a string; lowering a character makes it a hexadecimal digit only in ASCII.
def sha256 : Text → Bool
  | .plain value => value.length == 64 && value.toList.all fun c => hexadecimal c.toLower
  | .digest _ => true
  | .snapshotId _ => false

-- The identifiers are stored UUIDs, so _as_uuid has nothing to refuse; a state is literal text.
def candidateFromOutputs (state : StateRow) (run : StrategyRunModel) (scan : LogicalScanRun) :
    Option (UUID × Text) :=
  match run.outputs.get "recommendation",run.outputs.get "idempotency" with
  | some (.obj recommendation),some (.obj idempotency) =>
    match recommendation.lookup "previous_state",recommendation.lookup "next_state",
        recommendation.lookup "previous_remaining_stages_halted",recommendation.lookup "remaining_stages_halted",
        recommendation.lookup "notification_intent_recorded",idempotency.lookup "final_strategy_key",
        idempotency.lookup "scan_lock_key" with
    | some (.str (.plain previousState)),some (.str (.plain nextState)),some (.bool previousHalted),
        some (.bool remainingHalted),some (.bool true),some (.str finalStrategyKey),some (.str scanLockKey) =>
      if !sha256 finalStrategyKey || scanLockKey != .digest scan.scanLockKey || nextState != state.state ||
          remainingHalted != state.remainingStagesHalted ||
          (previousState == nextState && previousHalted == remainingHalted) ||
          run.stateTransition != previousState ++ "->" ++ nextState then none
      else some (run.strategyRunId,finalStrategyKey)
    | _,_,_,_,_,_,_ => none
  | _,_ => none

def Tables.finalSuccess (tables : Tables) (scanId runId : UUID) : Bool :=
  tables.attempts.any fun attempt => attempt.logicalScanRunId == scanId &&
    attempt.status == .succeeded && attempt.finalStrategyRunId == some runId

def Tables.notification (tables : Tables) (state : StateRow) (runId : UUID) (key : Text) : Bool :=
  tables.intents.any fun intent => intent.rotationPlanId == state.rotationPlanId &&
    intent.portfolioId == state.portfolioId && intent.strategyRunId == runId &&
    decide (Text.digest intent.finalStrategyKey = key) && intent.purpose == .notification

-- The rows of the join that the query selects for a state.
def Tables.joined (tables : Tables) (state : StateRow) : List (StrategyRunModel × LogicalScanRun) :=
  tables.runs.flatMap fun run => (tables.scans.filter fun scan =>
    run.logicalScanRunId == some scan.logicalScanRunId && run.rotationPlanId == state.rotationPlanId &&
      run.portfolioId == state.portfolioId && scan.rotationPlanId == state.rotationPlanId &&
      scan.status == .running).map (run,·)

def legacyCandidates (tables : Tables) (state : StateRow) : List (UUID × Text) :=
  (tables.joined state).filterMap fun (run,scan) =>
    if run.configurationContentHash ≠ scan.configurationSnapshotHash then none
    else match candidateFromOutputs state run scan with
      | none => none
      | some (runId,key) =>
        if tables.finalSuccess scan.logicalScanRunId runId then none
        else if tables.notification state runId key then some (runId,key) else none

def writeClaim (rows : List StateRow) (state : StateRow) (status : LegacyFinalizationClaimStatus)
    (strategyRunId : Option UUID) (finalStrategyKey : Option Text) : List StateRow :=
  rows.map fun row => if row.rotationPlanId = state.rotationPlanId then {row with
    legacyFinalizationClaimStatus := status
    legacyFinalizationStrategyRunId := strategyRunId
    legacyFinalizationStrategyKey := finalStrategyKey} else row

def StateRow.fenced (state : StateRow) : Bool :=
  state.finalizationStrategyRunId.isSome || state.finalizationStrategyKey.isSome

def backfillState (tables : Tables) (rows : List StateRow) (state : StateRow) : List StateRow :=
  if state.fenced then writeClaim rows state .notApplicable none none
  else match legacyCandidates tables state with
    | [(runId,finalKey)] => writeClaim rows state .claimed (some runId) (some finalKey)
    | [] => writeClaim rows state .noClaim none none
    | _ => writeClaim rows state .ambiguous none none

def backfillLegacyClaims (tables : Tables) (rows : List StateRow) : List StateRow :=
  rows.foldl (backfillState tables) rows

-- What the repositories hold, and the tables they keep it in.
structure RunRecord where
  run : StrategyRun
  idempotencyKey : String
  logicalScanRunId : Option UUID

structure Stored where
  scans : List LogicalScanRun
  runs : List RunRecord
  attempts : List ScanAttempt
  intents : List ChildIntent

def RunRecord.toModel (r : RunRecord) : Except PyError StrategyRunModel :=
  strategyRunToModel r.run r.idempotencyKey r.logicalScanRunId

-- A stored run is one that strategy_run_to_model wrote.
def Persists (stored : Stored) (tables : Tables) : Prop :=
  tables.scans = stored.scans ∧ tables.attempts = stored.attempts ∧ tables.intents = stored.intents ∧
    List.Forall₂ (fun record row => record.toModel = .ok row) stored.runs tables.runs

-- The scan lock key the run recorded, read as the application reads it.
def recordedLockKey (run : StrategyRun) : Option Text :=
  match (run.mapping "idempotency").bind (·.get "scan_lock_key") with
  | some (.str key) => some key
  | _ => none

def Stored.linked (stored : Stored) (state : StateRow) (record : RunRecord) : Bool :=
  stored.scans.any fun scan => record.logicalScanRunId == some scan.logicalScanRunId &&
    scan.rotationPlanId == state.rotationPlanId && scan.status == .running &&
    scan.configurationSnapshotHash == record.run.configurationSnapshot.contentHash &&
    recordedLockKey record.run == some (.digest scan.scanLockKey) &&
    !stored.attempts.any fun attempt => attempt.logicalScanRunId == scan.logicalScanRunId &&
      attempt.status == .succeeded && attempt.finalStrategyRunId == some record.run.strategyRunId

def Stored.intended (stored : Stored) (state : StateRow) (record : RunRecord) : Bool :=
  stored.intents.any fun intent => intent.rotationPlanId == state.rotationPlanId &&
    intent.portfolioId == state.portfolioId && intent.strategyRunId == record.run.strategyRunId &&
    finalStrategyKeyFromRun record.run == some (.digest intent.finalStrategyKey) &&
    intent.purpose == .notification

-- The run proves a transition into the state of the row, with its intent recorded.
def proves (state : StateRow) (run : StrategyRun) : Bool :=
  match finalizationEvidence run with
  | .ok evidence => evidence.nextState.value == state.state &&
      evidence.remainingStagesHalted == state.remainingStagesHalted && evidence.notificationIntentRecorded &&
      !(evidence.previousState == evidence.nextState &&
        evidence.previousRemainingStagesHalted == evidence.remainingStagesHalted)
  | .error _ => false

def Stored.qualifies (stored : Stored) (state : StateRow) (record : RunRecord) : Bool :=
  record.run.rotationPlanId == state.rotationPlanId && record.run.portfolioId == state.portfolioId &&
    proves state record.run && stored.linked state record && stored.intended state record

def Stored.owners (stored : Stored) (state : StateRow) : List RunRecord :=
  stored.runs.filter (stored.qualifies state)

-- A row that says of the stored runs what they say of themselves.
structure Classified (stored : Stored) (state written : StateRow) : Prop where
  fenced : state.fenced = true → written.legacyFinalizationClaimStatus = .notApplicable
  claimed : state.fenced = false → ∀ runId key, written.legacyFinalizationClaimStatus = .claimed ∧
    written.legacyFinalizationStrategyRunId = some runId ∧ written.legacyFinalizationStrategyKey = some key ↔
      ∃ record, stored.owners state = [record] ∧ record.run.strategyRunId = runId ∧
        finalStrategyKeyFromRun record.run = some key
  ambiguous : state.fenced = false →
    (written.legacyFinalizationClaimStatus = .ambiguous ↔ 1 < (stored.owners state).length)
  noClaim : state.fenced = false →
    (written.legacyFinalizationClaimStatus = .noClaim ↔ stored.owners state = [])

-- The envelope of a mapping has its own two members, and none of the mapping's.
theorem envelope_members {value : Evidence} {key : String} (notTag : key ≠ TAG) (notValue : key ≠ "value")
    (notEntries : key ≠ "entries") (notItems : key ≠ "items") : (encodeEvidence' value).get key = none := by
  cases value <;> simp [encodeEvidence',Json.get,List.lookup_cons,beq_eq_false_iff_ne.mpr,notTag,notValue,notEntries,notItems]

theorem candidate_unread {record : RunRecord} {row : StrategyRunModel} (state : StateRow) (scan : LogicalScanRun)
    (written : record.toModel = .ok row) : candidateFromOutputs state row scan = none := by
  have envelope := (model_outputs written).2
  have unread : row.outputs.get "recommendation" = none := by
    rw [envelope]
    exact envelope_members (by decide) (by decide) (by decide) (by decide)
  simp [candidateFromOutputs,unread]

theorem row_written {records : List RunRecord} {rows : List StrategyRunModel} {row : StrategyRunModel}
    (persists : List.Forall₂ (fun record row => record.toModel = .ok row) records rows) (listed : row ∈ rows) :
    ∃ record ∈ records, record.toModel = .ok row := by
  induction persists with
  | nil => cases listed
  | @cons record row' _ _ written _ ih =>
    rcases List.mem_cons.mp listed with rfl | older
    · exact ⟨record,List.mem_cons_self,written⟩
    · obtain ⟨found,member,wrote⟩ := ih older
      exact ⟨found,List.mem_cons_of_mem _ member,wrote⟩

theorem no_candidates {stored : Stored} {tables : Tables} (persists : Persists stored tables) (state : StateRow) :
    legacyCandidates tables state = [] := by
  refine List.filterMap_eq_nil_iff.mpr ?_
  rintro ⟨row,scan⟩ joined
  obtain ⟨row',listed,member⟩ := List.mem_flatMap.mp joined
  obtain ⟨scan',_,same⟩ := List.mem_map.mp member
  cases same
  obtain ⟨record,_,written⟩ := row_written persists.2.2.2 listed
  have unread := candidate_unread state scan written
  simp [unread]

-- The claim columns of every row of the state's plan.
def Settled (state : StateRow) (rows : List StateRow) : Prop :=
  ∀ row ∈ rows, row.rotationPlanId = state.rotationPlanId →
    row.legacyFinalizationClaimStatus = (if state.fenced then .notApplicable else .noClaim) ∧
      row.legacyFinalizationStrategyRunId = none ∧ row.legacyFinalizationStrategyKey = none

section Backfill
variable {stored : Stored} {tables : Tables} {rows : List StateRow} {state other : StateRow}

theorem backfill_writes (persists : Persists stored tables) : backfillState tables rows state =
    writeClaim rows state (if state.fenced then .notApplicable else .noClaim) none none := by
  unfold backfillState
  rw [no_candidates persists]
  split <;> simp_all

theorem backfill_settles (persists : Persists stored tables) : Settled state (backfillState tables rows state) := by
  rw [backfill_writes persists]
  intro row listed mine
  obtain ⟨older,_,rfl⟩ := List.mem_map.mp listed
  by_cases same : older.rotationPlanId = state.rotationPlanId
  · simp [same]
  · simp [same] at mine

theorem backfill_keeps (persists : Persists stored tables) (distinct : state.rotationPlanId ≠ other.rotationPlanId)
    (settled : Settled state rows) : Settled state (backfillState tables rows other) := by
  rw [backfill_writes persists]
  intro row listed mine
  obtain ⟨older,member,rfl⟩ := List.mem_map.mp listed
  by_cases same : older.rotationPlanId = other.rotationPlanId
  · simp only [same,if_true] at mine
    exact absurd mine.symm distinct
  · simp only [same,if_false] at mine ⊢
    exact settled older member mine

theorem backfill_plans (persists : Persists stored tables) (todo : List StateRow) :
    (todo.foldl (backfillState tables) rows).map (·.rotationPlanId) = rows.map (·.rotationPlanId) := by
  induction todo generalizing rows with
  | nil => rfl
  | cons state rest ih =>
    rw [List.foldl_cons,ih,backfill_writes persists,writeClaim,List.map_map]
    refine List.map_congr_left fun row _ => ?_
    by_cases same : row.rotationPlanId = state.rotationPlanId <;> simp [same]

theorem backfill_run_keeps (persists : Persists stored tables) (todo : List StateRow)
    (absent : state.rotationPlanId ∉ todo.map (·.rotationPlanId)) (settled : Settled state rows) :
    Settled state (todo.foldl (backfillState tables) rows) := by
  induction todo generalizing rows with
  | nil => exact settled
  | cons other rest ih =>
    simp only [List.map_cons,List.mem_cons,not_or] at absent
    exact ih absent.2 (backfill_keeps persists absent.1 settled)

theorem backfill_run_settles (persists : Persists stored tables) (todo : List StateRow)
    (keyed : (todo.map (·.rotationPlanId)).Nodup) (listed : state ∈ todo) :
    Settled state (todo.foldl (backfillState tables) rows) := by
  induction todo generalizing rows with
  | nil => cases listed
  | cons first rest ih =>
    obtain ⟨absent,keyed⟩ := List.nodup_cons.mp keyed
    rcases List.mem_cons.mp listed with rfl | later
    · exact backfill_run_keeps persists rest absent (backfill_settles persists)
    · exact ih keyed later

-- Nothing the repositories wrote is ever read back, so the runs a row has are what decides.
theorem claims_classified (persists : Persists stored tables) (keyed : (rows.map (·.rotationPlanId)).Nodup)
    (listed : state ∈ rows) :
    (∀ written ∈ backfillLegacyClaims tables rows, written.rotationPlanId = state.rotationPlanId →
      Classified stored state written) ↔ state.fenced = true ∨ stored.owners state = [] := by
  have settled : Settled state (backfillLegacyClaims tables rows) := backfill_run_settles persists rows keyed listed
  constructor
  · intro right
    have planned : state.rotationPlanId ∈ (backfillLegacyClaims tables rows).map (·.rotationPlanId) := by
      rw [backfillLegacyClaims,backfill_plans persists]
      exact List.mem_map_of_mem listed
    obtain ⟨written,member,mine⟩ := List.mem_map.mp planned
    have said := settled written member mine
    cases unfenced : state.fenced with
    | true => exact .inl rfl
    | false =>
      rw [unfenced] at said
      exact .inr (((right written member mine).noClaim unfenced).mp said.1)
  · intro condition written member mine
    obtain ⟨status,run,_⟩ := settled written member mine
    refine ⟨fun fenced => by simpa [fenced] using status,fun unfenced runId key => ?_,fun unfenced => ?_,
      fun unfenced => ?_⟩
    all_goals
      simp only [unfenced,Bool.false_eq_true,false_or,if_false] at condition status
    · simp [status,condition]
    · simp [status,condition]
    · simp [status,condition]

end Backfill

section PendingRun

-- One pending run with its notification intent: the owner the revision looks for.
def pendingOutputs : Evidence := .map [
  ("idempotency",.map [("scan_lock_key",.str (.digest 4)),("final_strategy_key",.str (.digest 9))]),
  ("recommendation",.map [
    ("previous_state",.str (.plain "ACTION_PENDING")),("next_state",.str (.plain "ACTION_NOTIFIED")),
    ("previous_remaining_stages_halted",.bool false),("remaining_stages_halted",.bool false),
    ("notification_intent_recorded",.bool true)])]

def pendingRun : StrategyRun := ⟨6,1,2,⟨7,5,0⟩,.snapshotId 8,"ACTION_PENDING->ACTION_NOTIFIED",pendingOutputs,0,{},{}⟩

def pendingStored : Stored where
  scans := [⟨3,1,2,0,0,"1d","Asia/Taipei",5,4,.running,0,none,none,trivial⟩]
  runs := [⟨pendingRun,"key",some 3⟩]
  attempts := []
  intents := [⟨10,1,2,6,9,FINAL_STRATEGY_IDENTITY_FORMAT_VERSION,.notification,11,0⟩]

def pendingTables : Tables where
  scans := pendingStored.scans
  runs := [⟨6,1,2,some 3,7,5,0,.snapshotId 8,"ACTION_PENDING->ACTION_NOTIFIED",encodeEvidence' pendingOutputs,0,"key"⟩]
  attempts := []
  intents := pendingStored.intents

def pendingState : StateRow where
  rotationPlanId := 1
  portfolioId := 2
  state := "ACTION_NOTIFIED"
  remainingStagesHalted := false
  finalizationStrategyRunId := none
  finalizationStrategyKey := none

theorem pending_constructed : StrategyRun.create pendingRun = .ok pendingRun := rfl

theorem pending_persists : Persists pendingStored pendingTables :=
  ⟨rfl,rfl,rfl,.cons rfl .nil⟩

theorem pending_owner : pendingStored.owners pendingState = [⟨pendingRun,"key",some 3⟩] := rfl

def fencedState : StateRow := {pendingState with finalizationStrategyRunId := some 6,finalizationStrategyKey := some 9}

theorem pending_classified :
    ((∀ written ∈ backfillLegacyClaims pendingTables [pendingState], written.rotationPlanId = 1 →
      Classified pendingStored pendingState written) ↔
    pendingState.fenced = true ∨ pendingStored.owners pendingState = []) ∧
    ∀ written ∈ backfillLegacyClaims pendingTables [fencedState], written.rotationPlanId = 1 →
      Classified pendingStored fencedState written :=
  ⟨claims_classified pending_persists (by decide) List.mem_cons_self,
    (claims_classified pending_persists (by decide) List.mem_cons_self).mpr (.inl rfl)⟩

-- It is left without a claim.
theorem pending_unclaimed : StrategyRun.create pendingRun = .ok pendingRun ∧
    Persists pendingStored pendingTables ∧ pendingStored.owners pendingState = [⟨pendingRun,"key",some 3⟩] ∧
    ∃ written ∈ backfillLegacyClaims pendingTables [pendingState],
      written.legacyFinalizationClaimStatus = .noClaim ∧ ¬ Classified pendingStored pendingState written := by
  refine ⟨pending_constructed,pending_persists,pending_owner,_,List.mem_cons_self,rfl,fun right => ?_⟩
  have owned := (right.noClaim rfl).mp rfl
  rw [pending_owner] at owned
  cases owned

end PendingRun
end SwapMonitor.Migrations
