import SwapMonitor.Domain.EvidenceIdentity
import SwapMonitor.Persistence.Columns

namespace SwapMonitor
open Clocks

-- A row of strategy_runs. Its timestamps are UTC columns, which keep the instant.
structure StrategyRunModel where
  strategyRunId : UUID
  rotationPlanId : UUID
  portfolioId : UUID
  logicalScanRunId : Option UUID
  configurationSnapshotId : UUID
  configurationContentHash : Digest
  configurationSnapshotCreatedAt : Instant
  marketDataSnapshotId : Text
  stateTransition : String
  outputs : Json
  occurredAt : Instant
  idempotencyKey : String

def strategyRunToModel (run : StrategyRun) (idempotencyKey : String) (logicalScanRunId : Option UUID) :
    Except PyError StrategyRunModel := do
  raiseIf (blank idempotencyKey) .valueError "idempotency_key must not be blank"
  let encodedOutputs ← encodeEvidence run.outputs
  raiseIf (match encodedOutputs with | .obj _ => false | _ => true) .valueError
    "encoded strategy run outputs must be a JSON object"
  let createdAt ← persistDatetime run.created
  let occurredAt ← persistDatetime run.occurred
  pure {
    strategyRunId := run.strategyRunId
    rotationPlanId := run.rotationPlanId
    portfolioId := run.portfolioId
    logicalScanRunId := logicalScanRunId
    configurationSnapshotId := run.configurationSnapshot.snapshotId
    configurationContentHash := run.configurationSnapshot.contentHash
    configurationSnapshotCreatedAt := createdAt.instant
    marketDataSnapshotId := run.marketDataSnapshotId
    stateTransition := run.stateTransition
    outputs := encodedOutputs
    occurredAt := occurredAt.instant
    idempotencyKey := idempotencyKey}

-- Whatever else a row holds, its outputs are the envelope of the run's.
theorem model_outputs {run : StrategyRun} {key : String} {scanId : Option UUID} {row : StrategyRunModel}
    (written : strategyRunToModel run key scanId = .ok row) :
    preflightEvidencePayload run.outputs = .ok () ∧ row.outputs = encodeEvidence' run.outputs := by
  simp only [strategyRunToModel,encodeEvidence,bind_ok,pure_ok] at written
  obtain ⟨_,_,encoded,⟨_,preflight,rfl⟩,_,_,_,_,_,_,rfl⟩ := written
  exact ⟨preflight,rfl⟩

-- IdempotencyKey
structure IdempotencyKey where
  value : String
  named : blank value = false

def strategyRunFromModel (model : StrategyRunModel) : Except PyError StrategyRun := do
  let decodedOutputs ← decodeEvidence model.outputs
  raiseIf (match decodedOutputs with | .map _ => false | _ => true) .valueError
    "stored strategy run outputs must decode to a mapping"
  StrategyRun.create {
    strategyRunId := model.strategyRunId
    rotationPlanId := model.rotationPlanId
    portfolioId := model.portfolioId
    configurationSnapshot := {
      snapshotId := model.configurationSnapshotId
      contentHash := model.configurationContentHash
      createdAt := model.configurationSnapshotCreatedAt}
    marketDataSnapshotId := model.marketDataSnapshotId
    stateTransition := model.stateTransition
    outputs := decodedOutputs
    occurredAt := model.occurredAt}

def requireExactStrategyRunRetry (existing candidate : StrategyRun) (storedLogicalScanRunId requestedLogicalScanRunId : Option UUID) :
    Except PyError Unit :=
  raiseIf (!existing.same candidate || decide (storedLogicalScanRunId ≠ requestedLogicalScanRunId))
    .idempotencyConflictError "idempotency key already records a different strategy run"

-- The identical run: its datetimes have the same instants, and its numbers are written alike.
def StrategyRun.identical (a b : StrategyRun) : Bool :=
  a.strategyRunId == b.strategyRunId && a.rotationPlanId == b.rotationPlanId &&
    a.portfolioId == b.portfolioId && a.configurationSnapshot == b.configurationSnapshot &&
    a.marketDataSnapshotId == b.marketDataSnapshotId && a.stateTransition == b.stateTransition &&
    Evidence.identical a.outputs b.outputs && a.occurredAt == b.occurredAt

-- The runs are equal but for how their numbers are written and for the zones of their datetimes.
def StrategyRun.agrees : StrategyRun → StrategyRun → Bool := StrategyRun.sameBy sameInstant

-- No datetime of a candidate shows a reading that fold changes.
def StrategyRun.steady (existing candidate : StrategyRun) : Bool :=
  !candidate.created.depends && !candidate.occurred.depends && existing.outputs.steady candidate.outputs

theorem reference_equal (a b : ConfigurationSnapshotRef) : (a == b) =
    (a.snapshotId == b.snapshotId && a.contentHash == b.contentHash && decide (a.createdAt = b.createdAt)) := by
  cases a
  cases b
  rw [Bool.eq_iff_iff]
  simp [and_assoc]

theorem run_identical_exact (a b : StrategyRun) : a.identical b = (a.agrees b && a.outputs.alike b.outputs) := by
  have occurred : (a.occurredAt == b.occurredAt) = sameInstant a.occurred b.occurred := rfl
  have created : decide (a.configurationSnapshot.createdAt = b.configurationSnapshot.createdAt) = sameInstant a.created b.created := rfl
  simp only [StrategyRun.identical,StrategyRun.agrees,StrategyRun.sameBy,identical_exact,reference_equal,created,occurred]
  ac_rfl

-- A run that was read back is equal to the runs of its instants that are steady.
theorem restored_same (a b : StrategyRun) : a.restored.same b = (a.agrees b && a.steady b) := by
  have outputs : Evidence.sameBy AwareDatetime.same a.restored.outputs b.outputs =
      (Evidence.sameBy sameInstant a.outputs b.outputs && a.outputs.steady b.outputs) := unzoned_same a.outputs b.outputs
  have created : a.restored.created.same b.created = (sameInstant a.created b.created && !b.created.depends) :=
    AwareDatetime.offset_same ..
  have occurred : a.restored.occurred.same b.occurred = (sameInstant a.occurred b.occurred && !b.occurred.depends) :=
    AwareDatetime.offset_same ..
  simp only [StrategyRun.same,StrategyRun.agrees,StrategyRun.sameBy,StrategyRun.steady,outputs,created,occurred]
  simp only [StrategyRun.restored]
  ac_rfl

theorem evidence_restored {value : Evidence} (genuine : value.Genuine) (passed : preflightEvidencePayload value = .ok ()) :
    (encodeEvidence value >>= decodeEvidence) = .ok value.unzoned := by
  have decoded := decode_encoded value genuine (preflight_supported passed)
  simpa [encodeEvidence,passed,Bind.bind,Except.bind,Pure.pure,Except.pure] using decoded

-- Outputs are a mapping, so their envelope is an object.
theorem constructed_mapping {run : StrategyRun} (constructed : run.Constructed) : ∃ entries, run.outputs = .map entries :=
  (StrategyRun.create_parts (StrategyRun.create_constructed constructed)).2.2.1

-- The two datetimes of a run have a UTC reading.
def StrategyRun.Storable (run : StrategyRun) : Prop := Shown run.configurationSnapshot.createdAt ∧ Shown run.occurredAt

-- A run that is stored and read back as it is.
structure StrategyRun.Kept (run : StrategyRun) : Prop where
  storable : run.Storable
  plain : run.restored = run

theorem modelled_storable {run : StrategyRun} {key : String} {scanId : Option UUID} {model : StrategyRunModel}
    (written : strategyRunToModel run key scanId = .ok model) : run.Storable := by
  simp only [strategyRunToModel,bind_ok,persistDatetime,AwareDatetime.astimezoneUtc_ok] at written
  obtain ⟨_,_,_,_,_,_,_,⟨created,_⟩,_,⟨occurred,_⟩,_⟩ := written
  exact ⟨created,occurred⟩

theorem run_modelled {run : StrategyRun} (constructed : run.Constructed) (storable : run.Storable) (key : IdempotencyKey)
    (scanId : Option UUID) : ∃ model, strategyRunToModel run key.value scanId = .ok model ∧ model.logicalScanRunId = scanId ∧
      model.idempotencyKey = key.value ∧ strategyRunFromModel model = .ok run.restored := by
  obtain ⟨entries,mapping⟩ := constructed_mapping constructed
  have passed := StrategyRun.constructed_preflight constructed
  have decoded := decode_encoded run.outputs (StrategyRun.constructed_genuine constructed) (preflight_supported passed)
  have created := StrategyRun.restored_created (StrategyRun.create_constructed constructed)
  obtain ⟨model,written⟩ : ∃ model, strategyRunToModel run key.value scanId = .ok model := by
    simp only [strategyRunToModel,encodeEvidence,bind_ok,raiseIf_ok,exists_const,pure_ok,persistDatetime,
      AwareDatetime.astimezoneUtc_ok]
    refine ⟨_,key.named,_,⟨(),passed,rfl⟩,?_,_,⟨storable.1,rfl⟩,_,⟨storable.2,rfl⟩,rfl⟩
    rw [mapping]
    rfl
  have row := written
  simp only [strategyRunToModel,encodeEvidence,bind_ok,raiseIf_ok,exists_const,pure_ok,persistDatetime,
    AwareDatetime.astimezoneUtc_ok] at row
  obtain ⟨_,_,⟨_,_,rfl⟩,_,_,⟨_,rfl⟩,_,⟨_,rfl⟩,rfl⟩ := row
  refine ⟨_,written,rfl,rfl,?_⟩
  simp only [strategyRunFromModel,decoded,bind_ok,raiseIf_ok,exists_const]
  refine ⟨_,rfl,?_,created⟩
  rw [mapping]
  rfl

-- What was read back reads back the same.
theorem read_restored {model : StrategyRunModel} {run : StrategyRun} (read : strategyRunFromModel model = .ok run) :
    run.restored = run := by
  simp only [strategyRunFromModel,bind_ok,raiseIf_ok,exists_const] at read
  obtain ⟨outputs,decoded,_,created⟩ := read
  obtain ⟨_,_,_,_,_,rfl⟩ := StrategyRun.create_parts created
  simp only [StrategyRun.restored,← freeze_unzoned,decoded_unzoned _ decoded]

theorem retry_accepted {existing candidate : StrategyRun} {stored requested : Option UUID} :
    requireExactStrategyRunRetry existing candidate stored requested = .ok () ↔
      existing.same candidate = true ∧ stored = requested := by
  simp [requireExactStrategyRunRetry]

-- What a value and a stored run come back as, and which candidates a retry takes for the run restored.
structure RestoredExactly (existing candidate : StrategyRun) (key : IdempotencyKey) (scanId requested : Option UUID) : Prop where
  values : ∀ value : Evidence, value.Genuine → preflightEvidencePayload value = .ok () →
    (encodeEvidence value >>= decodeEvidence) = .ok value.unzoned
  runs : ∃ model, strategyRunToModel existing key.value scanId = .ok model ∧ model.logicalScanRunId = scanId ∧
    model.idempotencyKey = key.value ∧ strategyRunFromModel model = .ok existing.restored
  retries : ∀ model restored, strategyRunToModel existing key.value scanId = .ok model → strategyRunFromModel model = .ok restored →
    (requireExactStrategyRunRetry restored candidate model.logicalScanRunId requested = .ok () ↔
      existing.identical candidate = true ∧ model.logicalScanRunId = requested)

-- The retry is taken when no number and no clock gets in its way.
theorem retry_exact {existing candidate : StrategyRun} (constructed : existing.Constructed) (storable : existing.Storable)
    {key : IdempotencyKey} {scanId requested : Option UUID} {model : StrategyRunModel} {restored : StrategyRun}
    (written : strategyRunToModel existing key.value scanId = .ok model) (read : strategyRunFromModel model = .ok restored) :
    requireExactStrategyRunRetry restored candidate model.logicalScanRunId requested = .ok () ↔
      existing.agrees candidate = true ∧ existing.steady candidate = true ∧ scanId = requested := by
  obtain ⟨row,again,scanned,_,back⟩ := run_modelled constructed storable key scanId
  cases written.symm.trans again
  cases read.symm.trans back
  rw [retry_accepted,restored_same,Bool.and_eq_true,scanned,and_assoc]

theorem restored_steadily {existing candidate : StrategyRun} (constructed : existing.Constructed) {key : IdempotencyKey}
    {scanId requested : Option UUID} (exactly : RestoredExactly existing candidate key scanId requested) :
    existing.Storable ∧ (existing.agrees candidate = true → scanId = requested →
      (existing.outputs.alike candidate.outputs = true ↔ existing.steady candidate = true)) := by
  obtain ⟨model,written,scanned,_,read⟩ := exactly.runs
  have storable := modelled_storable written
  refine ⟨storable,fun agrees requests => ?_⟩
  have accepted := exactly.retries model _ written read
  rw [retry_exact constructed storable written read,run_identical_exact,Bool.and_eq_true,scanned] at accepted
  simpa [agrees,requests,iff_comm] using accepted

theorem runs_restored {existing candidate : StrategyRun} (constructed : existing.Constructed) (key : IdempotencyKey)
    (scanId requested : Option UUID) : RestoredExactly existing candidate key scanId requested ↔
      existing.Storable ∧ (existing.agrees candidate = true → scanId = requested →
        (existing.outputs.alike candidate.outputs = true ↔ existing.steady candidate = true)) := by
  refine ⟨restored_steadily constructed,?_⟩
  intro ⟨storable,steadily⟩
  obtain ⟨model,written,scanned,keyed,read⟩ := run_modelled constructed storable key scanId
  refine ⟨fun _ => evidence_restored,⟨model,written,scanned,keyed,read⟩,?_⟩
  intro row restored again found
  cases written.symm.trans again
  rw [retry_exact constructed storable written found,run_identical_exact,Bool.and_eq_true,scanned]
  constructor
  · exact fun ⟨agrees,steady,same⟩ => ⟨⟨agrees,(steadily agrees same).mpr steady⟩,same⟩
  · exact fun ⟨⟨agrees,alike⟩,same⟩ => ⟨agrees,(steadily agrees same).mp alike,same⟩

-- A run with a count among its outputs.
def countedRun (count : Evidence) : StrategyRun where
  strategyRunId := 10
  rotationPlanId := 1
  portfolioId := 2
  configurationSnapshot := ⟨3,4,0⟩
  marketDataSnapshotId := .plain "market"
  stateTransition := "IDLE->IDLE"
  outputs := .map [("confirmations",count)]
  occurredAt := 0

def sampleKey : IdempotencyKey := ⟨"retry",by decide⟩

theorem counted_constructed : (countedRun (.int 1)).Constructed :=
  ⟨countedRun (.int 1),⟨by simp,trivial,trivial⟩,rfl⟩

-- The run itself as its caller has it, with times of a clock that is eight hours ahead of UTC.
def offsetRun : StrategyRun := {countedRun (.int 1) with createdClock := {offset := 28800000000},occurredClock := {offset := 28800000000}}

theorem runs_restored_sample : RestoredExactly (countedRun (.int 1)) offsetRun sampleKey none none :=
  (runs_restored counted_constructed sampleKey none none).mpr ⟨⟨by decide,by decide⟩,fun _ _ => by decide +kernel⟩

theorem flag_accepted_for_count : ¬∀ existing candidate : StrategyRun, existing.Constructed → candidate.Constructed →
    ∀ key scanId requested, RestoredExactly existing candidate key scanId requested := by
  intro restored
  have flagged : (countedRun (.bool true)).Constructed :=
    ⟨countedRun (.bool true),⟨by simp,trivial,trivial⟩,rfl⟩
  have exactly := restored _ _ counted_constructed flagged sampleKey none none
  exact absurd ((restored_steadily counted_constructed exactly).2 (by decide +kernel) rfl) (by decide +kernel)

end SwapMonitor
