import SwapMonitor.Persistence.Growth
import SwapMonitor.Persistence.ScanMirrors

namespace SwapMonitor
open Exceptions Relational

variable {e : Engine} {access : AccessContext} {call : ScanCall} {seen db current after : Database}

-- The attempts of a scan as the tables hold them.
def Attempted (e : Engine) (db : Database) (scanId : UUID) (attempts : List ScanAttempt) : Prop :=
  db.attemptsOf scanId = attempts.map (scanAttemptToModel e.dialect)

-- What holds of the tables of scans, whatever the sessions had read that wrote them.
structure ScanTables (e : Engine) (db : Database) : Prop where
  oneScan : Distinct everywhere (·.logicalScanRunId) db.logicalScanRuns
  oneLock : Distinct everywhere (·.scanLockKey) db.logicalScanRuns
  oneKey : Distinct everywhere (fun run => (run.rotationPlanId,run.idempotencyKey)) db.strategyRuns
  oneRun : Distinct (·.logicalScanRunId.isSome) (·.logicalScanRunId) db.strategyRuns
  oneIntent : Distinct everywhere (·.intentKey) db.childIntents
  onePurpose : Distinct everywhere (fun intent => (intent.strategyRunId,intent.purpose)) db.childIntents
  chains : ∀ scanId, ∃ attempts, Attempted e db scanId attempts ∧ RecoveryChain attempts
  finals : ∀ scanId, ∀ row ∈ db.attemptsOf scanId, ∀ runId, row.finalStrategyRunId = some runId →
    (db.runOfScan scanId).map (·.strategyRunId) = some runId
  completed : ∀ scanId row, db.scan scanId = some row → row.status = "COMPLETED" →
    ∃ attempt ∈ db.attemptsOf scanId, attempt.status = "SUCCEEDED" ∧ attempt.finalStrategyRunId.isSome = true
  ofRuns : ∀ intent ∈ db.childIntents, ∃ run, db.run intent.strategyRunId = some run

theorem unscanned_tables (plans : List RotationPlanModel) (snapshots : List PersistedConfigurationSnapshot) :
    ScanTables e (.unscanned plans snapshots) where
  oneScan := .nil
  oneLock := .nil
  oneKey := .nil
  oneRun := .nil
  oneIntent := .nil
  onePurpose := .nil
  chains _ := ⟨[],rfl,chain_empty⟩
  finals _ _ member := absurd member List.not_mem_nil
  completed _ _ found := nomatch found
  ofRuns _ member := absurd member List.not_mem_nil

theorem attempted_once {scanId : UUID} {attempts attempts' : List ScanAttempt} (attempted : Attempted e db scanId attempts)
    (attempted' : Attempted e db scanId attempts') : attempts = attempts' := by
  have same : attempts.map (scanAttemptToModel e.dialect) = attempts'.map (scanAttemptToModel e.dialect) :=
    attempted.symm.trans attempted'
  have restored := attempts_restored (e := e) attempts
  rw [same,attempts_restored] at restored
  exact (Except.ok.inj restored).symm

-- A session that lists the attempts of a scan is told what it has read.
theorem listed_attempts {scanId : UUID} {attempts existing : List ScanAttempt} (attempted : Attempted e seen scanId attempts)
    (chain : RecoveryChain attempts) (listed : Database.listAttempts e access seen scanId = .ok existing) : existing = attempts := by
  have ordered : ((seen.attemptsOf scanId).insertionSort fun a b => a.attemptNumber ≤ b.attemptNumber) = seen.attemptsOf scanId := by
    rw [attempted]
    refine List.Pairwise.insertionSort_eq (List.pairwise_map.mpr ?_)
    exact (Stores.chain_growing chain).imp Nat.le_of_lt
  simp only [Database.listAttempts,bind_ok] at listed
  obtain ⟨_,_,listed⟩ := listed
  rw [ordered,attempted,attempts_restored] at listed
  exact (Except.ok.inj listed).symm

-- The number that follows on what a session has read is free only if nothing has been added since.
theorem nothing_since {scanId : UUID} {attempts existing : List ScanAttempt} (grown : Grows seen current)
    (read : Attempted e seen scanId existing) (attempted : Attempted e current scanId attempts) (chain : RecoveryChain attempts)
    (free : ∀ stored ∈ current.attemptsOf scanId, stored.attemptNumber ≠ existing.length + 1) : attempts = existing := by
  have grew : existing.map (scanAttemptToModel e.dialect) <+: attempts.map (scanAttemptToModel e.dialect) := by
    rw [← read,← attempted]
    exact grown.attempts.filter _
  have short : attempts.length ≤ existing.length := by
    by_contra longer
    have inside : existing.length < attempts.length := Nat.lt_of_not_le longer
    have numbered := chain.numbered existing.length _ (List.getElem?_eq_getElem inside)
    refine free (scanAttemptToModel e.dialect attempts[existing.length]) ?_ numbered
    rw [attempted]
    exact List.mem_map_of_mem (List.getElem_mem inside)
  have same := grew.eq_of_length_le (by simpa using short)
  exact attempted_once attempted (attempted.trans same.symm)

theorem kept_run (grown : Grows seen current) (one : Distinct (·.logicalScanRunId.isSome) (·.logicalScanRunId) current.strategyRuns)
    {scanId runId : UUID} (found : (seen.finalRunOf scanId runId).isNone = false) :
    (current.runOfScan scanId).map (·.strategyRunId) = some runId := by
  obtain ⟨row,final⟩ : ∃ row, seen.finalRunOf scanId runId = some row := by
    cases final : seen.finalRunOf scanId runId with
    | some row => exact ⟨row,rfl⟩
    | none =>
      rw [final] at found
      cases found
  have named := List.find?_some final
  simp only [Bool.and_eq_true,beq_iff_eq] at named
  obtain ⟨linked,named⟩ := named
  have member := grown.runs.subset (List.mem_of_find?_eq_some final)
  have covered : ∀ other : StrategyRunModel, other.logicalScanRunId = row.logicalScanRunId → other.logicalScanRunId.isSome = true := by
    intro other same
    rw [same,linked]
    rfl
  have known := lookup_distinct one covered member
  rw [linked] at known
  rw [Database.runOfScan,known,Option.map_some,named]

theorem grown_attempts (grown : Grows db current) (scanId : UUID) : db.attemptsOf scanId <+: current.attemptsOf scanId :=
  grown.attempts.filter _

theorem attempt_added {attempt : ScanAttempt} {scan : LogicalScanRun} {existing : List ScanAttempt} (grown : Grows seen current)
    (read : ∀ scanId, ∃ attempts, Attempted e seen scanId attempts ∧ RecoveryChain attempts) (tables : ScanTables e current)
    (recorded : Recorded e access seen current after attempt scan existing) : ScanTables e after := by
  obtain ⟨checks,rows,inserted,rfl⟩ := recorded.inserted
  obtain ⟨_,clear,rfl⟩ := insert_ok.mp inserted
  obtain ⟨known,had,had_chain⟩ := read attempt.logicalScanRunId
  obtain rfl := listed_attempts had had_chain recorded.listed
  have named : (scanAttemptToModel e.dialect attempt).logicalScanRunId = attempt.logicalScanRunId := rfl
  have listed : ∀ scanId, {current with scanAttempts := current.scanAttempts ++ [scanAttemptToModel e.dialect attempt]}.attemptsOf scanId =
      current.attemptsOf scanId ++ if attempt.logicalScanRunId = scanId then [scanAttemptToModel e.dialect attempt] else [] := by
    intro scanId
    simp only [Database.attemptsOf,List.filter_append,List.filter_singleton,named]
    by_cases same : attempt.logicalScanRunId = scanId
    · simp [same]
    · rw [beq_false_of_ne same,if_neg same]
      rfl
  have number : attempt.attemptNumber = existing.length + 1 := by
    have chain := Stores.chain_append had_chain recorded.appended
    have last : (existing ++ [attempt])[existing.length]? = some attempt := by simp
    exact chain.numbered _ _ last
  refine {tables with
    chains := ?_
    finals := ?_
    completed := ?_}
  · intro scanId
    obtain ⟨attempts,attempted,chain⟩ := tables.chains scanId
    by_cases here : attempt.logicalScanRunId = scanId
    · subst here
      have free : ∀ stored ∈ current.attemptsOf attempt.logicalScanRunId, stored.attemptNumber ≠ existing.length + 1 := by
        intro stored member same
        obtain ⟨inside,own⟩ := List.mem_filter.mp member
        have indexed : index "uq_scan_attempt_number" everywhere (fun attempt : ScanAttemptModel =>
            (attempt.logicalScanRunId,attempt.attemptNumber)) ∈ Database.attemptIndexes :=
          List.mem_cons_of_mem _ (List.mem_cons_self ..)
        refine index_clear.mp (clear _ indexed stored inside) rfl rfl (Prod.ext (beq_iff_eq.mp own) ?_)
        exact same.trans number.symm
      obtain rfl := nothing_since grown had attempted chain free
      refine ⟨attempts ++ [attempt],?_,Stores.chain_append chain recorded.appended⟩
      rw [Attempted,listed,if_pos rfl,attempted,List.map_append]
      rfl
    · refine ⟨attempts,?_,chain⟩
      rw [Attempted,listed,if_neg here,List.append_nil]
      exact attempted
  · intro scanId row member runId final
    rw [listed] at member
    rcases List.mem_append.mp member with old | new
    · exact tables.finals scanId row old runId final
    · by_cases here : attempt.logicalScanRunId = scanId
      · rw [if_pos here] at new
        obtain rfl := List.mem_singleton.mp new
        have referenced := recorded.referenced
        simp only [Database.validateAttemptReferences,Database.validateFinalReference,bind_ok,
          show attempt.finalStrategyRunId = some runId from final,raiseIf_ok,exists_const] at referenced
        obtain ⟨_,_,_,there,_⟩ := referenced
        subst here
        exact kept_run grown tables.oneRun there
      · rw [if_neg here] at new
        cases new
  · intro scanId row found done
    obtain ⟨success,member,both⟩ := tables.completed scanId row found done
    exact ⟨success,by rw [listed]; exact List.mem_append_left _ member,both⟩

theorem scan_completed {scanId runId portfolioId : UUID} {plan : RotationPlan} {row : LogicalScanRunModel} {column : ColumnDatetime}
    (grown : Grows seen current) (tables : ScanTables e current) (found : seen.scan scanId = some row)
    (evidence : Database.requireFinalEvidence e access seen row plan runId = .ok portfolioId) :
    ScanTables e {current with
      logicalScanRuns := update (·.logicalScanRunId == scanId) (Database.completedRow column) current.logicalScanRuns} := by
  refine {tables with
    oneScan := distinct_update tables.oneScan (fun _ => rfl) fun _ => rfl
    oneLock := distinct_update tables.oneLock (fun _ => rfl) fun _ => rfl
    completed := ?_}
  intro other now there done
  have keyed : ∀ row, (Database.completedRow column row).logicalScanRunId = row.logicalScanRunId := fun _ => rfl
  have before : (current.scan other).map (fun row => if row.logicalScanRunId == scanId then Database.completedRow column row else row) =
      some now := (lookup_update keyed).symm.trans there
  obtain ⟨stored,held,rfl⟩ := Option.map_eq_some_iff.mp before
  by_cases here : stored.logicalScanRunId = scanId
  · simp only [Database.requireFinalEvidence,bind_ok,raiseIf_ok,exists_const] at evidence
    obtain ⟨_,_,_,_,_,_,_,succeeded,_⟩ := evidence
    have own : row.logicalScanRunId = other := by
      rw [(lookup_some found).2,← here]
      exact (lookup_some held).2
    rw [own] at succeeded
    have some_success : ((seen.attemptsOf other).any fun attempt =>
        attempt.status == "SUCCEEDED" && attempt.finalStrategyRunId == some runId) = true := by simpa using succeeded
    obtain ⟨attempt,member,both⟩ := List.any_eq_true.mp some_success
    simp only [Bool.and_eq_true,beq_iff_eq] at both
    refine ⟨attempt,(grown_attempts grown other).subset member,both.1,?_⟩
    rw [both.2]
    rfl
  · rw [beq_false_of_ne here] at done
    exact tables.completed other stored held done

theorem leaves_tables (grown : Grows seen current) (read : ∀ scanId, ∃ attempts, Attempted e seen scanId attempts ∧ RecoveryChain attempts)
    (tables : ScanTables e current) (leaves : Leaves e seen current access call after) : ScanTables e after := by
  cases leaves with
  | kept => exact tables
  | stateAdded => exact {tables with oneScan := tables.oneScan}
  | stateChanged changed =>
    obtain ⟨_,_,_,_,rfl⟩ := changed
    exact {tables with oneScan := tables.oneScan}
  | attemptAdded recorded => exact attempt_added grown read tables recorded
  | scanCompleted found evidence => exact scan_completed grown tables found evidence
  | scanAdded inserted =>
    refine {tables with
      oneScan := distinct_insert tables.oneScan (List.mem_cons_self ..) inserted
      oneLock := distinct_insert tables.oneLock (List.mem_cons_of_mem _ (List.mem_cons_self ..)) inserted
      completed := ?_}
    obtain ⟨_,_,rfl⟩ := insert_ok.mp inserted
    intro scanId row found done
    have there := lookup_append.symm.trans found
    cases old : lookup (·.logicalScanRunId) scanId current.logicalScanRuns with
    | some stored =>
      rw [old,Option.some_or] at there
      obtain rfl := Option.some.inj there
      exact tables.completed scanId stored old done
    | none =>
      rw [old,Option.none_or] at there
      split at there
      · rw [← Option.some.inj there] at done
        exact absurd (show "RUNNING" = "COMPLETED" from done) (by decide)
      · cases there
  | runAdded own running written inserted =>
    refine {tables with
      oneKey := distinct_insert tables.oneKey (List.mem_cons_of_mem _ (List.mem_cons_self ..)) inserted
      oneRun := distinct_insert tables.oneRun
        (List.mem_cons_of_mem _ (List.mem_cons_of_mem _ (List.mem_cons_self ..))) inserted
      finals := ?_
      ofRuns := ?_}
    · intro scanId row member runId final
      obtain ⟨run,found,named⟩ := Option.map_eq_some_iff.mp (tables.finals scanId row member runId final)
      exact Option.map_eq_some_iff.mpr ⟨run,inserted_found inserted found,named⟩
    · intro intent member
      obtain ⟨run,found⟩ := tables.ofRuns intent member
      exact ⟨run,inserted_found inserted found⟩
  | intentAdded recorded inserted =>
    refine {tables with
      oneIntent := distinct_insert tables.oneIntent (List.mem_cons_of_mem _ (List.mem_cons_self ..)) inserted
      onePurpose := distinct_insert tables.onePurpose
        (List.mem_cons_of_mem _ (List.mem_cons_of_mem _ (List.mem_cons_self ..))) inserted
      ofRuns := ?_}
    obtain ⟨_,_,rfl⟩ := insert_ok.mp inserted
    intro other member
    rcases List.mem_append.mp member with old | new
    · exact tables.ofRuns other old
    · obtain rfl := List.mem_singleton.mp new
      exact ⟨_,lookup_grown grown.runs recorded⟩

end SwapMonitor
