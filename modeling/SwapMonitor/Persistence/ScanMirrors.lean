import SwapMonitor.Persistence.Mirrors

namespace SwapMonitor
open Clocks Exceptions Relational
open Function (update_self update_of_ne)

variable {e : Engine} {access : AccessContext} {db : Database} {w : Stores}

section LogicalScans

-- An owner may change what an owner may read.
theorem read_mutation (d : Deployment) (portfolioId : UUID) : requirePortfolioRead d portfolioId access = requirePortfolioMutation d portfolioId access := by
  unfold requirePortfolioRead requirePortfolioMutation
  cases portfolioOwner d portfolioId with
  | error error => rfl
  | ok owner =>
    have same : access.canRead (.portfolio portfolioId) (some owner) = access.canMutate (.portfolio portfolioId) (some owner) := rfl
    simp only [returned_bind,AccessContext.requireRead,AccessContext.requireMutation,same]
    cases access.canMutate (.portfolio portfolioId) (some owner) <;> rfl

theorem final_run (mirror : Mirrors e db w) (scanId : UUID) :
    (db.runOfScan scanId).map (·.strategyRunId) = (w.runsByLogicalScan scanId).map (·.strategyRunId) := by
  have here := mirror.runsOfScans scanId
  generalize db.runOfScan scanId = row at here ⊢
  generalize w.runsByLogicalScan scanId = run at here ⊢
  cases here with
  | some restored => rw [Option.map_some,Option.map_some,(run_row restored).1]
  | none => rfl

theorem running_final {scan : LogicalScanRun} (unfinished : scan.status ≠ .completed) : scan.finalStrategyRunId = none := by
  have outcome := scan.outcome
  cases status : scan.status <;> cases completed : scan.completedAt <;> cases final : scan.finalStrategyRunId <;> simp_all

theorem domain_restored (mirror : Mirrors e db w) {scan : LogicalScanRun} (known : ScanKnown e.deployment db.plan w.runsByLogicalScan scan) :
    Database.scanToDomain e db (logicalScanToModel e.dialect scan) scan.portfolioId = .ok scan := by
  have final : (if (logicalScanToModel e.dialect scan).status = "COMPLETED" then
      (db.runOfScan (logicalScanToModel e.dialect scan).logicalScanRunId).map (·.strategyRunId) else none) = scan.finalStrategyRunId := by
    split
    · rename_i completed
      rw [final_run mirror]
      exact known.final (StrEnum.distinct scan.status LogicalScanStatus.completed completed)
    · rename_i unfinished
      refine (running_final fun completed => unfinished ?_).symm
      rw [logicalScanToModel,completed]
      rfl
  rw [Database.scanToDomain,final]
  exact scan_restored e.dialect known.constructed known.shown

theorem plan_portfolio {scan : LogicalScanRun} (known : ScanKnown e.deployment db.plan w.runsByLogicalScan scan) :
    db.planPortfolioId scan.rotationPlanId = .ok scan.portfolioId := by
  obtain ⟨plan,planned,owned⟩ := known.planned
  rw [Database.planPortfolioId,planned,← owned]

theorem get_scan_same (mirror : Mirrors e db w) (scanId : UUID) : Database.getScan e access db scanId = w.getScan e.deployment access scanId := by
  unfold Database.getScan Stores.getScan
  cases held : w.scansById scanId with
  | none => simp only [Database.scan,(tracks_none mirror.scans).mp held]
  | some scan =>
    obtain ⟨row,found,rfl⟩ := tracks_some mirror.scans held
    have known := mirror.known scanId scan held
    have portfolio : db.planPortfolioId (logicalScanToModel e.dialect scan).rotationPlanId = .ok scan.portfolioId := plan_portfolio known
    simp only [Database.scan,found,portfolio,returned_bind]
    exact congrArg _ (funext fun _ => domain_restored mirror known)

-- A request as its constructors let it be.
structure ScanLockRequest.Constructed (d : Deployment) (request : ScanLockRequest) : Prop where
  identity : request.identity.postInit d = .ok ()
  planned : request.identity.rotationPlanId = request.plan.rotationPlanId

theorem for_request_same (mirror : Mirrors e db w) {request : ScanLockRequest} (requested : request.Constructed e.deployment)
    (allowed : ∃ owner, requirePortfolioRead e.deployment request.plan.portfolioId access = .ok owner) {scan : LogicalScanRun}
    (known : ScanKnown e.deployment db.plan w.runsByLogicalScan scan) :
    Database.scanForRequest e access db (logicalScanToModel e.dialect scan) request = (do
      raiseIf (!Stores.matchesRequest e.deployment scan request) .valueError
        "scan lock key resolves to different scan identity components"
      pure scan) := by
  have portfolio : db.planPortfolioId (logicalScanToModel e.dialect scan).rotationPlanId = .ok scan.portfolioId := plan_portfolio known
  have components : Stores.matchesRequest e.deployment scan request =
      (scan.rotationPlanId == request.plan.rotationPlanId && scan.portfolioId == request.plan.portfolioId &&
        scan.marketSessionDate == request.identity.marketSessionDate && scan.scanWindowStart == request.identity.scanWindowStart &&
        scan.scanInterval == request.identity.scanInterval && scan.marketTimezone == request.identity.marketTimezone &&
        scan.configurationSnapshotHash == request.identity.configurationSnapshotHash &&
        scan.scanLockKey == request.key e.deployment) := by
    have parts : scan.identity = request.identity ↔ scan.rotationPlanId = request.identity.rotationPlanId ∧
        scan.marketSessionDate = request.identity.marketSessionDate ∧ scan.scanWindowStart = request.identity.scanWindowStart ∧
        scan.scanInterval = request.identity.scanInterval ∧
        scan.configurationSnapshotHash = request.identity.configurationSnapshotHash ∧
        scan.marketTimezone = request.identity.marketTimezone := by
      cases request.identity
      simp [LogicalScanRun.identity]
    rw [Bool.eq_iff_iff]
    simp only [Stores.matchesRequest,Bool.and_eq_true,beq_iff_eq,decide_eq_true_eq,parts,requested.planned]
    constructor
    · intro ⟨⟨⟨plan,portfolio⟩,_,session,window,interval,configuration,timezone⟩,key⟩
      exact ⟨⟨⟨⟨⟨⟨⟨plan,portfolio⟩,session⟩,window⟩,interval⟩,timezone⟩,configuration⟩,key⟩
    · intro ⟨⟨⟨⟨⟨⟨⟨plan,portfolio⟩,session⟩,window⟩,interval⟩,timezone⟩,configuration⟩,key⟩
      exact ⟨⟨⟨plan,portfolio⟩,plan,session,window,interval,configuration,timezone⟩,key⟩
  unfold Database.scanForRequest
  rw [portfolio,returned_bind,components]
  simp only [logicalScanToModel,persisted_restored]
  cases same : scan.portfolioId == request.plan.portfolioId with
  | false => simp [raiseIf,raise,Bind.bind,Except.bind]
  | true =>
    obtain ⟨owner,read⟩ := allowed
    rw [← beq_iff_eq.mp same] at read
    simp only [read,returned_bind]
    exact congrArg _ (funext fun _ => domain_restored mirror known)

theorem by_lock_key_same (mirror : Mirrors e db w) {request : ScanLockRequest} (requested : request.Constructed e.deployment) :
    Database.getByLockKey e access db request = w.getByLockKey e.deployment access request := by
  unfold Database.getByLockKey Stores.getByLockKey
  cases allowed : requirePortfolioRead e.deployment request.plan.portfolioId access with
  | error error => rfl
  | ok owner =>
    simp only [returned_bind]
    cases held : w.scansByKey (request.key e.deployment) with
    | none => simp only [Database.scanOfKey,(tracks_none mirror.scansOfKeys).mp held]
    | some scan =>
      obtain ⟨row,found,rfl⟩ := tracks_some mirror.scansOfKeys held
      have known := mirror.known _ scan (mirror.keyed _ scan held)
      simp only [Database.scanOfKey,found,for_request_same mirror requested ⟨owner,allowed⟩ known,bind_assoc]
      rfl

theorem new_scan_constructed {request : ScanLockRequest} (requested : request.Constructed e.deployment) (createdAt : Instant) :
    (w.newScan e.deployment request createdAt).Constructed e.deployment := by
  have accepted := requested.identity
  have same : (w.newScan e.deployment request createdAt).fields.identity = request.identity := by
    have planned := requested.planned
    cases identity : request.identity
    rw [identity] at planned
    simp [Stores.newScan,LogicalScanRun.fields,ScanFields.identity,identity,← planned]
  have dark : blank (w.newScan e.deployment request createdAt).fields.scanInterval = false := by
    simp only [ScanIdentity.postInit,bind_ok,raiseIf_ok,exists_const] at accepted
    exact accepted.1
  simp only [LogicalScanRun.Constructed,ScanFields.postInit,same,dark,bind_ok,raiseIf_ok,exists_const,true_and]
  refine ⟨(),accepted,?_,scan_outcome.mpr trivial⟩
  simp [LogicalScanRun.fields,Stores.newScan,ScanLockRequest.key]

theorem scan_inserted {request : ScanLockRequest} (planned : Stored db request.plan)
    (unused : ∀ row ∈ db.logicalScanRuns, row.logicalScanRunId ≠ w.nextUuid)
    (free : db.scanOfKey (request.key e.deployment) = none) (createdAt : Instant) :
    insert (Database.scanReferences e db (logicalScanToModel e.dialect (w.newScan e.deployment request createdAt)) ++
        (logicalScanToModel e.dialect (w.newScan e.deployment request createdAt)).checks) Database.scanIndexes
        (logicalScanToModel e.dialect (w.newScan e.deployment request createdAt)) db.logicalScanRuns =
      .ok (db.logicalScanRuns ++ [logicalScanToModel e.dialect (w.newScan e.deployment request createdAt)]) := by
  refine insert_ok.mpr ⟨?_,?_,rfl⟩
  · intro check member
    rcases List.mem_append.mp member with reference | own
    · obtain rfl := List.mem_singleton.mp reference
      exact reference_known (stored_known planned)
    · exact scan_checked e.dialect _ check own
  · simp only [Database.scanIndexes,List.forall_mem_cons,List.not_mem_nil,false_implies,implies_true,and_true]
    constructor
    · intro stored member
      exact index_clear.mpr fun _ _ => unused stored member
    · intro stored member
      exact index_clear.mpr fun _ _ => lookup_none.mp free stored member

theorem create_or_recover_agrees (mirror : Mirrors e db w) {request : ScanLockRequest} (requested : request.Constructed e.deployment)
    (planned : Stored db request.plan) (unused : ∀ row ∈ db.logicalScanRuns, row.logicalScanRunId ≠ w.nextUuid) (createdAt : Instant) :
    Agree (SameAfter e) (Database.createOrRecover e access db db w.nextUuid request createdAt)
      (w.createOrRecover e.deployment access request createdAt) := by
  unfold Database.createOrRecover Stores.createOrRecover
  refine agree_check fun owner allowed => ?_
  cases held : w.scansByKey (request.key e.deployment) with
  | some scan =>
    obtain ⟨row,found,rfl⟩ := tracks_some mirror.scansOfKeys held
    have known := mirror.known _ scan (mirror.keyed _ scan held)
    have readable : ∃ owner, requirePortfolioRead e.deployment request.plan.portfolioId access = .ok owner :=
      ⟨owner,(read_mutation ..).trans allowed⟩
    simp only [Database.scanOfKey,found,for_request_same mirror requested readable known,bind_assoc]
    exact agree_check fun _ _ => .returned ⟨rfl,mirror⟩
  | none =>
    have free := (tracks_none mirror.scansOfKeys).mp held
    have inserted := scan_inserted planned unused free createdAt
    have absent : w.scansById w.nextUuid = none :=
      (tracks_none mirror.scans).mpr (lookup_none.mpr unused)
    have new : Database.newScan e w.nextUuid request createdAt = w.newScan e.deployment request createdAt := rfl
    have apart : ∀ {scanId scan}, w.scansById scanId = some scan → scanId ≠ w.nextUuid := by
      intro scanId scan stored same
      rw [same,absent] at stored
      cases stored
    have unattempted : Function.update w.attemptsByScan (w.newScan e.deployment request createdAt).logicalScanRunId [] =
        w.attemptsByScan := Function.update_eq_self_iff.mpr (mirror.recorded _ absent).symm
    simp only [Database.scanOfKey,free,new,inserted,unattempted]
    refine .returned ⟨rfl,{mirror with
      scans := tracks_insert mirror.scans (lookup_none.mpr unused) rfl
      scansOfKeys := tracks_insert mirror.scansOfKeys free rfl
      keyed := ?_
      indexed := ?_
      known := ?_
      recorded := ?_
      ownRuns := ?_}⟩
    · intro key scan
      by_cases same : key = (w.newScan e.deployment request createdAt).scanLockKey
      · subst same
        simp only [update_self,Option.some.injEq]
        intro created
        subst created
        exact update_self ..
      · simp only [update_of_ne same]
        intro stored
        have indexed := mirror.keyed key scan stored
        exact (update_of_ne (apart indexed) ..).trans indexed
    · intro scanId scan
      by_cases same : scanId = w.nextUuid
      · subst same
        intro created
        have written : w.newScan e.deployment request createdAt = scan :=
          Option.some.inj ((update_self w.nextUuid _ w.scansById).symm.trans created)
        subst written
        exact update_self ..
      · intro stored
        have indexed := mirror.indexed scanId scan ((update_of_ne same ..).symm.trans stored)
        refine (update_of_ne ?_ ..).trans indexed
        intro shared
        rw [shared] at indexed
        cases held.symm.trans indexed
    · intro scanId scan
      by_cases same : scanId = w.nextUuid
      · subst same
        intro created
        have written : w.newScan e.deployment request createdAt = scan :=
          Option.some.inj ((update_self w.nextUuid _ w.scansById).symm.trans created)
        subst written
        exact ⟨new_scan_constructed requested createdAt,fun _ completed => absurd completed (Option.some_ne_none _).symm,planned,fun completed => by cases completed⟩
      · intro stored
        exact mirror.known scanId scan ((update_of_ne same ..).symm.trans stored)
    · intro scanId unknown
      by_cases same : scanId = w.nextUuid
      · subst same
        exact mirror.recorded _ absent
      · exact mirror.recorded scanId ((update_of_ne same ..).symm.trans unknown)
    · intro scanId run recorded
      obtain ⟨scan,stored,own⟩ := mirror.ownRuns scanId run recorded
      exact ⟨scan,(update_of_ne (apart stored) ..).trans stored,own⟩

theorem in_order (chain : RecoveryChain attempts) :
    (attempts.insertionSort fun a b => a.attemptNumber ≤ b.attemptNumber) = attempts :=
  ((Stores.chain_growing chain).imp Nat.le_of_lt).insertionSort_eq

theorem attempts_restored (attempts : List ScanAttempt) :
    (attempts.map (scanAttemptToModel e.dialect)).mapM scanAttemptFromModel = .ok attempts := by
  induction attempts with
  | nil => rfl
  | cons attempt rest ih =>
    rw [List.map_cons,List.mapM_cons,attempt_restored,returned_bind,ih]
    rfl

theorem list_attempts_same (mirror : Mirrors e db w) (scanId : UUID) :
    Database.listAttempts e access db scanId = w.listAttempts e.deployment access scanId := by
  have stored := (Stores.chain_growing (mirror.chains scanId)).imp Nat.le_of_lt
  have rows : ((db.attemptsOf scanId).insertionSort fun a b => a.attemptNumber ≤ b.attemptNumber) = db.attemptsOf scanId := by
    rw [mirror.attempts]
    refine List.Pairwise.insertionSort_eq (List.pairwise_map.mpr ?_)
    exact stored
  unfold Database.listAttempts Stores.listAttempts
  rw [get_scan_same mirror,rows,mirror.attempts,attempts_restored,in_order (mirror.chains scanId)]
  rfl

theorem attempt_found (mirror : Mirrors e db w) (scanId attemptId : UUID) : db.attemptOf scanId attemptId =
    ((w.attemptsByScan scanId).find? (·.scanAttemptId == attemptId)).map (scanAttemptToModel e.dialect) := by
  rw [Database.attemptOf,mirror.attempts,List.find?_map]
  rfl

theorem final_found (mirror : Mirrors e db w) (scanId strategyRunId : UUID) : (db.finalRunOf scanId strategyRunId).isNone =
    decide ((w.runsByLogicalScan scanId).map (·.strategyRunId) ≠ some strategyRunId) := by
  have covered : ∀ row : StrategyRunModel, row.logicalScanRunId = some scanId → row.logicalScanRunId.isSome = true :=
    fun row named => named ▸ rfl
  have keyed : db.finalRunOf scanId strategyRunId = (db.runOfScan scanId).filter (·.strategyRunId == strategyRunId) := by
    refine Eq.trans ?_ (find_keyed mirror.oneRun covered (·.strategyRunId == strategyRunId))
    rw [Database.finalRunOf]
    congr 1
    funext run
    rw [Bool.eq_iff_iff]
    simp
  rw [keyed,← final_run mirror]
  cases db.runOfScan scanId with
  | none => rfl
  | some row =>
    rw [Option.filter_some,Option.map_some,Bool.eq_iff_iff]
    by_cases same : row.strategyRunId = strategyRunId <;> simp [same]

theorem final_reference_same (mirror : Mirrors e db w) {scan : LogicalScanRun} (attempt : ScanAttempt)
    (own : scan.logicalScanRunId = attempt.logicalScanRunId) :
    db.validateFinalReference scan attempt = w.validateFinalReference scan attempt := by
  unfold Database.validateFinalReference Stores.validateFinalReference
  cases attempt.finalStrategyRunId with
  | none => rfl
  | some id => simp only [final_found mirror,own]

theorem duplicate_reference_same (mirror : Mirrors e db w) (attempt : ScanAttempt) : db.validateDuplicateReference attempt =
    Stores.validateDuplicateReference attempt (w.attemptsByScan attempt.logicalScanRunId) := by
  unfold Database.validateDuplicateReference Stores.validateDuplicateReference
  cases attempt.duplicateOfAttemptId with
  | none => rfl
  | some id =>
    simp only [attempt_found mirror]
    cases (w.attemptsByScan attempt.logicalScanRunId).find? (·.scanAttemptId == id) with
    | none => rfl
    | some original =>
      have status : ((scanAttemptToModel e.dialect original).status != "SUCCEEDED") = decide (original.status ≠ .succeeded) := by
        simp only [scanAttemptToModel]
        cases original.status <;> rfl
      simp only [Option.map_some,status]

theorem references_same (mirror : Mirrors e db w) {scan : LogicalScanRun} (attempt : ScanAttempt)
    (own : scan.logicalScanRunId = attempt.logicalScanRunId) : db.validateAttemptReferences scan attempt =
      w.validateAttemptReferences scan attempt (w.attemptsByScan attempt.logicalScanRunId) := by
  have recovery : (attempt.recoveryOfAttemptId.any fun id => (db.attemptOf attempt.logicalScanRunId id).isNone) =
      attempt.recoveryOfAttemptId.any fun id => !(w.attemptsByScan attempt.logicalScanRunId).any (·.scanAttemptId == id) := by
    congr 1
    funext id
    rw [attempt_found mirror,Option.isNone_map,← Option.not_isSome,List.isSome_find?]
  unfold Database.validateAttemptReferences Stores.validateAttemptReferences
  rw [recovery,duplicate_reference_same mirror,final_reference_same mirror attempt own]

-- An attempt that takes the number of another one is refused by either repository, though not for the same reason.
theorem taken_number {attempts : List ScanAttempt} (chain : RecoveryChain attempts) {candidate stored : ScanAttempt}
    (member : stored ∈ attempts) (same : stored.attemptNumber = candidate.attemptNumber) :
    Stores.validateScanAttemptAppend attempts candidate ≠ .ok () := by
  intro passed
  have grown := Stores.chain_growing (Stores.chain_append chain passed)
  obtain ⟨_,_,later⟩ := List.pairwise_append.mp grown
  have before := later stored member candidate (List.mem_singleton.mpr rfl)
  omega

theorem scan_named (mirror : Mirrors e db w) {scanId : UUID} {scan : LogicalScanRun} (held : w.scansById scanId = some scan) :
    scan.logicalScanRunId = scanId := by
  obtain ⟨row,found,rfl⟩ := tracks_some mirror.scans held
  exact (lookup_some found).2

theorem read_found {scanId : UUID} {scan : LogicalScanRun} (read : w.getScan e.deployment access scanId = .ok scan) :
    w.scansById scanId = some scan := (Repositories.scan_found read).1

theorem attempts_read (mirror : Mirrors e db w) {scanId : UUID} {scan : LogicalScanRun}
    (read : w.getScan e.deployment access scanId = .ok scan) :
    Database.listAttempts e access db scanId = .ok (w.attemptsByScan scanId) := by
  rw [list_attempts_same mirror,Stores.listAttempts,read,in_order (mirror.chains scanId)]
  rfl

-- What the references of an accepted attempt are worth as foreign keys.
theorem attempt_references (mirror : Mirrors e db w) {scan : LogicalScanRun} {attempt : ScanAttempt}
    (held : w.scansById attempt.logicalScanRunId = some scan)
    (configured : (attempt.configurationSnapshotId.all fun id => (db.snapshot id).isSome) = true)
    (referenced : db.validateAttemptReferences scan attempt = .ok ()) :
    ∀ check ∈ Database.attemptReferences e db (scanAttemptToModel e.dialect attempt), check.2 = true := by
  have present : ∀ {attemptId : UUID}, (db.attemptOf attempt.logicalScanRunId attemptId).isNone = false →
      (db.attemptsOf attempt.logicalScanRunId).any (·.scanAttemptId == attemptId) = true := by
    intro attemptId found
    rw [← List.isSome_find?,← Option.not_isNone]
    exact congrArg not found
  simp only [Database.validateAttemptReferences,bind_ok,raiseIf_ok,exists_const] at referenced
  obtain ⟨recovery,_,duplicate,final⟩ := referenced
  simp only [Database.attemptReferences,List.forall_mem_cons,List.not_mem_nil,false_implies,implies_true,and_true]
  refine ⟨reference_known ?_,reference_known configured,reference_known ?_,reference_known ?_,reference_known ?_⟩
  · obtain ⟨row,found,_⟩ := tracks_some mirror.scans held
    exact Option.isSome_of_eq_some found
  · cases recovers : attempt.recoveryOfAttemptId with
    | none => simp [Database.knowsAttempt,scanAttemptToModel,recovers]
    | some id =>
      rw [recovers] at recovery
      simpa only [Database.knowsAttempt,scanAttemptToModel,recovers,Option.all_some] using present recovery
  · cases duplicates : attempt.duplicateOfAttemptId with
    | none => simp [Database.knowsAttempt,scanAttemptToModel,duplicates]
    | some id =>
      simp only [Database.validateDuplicateReference,duplicates] at duplicate
      split at duplicate
      · cases duplicate
      · rename_i found
        simpa only [Database.knowsAttempt,scanAttemptToModel,duplicates,Option.all_some] using present (by rw [found]; rfl)
  · cases finals : attempt.finalStrategyRunId with
    | none => simp [scanAttemptToModel,finals]
    | some id =>
      simp only [Database.validateFinalReference,finals,bind_ok,raiseIf_ok,exists_const,final_found mirror,
        ← final_run mirror] at final
      obtain ⟨row,found,named⟩ := Option.map_eq_some_iff.mp (by simpa using final.1)
      simp [scanAttemptToModel,finals,found,named]

theorem record_attempt_agrees (mirror : Mirrors e db w) {attempt : ScanAttempt}
    (unused : ∀ row ∈ db.scanAttempts, row.scanAttemptId ≠ attempt.scanAttemptId)
    (configured : (attempt.configurationSnapshotId.all fun id => (db.snapshot id).isSome) = true)
    (unnumbered : ∀ stored ∈ w.attemptsByScan attempt.logicalScanRunId, stored.attemptNumber ≠ attempt.attemptNumber) :
    Agree (Mirrors e) (Database.recordAttempt e access db db attempt) (w.recordAttempt e.deployment access attempt) := by
  unfold Database.recordAttempt Stores.recordAttempt
  rw [get_scan_same mirror]
  refine agree_check fun scan read => ?_
  have held := read_found read
  have own := scan_named mirror held
  have free : ((w.attemptsByScan attempt.logicalScanRunId).any fun stored => stored.attemptNumber == attempt.attemptNumber) = false :=
    List.any_eq_false.mpr fun stored member => by simpa using unnumbered stored member
  refine agree_check fun owner _ => ?_
  rw [attempts_read mirror read,returned_bind,references_same mirror attempt own,own]
  simp only [free,raiseIf,Bool.false_eq_true,if_false,returned_bind]
  refine agree_check fun _ referenced => ?_
  refine agree_check fun _ _ => ?_
  refine agree_check fun _ appended => ?_
  have inserted : insert (Database.attemptReferences e db (scanAttemptToModel e.dialect attempt) ++
      (scanAttemptToModel e.dialect attempt).checks) Database.attemptIndexes (scanAttemptToModel e.dialect attempt) db.scanAttempts =
      .ok (db.scanAttempts ++ [scanAttemptToModel e.dialect attempt]) := by
    refine insert_ok.mpr ⟨?_,?_,rfl⟩
    · intro check member
      rcases List.mem_append.mp member with reference | checked
      · exact attempt_references mirror held configured ((references_same mirror attempt own).trans referenced) check reference
      · exact attempt_checked e.dialect attempt check checked
    · have numbered : ∀ stored ∈ db.scanAttempts, (stored.logicalScanRunId,stored.attemptNumber) ≠
          (attempt.logicalScanRunId,attempt.attemptNumber) := by
        intro stored member same
        obtain ⟨scanned,number⟩ := Prod.mk.inj same
        have listed : stored ∈ db.attemptsOf attempt.logicalScanRunId := List.mem_filter.mpr ⟨member,by simp [scanned]⟩
        rw [mirror.attempts] at listed
        obtain ⟨known,inside,rfl⟩ := List.mem_map.mp listed
        exact unnumbered known inside number
      simp only [Database.attemptIndexes,List.forall_mem_cons,List.not_mem_nil,false_implies,implies_true,and_true]
      refine ⟨fun stored member => ?_,fun stored member => ?_,fun stored member => ?_⟩
      · exact index_clear.mpr fun _ _ => unused stored member
      · exact index_clear.mpr fun _ _ => numbered stored member
      · exact index_clear.mpr fun _ _ same => unused stored member (Prod.mk.inj same).2
  rw [flush_inserted inserted,returned_bind]
  refine .returned {mirror with attempts := ?_,chains := ?_,recorded := ?_}
  · intro scanId
    have listed : {db with scanAttempts := db.scanAttempts ++ [scanAttemptToModel e.dialect attempt]}.attemptsOf scanId =
        db.attemptsOf scanId ++ if attempt.logicalScanRunId = scanId then [scanAttemptToModel e.dialect attempt] else [] := by
      have named : (scanAttemptToModel e.dialect attempt).logicalScanRunId = attempt.logicalScanRunId := rfl
      simp only [Database.attemptsOf,List.filter_append,List.filter_singleton,named]
      by_cases same : attempt.logicalScanRunId = scanId
      · simp [same]
      · rw [beq_false_of_ne same,if_neg same]
        rfl
    rw [listed,mirror.attempts]
    by_cases same : scanId = attempt.logicalScanRunId
    · simp [same]
    · simp [update_of_ne same,Ne.symm same]
  · intro scanId
    by_cases same : scanId = attempt.logicalScanRunId
    · subst same
      simp only [update_self]
      exact Stores.chain_append (mirror.chains _) appended
    · simp only [update_of_ne same]
      exact mirror.chains scanId
  · intro scanId unknown
    by_cases same : scanId = attempt.logicalScanRunId
    · subst same
      rw [held] at unknown
      cases unknown
    · simp only [update_of_ne same]
      exact mirror.recorded scanId unknown

theorem record_attempt_refused (mirror : Mirrors e db w) (access : AccessContext) {attempt stored : ScanAttempt}
    (taken : stored ∈ w.attemptsByScan attempt.logicalScanRunId) (same : stored.attemptNumber = attempt.attemptNumber) :
    (∃ error, Database.recordAttempt e access db db attempt = .error error) ∧
      ∃ error, w.recordAttempt e.deployment access attempt = .error error := by
  constructor
  · cases recorded : Database.recordAttempt e access db db attempt with
    | error error => exact ⟨error,rfl⟩
    | ok after =>
      simp only [Database.recordAttempt,bind_ok,get_scan_same mirror] at recorded
      obtain ⟨scan,read,_,_,existing,listed,_,_,_,_,_,appended,_⟩ := recorded
      obtain rfl := Except.ok.inj ((attempts_read mirror read).symm.trans listed)
      exact absurd appended (taken_number (mirror.chains _) taken same)
  · cases recorded : w.recordAttempt e.deployment access attempt with
    | error error => exact ⟨error,rfl⟩
    | ok after =>
      simp only [Stores.recordAttempt,bind_ok,raiseIf_ok,exists_const] at recorded
      obtain ⟨scan,read,_,_,free,_⟩ := recorded
      rw [scan_named mirror (read_found read)] at free
      exact absurd (List.any_eq_false.mp free stored taken) (by simp [same])

-- What must hold before a scan is completed.
def Stores.requireFinalEvidence (d : Deployment) (access : AccessContext) (w : Stores) (scan : LogicalScanRun) (plan : RotationPlan)
    (strategyRunId : UUID) : Except PyError Unit := do
  let _ ← requirePortfolioMutation d scan.portfolioId access
  raiseIf (decide (scan.rotationPlanId ≠ plan.rotationPlanId ∨ scan.portfolioId ≠ plan.portfolioId)) .valueError
    "logical scan must belong to the supplied rotation plan"
  raiseIf (decide (scan.status = .completed)) .logicalScanAlreadyCompletedError
    "logical scan already has a final strategy run"
  raiseIf (decide ((w.runsByLogicalScan scan.logicalScanRunId).map (·.strategyRunId) ≠ some strategyRunId)) .valueError
    "logical scan final strategy run was not persisted"
  raiseIf (!(w.attemptsByScan scan.logicalScanRunId).any fun attempt =>
      attempt.status == .succeeded && attempt.finalStrategyRunId == some strategyRunId) .valueError
    "logical scan requires durable final success evidence before completion"

theorem attach_held {scanId strategyRunId : UUID} {plan : RotationPlan} {completedAt : Instant} {scan : LogicalScanRun}
    (held : w.scansById scanId = some scan) (named : scan.logicalScanRunId = scanId) :
    w.attachFinalStrategyRun e.deployment access scanId plan strategyRunId completedAt = (do
      w.requireFinalEvidence e.deployment access scan plan strategyRunId
      let completed ← Stores.completeScan scan strategyRunId completedAt
      pure (completed,{w with
        scansById := Function.update w.scansById scanId (some completed)
        scansByKey := Function.update w.scansByKey completed.scanLockKey (some completed)})) := by
  unfold Stores.attachFinalStrategyRun Stores.requireFinalEvidence
  simp only [Stores.getScan,held,read_mutation,bind_assoc,named]
  cases allowed : requirePortfolioMutation e.deployment scan.portfolioId access with
  | error error => rfl
  | ok owner => simp only [returned_bind,pure_bind,allowed]

theorem evidence_agrees (mirror : Mirrors e db w) (access : AccessContext) {scan : LogicalScanRun}
    (known : ScanKnown e.deployment db.plan w.runsByLogicalScan scan) (plan : RotationPlan) (strategyRunId : UUID) :
    Database.requireFinalEvidence e access db (logicalScanToModel e.dialect scan) plan strategyRunId = (do
      w.requireFinalEvidence e.deployment access scan plan strategyRunId
      pure scan.portfolioId) := by
  have portfolio : db.planPortfolioId (logicalScanToModel e.dialect scan).rotationPlanId = .ok scan.portfolioId := plan_portfolio known
  have status : ((logicalScanToModel e.dialect scan).status == "COMPLETED") = decide (scan.status = .completed) := by
    simp only [logicalScanToModel]
    cases scan.status <;> rfl
  have evidence : ((db.attemptsOf scan.logicalScanRunId).any fun attempt =>
        attempt.status == "SUCCEEDED" && attempt.finalStrategyRunId == some strategyRunId) =
      (w.attemptsByScan scan.logicalScanRunId).any fun attempt =>
        attempt.status == .succeeded && attempt.finalStrategyRunId == some strategyRunId := by
    rw [mirror.attempts,List.any_map]
    congr 1
    funext attempt
    simp only [Function.comp_apply,scanAttemptToModel]
    congr 1
    cases attempt.status <;> rfl
  unfold Database.requireFinalEvidence Stores.requireFinalEvidence
  rw [portfolio,returned_bind,status]
  simp only [logicalScanToModel,final_found mirror,evidence,bind_assoc]
  rfl

-- What a completion makes of a scan.
structure CompletedAs (scan completed : LogicalScanRun) (strategyRunId : UUID) (completedAt : Instant) : Prop where
  fields : completed.fields =
    {scan.fields with status := .completed,completedAt := some completedAt,finalStrategyRunId := some strategyRunId}

theorem completed_as {scan completed : LogicalScanRun} {strategyRunId : UUID} {completedAt : Instant}
    (made : Stores.completeScan scan strategyRunId completedAt = .ok completed) : CompletedAs scan completed strategyRunId completedAt := by
  unfold Stores.completeScan at made
  split at made
  · cases made
    exact ⟨rfl⟩
  · cases made

theorem completed_constructed {d : Deployment} {scan completed : LogicalScanRun} {strategyRunId : UUID} {completedAt : Instant}
    (constructed : scan.Constructed d) (as : CompletedAs scan completed strategyRunId completedAt)
    (ordered : scan.createdAt ≤ completedAt) : completed.Constructed d := by
  rw [LogicalScanRun.Constructed,as.fields]
  simp only [LogicalScanRun.Constructed,ScanFields.postInit,bind_ok,raiseIf_ok,exists_const] at constructed ⊢
  obtain ⟨dark,_,identity,key,_⟩ := constructed
  exact ⟨dark,(),identity,key,scan_outcome.mpr ordered⟩

theorem completed_row {scan completed : LogicalScanRun} {strategyRunId : UUID} {completedAt : AwareDatetime}
    (as : CompletedAs scan completed strategyRunId completedAt.instant) (kept : e.dialect = .sqlite → completedAt.offset = 0) :
    Database.completedRow (e.dialect.column completedAt) (logicalScanToModel e.dialect scan) = logicalScanToModel e.dialect completed := by
  have column : e.dialect.column completedAt = e.dialect.persisted completedAt.instant := by
    cases dialect : e.dialect with
    | sqlite => simp [Dialect.column,Dialect.persisted,AwareDatetime.offset,show completedAt.clock.offset = 0 from kept dialect]
    | postgresql sessionOffset => rfl
  have model : ∀ scan : LogicalScanRun, logicalScanToModel e.dialect scan = {
      logicalScanRunId := scan.fields.logicalScanRunId
      rotationPlanId := scan.fields.rotationPlanId
      marketSessionDate := scan.fields.marketSessionDate
      scanWindowStart := e.dialect.persisted scan.fields.scanWindowStart
      scanInterval := scan.fields.scanInterval
      marketTimezone := scan.fields.marketTimezone
      configurationSnapshotHash := scan.fields.configurationSnapshotHash
      scanLockKey := scan.fields.scanLockKey
      status := StrEnum.value scan.fields.status
      completedAt := scan.fields.completedAt.map e.dialect.persisted
      createdAt := e.dialect.persisted scan.fields.createdAt} := fun _ => rfl
  rw [model completed,as.fields,model scan,Database.completedRow,column]
  rfl

-- A completed row is restored when its columns are in order.
theorem completed_domain {scan : LogicalScanRun} {strategyRunId : UUID} (column : ColumnDatetime)
    (final : (db.runOfScan scan.logicalScanRunId).map (·.strategyRunId) = some strategyRunId) :
    Database.scanToDomain e db (Database.completedRow column (logicalScanToModel e.dialect scan)) scan.portfolioId = (do
      let completedAt ← restoreDatetime column
      LogicalScanRun.create e.deployment
        {scan.fields with
          status := .completed
          completedAt := some completedAt.instant
          finalStrategyRunId := some strategyRunId}) := by
  have status : StrEnum.ofValue "COMPLETED" = .ok LogicalScanStatus.completed := StrEnum.value_read LogicalScanStatus.completed
  simp only [Database.scanToDomain,logicalScanFromModel,Database.completedRow,logicalScanToModel,if_true,status,persisted_restored,
    Option.mapM_some,final]
  cases restoreDatetime column <;> rfl

theorem completed_created {d : Deployment} {scan completed : LogicalScanRun} {strategyRunId : UUID} {completedAt : Instant}
    (constructed : scan.Constructed d) (as : CompletedAs scan completed strategyRunId completedAt) (ordered : scan.createdAt ≤ completedAt) :
    LogicalScanRun.create d
      {scan.fields with status := .completed,completedAt := some completedAt,finalStrategyRunId := some strategyRunId} = .ok completed := by
  rw [← as.fields]
  exact scan_recreated (completed_constructed constructed as ordered)

theorem completed_mirrors (mirror : Mirrors e db w) {scanId strategyRunId : UUID} {scan completed : LogicalScanRun}
    {completedAt : AwareDatetime} (held : w.scansById scanId = some scan)
    (as : CompletedAs scan completed strategyRunId completedAt.instant) (kept : e.dialect = .sqlite → completedAt.offset = 0)
    (shown : Shown completedAt.instant) (ordered : scan.createdAt ≤ completedAt.instant)
    (recorded : (w.runsByLogicalScan scan.logicalScanRunId).map (·.strategyRunId) = some strategyRunId) :
    Mirrors e
      {db with
        logicalScanRuns := update (·.logicalScanRunId == scanId) (Database.completedRow (e.dialect.column completedAt))
          db.logicalScanRuns}
      {w with
        scansById := Function.update w.scansById scanId (some completed)
        scansByKey := Function.update w.scansByKey completed.scanLockKey (some completed)} := by
  have named := scan_named mirror held
  have fields := as.fields
  have same_id : completed.logicalScanRunId = scan.logicalScanRunId := congrArg ScanFields.logicalScanRunId fields
  have same_key : completed.scanLockKey = scan.scanLockKey := congrArg ScanFields.scanLockKey fields
  have indexed := mirror.indexed scanId scan held
  obtain ⟨row,found,rfl⟩ := tracks_some mirror.scans held
  obtain ⟨row,keyed,rfl⟩ := tracks_some mirror.scansOfKeys indexed
  have row_completed := completed_row (e := e) as kept
  have known := mirror.known scanId scan held
  -- under another key there is another scan
  have elsewhere : ∀ {key other}, key ≠ scan.scanLockKey → w.scansByKey key = some other → other.logicalScanRunId ≠ scanId := by
    intro key other apart stored same
    have again := mirror.keyed key other stored
    rw [same,held] at again
    obtain rfl := Option.some.inj again
    obtain ⟨row,there,rfl⟩ := tracks_some mirror.scansOfKeys stored
    exact apart (lookup_some there).2.symm
  refine {mirror with
    scans := ?_
    scansOfKeys := ?_
    keyed := ?_
    indexed := ?_
    known := ?_
    recorded := ?_
    ownRuns := ?_}
  · refine tracks_update mirror.scans (fun _ => rfl) found (by simp [logicalScanToModel,named]) row_completed ?_
    intro other row apart there
    simp [(lookup_some there).2,apart]
  · rw [same_key]
    refine tracks_update mirror.scansOfKeys (fun _ => rfl) keyed (by simp [logicalScanToModel,named]) row_completed ?_
    intro other row apart there
    obtain ⟨there_scan,stored,rfl⟩ := tracks_found mirror.scansOfKeys there
    exact beq_false_of_ne (elsewhere apart stored)
  · intro key other stored
    by_cases same : key = scan.scanLockKey
    · rw [same,same_key] at stored
      obtain rfl := Option.some.inj ((update_self scan.scanLockKey _ w.scansByKey).symm.trans stored)
      rw [same_id,named]
      exact update_self ..
    · rw [same_key] at stored
      have before : w.scansByKey key = some other := (update_of_ne same ..).symm.trans stored
      exact (update_of_ne (elsewhere same before) ..).trans (mirror.keyed key other before)
  · intro other stored known
    rw [same_key]
    by_cases same : other = scanId
    · subst same
      obtain rfl := Option.some.inj ((update_self other _ w.scansById).symm.trans known)
      rw [same_key]
      exact update_self ..
    · have before : w.scansById other = some stored := (update_of_ne same ..).symm.trans known
      have there := mirror.indexed other stored before
      refine (update_of_ne ?_ ..).trans there
      intro shared
      rw [shared,indexed] at there
      cases there
      exact same ((scan_named mirror before).symm.trans named)
  · intro other stored known_stored
    by_cases same : other = scanId
    · subst same
      obtain rfl := Option.some.inj ((update_self other _ w.scansById).symm.trans known_stored)
      have plan : completed.rotationPlanId = scan.rotationPlanId := congrArg ScanFields.rotationPlanId fields
      have portfolio : completed.portfolioId = scan.portfolioId := congrArg ScanFields.portfolioId fields
      have final : completed.finalStrategyRunId = some strategyRunId := congrArg ScanFields.finalStrategyRunId fields
      refine ⟨completed_constructed known.constructed as ordered,?_,?_,fun _ => ?_⟩
      · intro at_time ended
        have same : completed.completedAt = some completedAt.instant := congrArg ScanFields.completedAt fields
        obtain rfl := Option.some.inj (same.symm.trans ended)
        exact shown
      · rw [plan,portfolio]
        exact known.planned
      · rw [final,same_id]
        exact recorded
    · exact mirror.known other stored ((update_of_ne same ..).symm.trans known_stored)
  · intro other unknown
    by_cases same : other = scanId
    · subst same
      cases (update_self other _ w.scansById).symm.trans unknown
    · exact mirror.recorded other ((update_of_ne same ..).symm.trans unknown)
  · intro other run stored
    obtain ⟨own,before,plan,portfolio⟩ := mirror.ownRuns other run stored
    by_cases same : other = scanId
    · subst same
      obtain rfl := Option.some.inj (held.symm.trans before)
      refine ⟨completed,update_self ..,?_,?_⟩
      · exact plan.trans (congrArg ScanFields.rotationPlanId fields).symm
      · exact portfolio.trans (congrArg ScanFields.portfolioId fields).symm
    · exact ⟨own,(update_of_ne same ..).trans before,plan,portfolio⟩

theorem attach_agrees (mirror : Mirrors e db w) (access : AccessContext) {scanId : UUID} (plan : RotationPlan) (strategyRunId : UUID)
    {completedAt : AwareDatetime}
    (ordered : ∀ scan, w.scansById scanId = some scan → scan.createdAt ≤ completedAt.instant)
    (kept : e.dialect = .sqlite → completedAt.offset = 0) (shown : Shown completedAt.instant) :
    match w.attachFinalStrategyRun e.deployment access scanId plan strategyRunId completedAt.instant with
    | .error error => Database.attachFinalStrategyRun e access db db scanId plan strategyRunId completedAt = (.error error,db)
    | .ok (completed,later) => ∃ after, Database.attachFinalStrategyRun e access db db scanId plan strategyRunId completedAt =
        (.ok completed,after) ∧ Mirrors e after later := by
  cases held : w.scansById scanId with
  | none =>
    have absent := (tracks_none mirror.scans).mp held
    simp only [Stores.attachFinalStrategyRun,Stores.getScan,held,Database.attachFinalStrategyRun,Database.scan,absent]
    rfl
  | some scan =>
    obtain ⟨row,found,rfl⟩ := tracks_some mirror.scans held
    have known := mirror.known scanId scan held
    have named := scan_named mirror held
    simp only [attach_held held named,Database.attachFinalStrategyRun,Database.scan,found,evidence_agrees mirror access known]
    cases evidence : w.requireFinalEvidence e.deployment access scan plan strategyRunId with
    | error error => rfl
    | ok passed =>
      have complete : ∃ completed, Stores.completeScan scan strategyRunId completedAt.instant = .ok completed :=
        ⟨_,dif_pos (ordered scan held)⟩
      obtain ⟨completed,made⟩ := complete
      have as := completed_as made
      simp only [Stores.requireFinalEvidence,bind_ok,raiseIf_ok,exists_const,decide_eq_false_iff_not,not_not] at evidence
      obtain ⟨_,_,_,_,recorded,_⟩ := evidence
      simp only [returned_bind,made]
      refine ⟨_,?_,completed_mirrors mirror held as kept shown (ordered scan held) recorded⟩
      have final := (final_run mirror scan.logicalScanRunId).trans recorded
      refine Prod.ext ((completed_domain (.aware completedAt) final).trans ?_) rfl
      have read : restoreDatetime (.aware completedAt) = .ok ⟨completedAt.instant,{}⟩ := restore_ok.mpr ⟨shown,rfl⟩
      rw [read]
      exact completed_created known.constructed as (ordered scan held)

end LogicalScans

end SwapMonitor
