import SwapMonitor.Application.Represents

namespace SwapMonitor
open Interleaving
open Function (update update_self update_of_ne)

section Locks
variable {seed : UUID → Option RecommendationStateRecord} {w w' : Stores} {j : Log} {d : Deployment}
  {access : AccessContext} {request : ScanLockRequest}

theorem acquire_parts {found : Option LockLease} (rep : Represents seed w j)
    (acquired : w.acquireScanLock d access request = .ok (found,w')) :
    (found = none ∧ w' = w) ∨ ∃ lease, found = some lease ∧ lease.key = request.key d ∧
      (ledger (request.key d) j).holder = none ∧
      ∀ thread, Represents seed w' (⟨some thread,request.key d,.acquired lease⟩ :: j) := by
  simp only [Stores.acquireScanLock,bind_ok,either_ok,pure_ok,Prod.mk.injEq] at acquired
  obtain ⟨_,_,⟨_,rfl,rfl⟩ | ⟨free,rfl,rfl⟩⟩ := acquired
  · exact .inl ⟨rfl,rfl⟩
  refine .inr ⟨_,rfl,rfl,?_,?_⟩
  · have absent := rep.leases.byKey (request.key d)
    cases held : (ledger (request.key d) j).holder with
    | none => rfl
    | some holder => rw [held] at absent; simp [absent] at free
  intro thread
  refine ⟨rep.records,rep.scans.frame (Nat.le_succ _) (cons_scan · _ j) (cons_attempts · _ j) rfl rfl rfl,
    rep.runs.frame (Nat.le_succ _) (cons_scan · _ j) (cons_stored · _ j) rfl rfl rfl,
    rep.intents.frame (Nat.le_succ _) (cons_stored · _ j) (cons_intents · _ j) rfl rfl,?_,?_,?_⟩
  · intro key
    by_cases here : request.key d = key
    · subst here; simp only [cons_holder,if_true,Option.map_some,update_self]
    · simpa only [cons_holder,here,if_false,update_of_ne (Ne.symm here)] using rep.leases.byKey key
  · intro key thread' lease held
    by_cases here : request.key d = key
    · subst here
      simp only [cons_holder,if_true,Option.map_some,Option.some.injEq,Prod.mk.injEq] at held
      obtain ⟨-,rfl⟩ := held
      simp
    · simp only [cons_holder,here,if_false] at held
      obtain ⟨own,known,portfolio⟩ := rep.leases.byId key thread' lease held
      have other := Nat.ne_of_lt (rep.leases.fresh _ _ known)
      exact ⟨own,by simpa only [update_of_ne other] using known,by simpa only [update_of_ne other] using portfolio⟩
  · intro id key known
    by_cases here : id = w.nextUuid
    · exact here ▸ Nat.lt_succ_self _
    · exact Nat.lt_succ_of_lt (rep.leases.fresh id key (by simpa only [update_of_ne here] using known))

theorem release_parts {key : Digest} {thread : Nat} {lease : LockLease} (rep : Represents seed w j)
    (held : (ledger key j).holder = some (thread,lease)) (freed : w.release d access lease = .ok w') :
    Represents seed w' (⟨some thread,key,.released⟩ :: j) := by
  obtain ⟨own,known,portfolio⟩ := rep.leases.byId key thread lease held
  obtain ⟨portfolioId,registered⟩ := Option.isSome_iff_exists.mp portfolio
  simp only [Stores.release,registered,known,bind_ok,pure_ok] at freed
  obtain ⟨_,_,_,_,rfl⟩ := freed
  refine ⟨rep.records,rep.scans.frame (Nat.le_refl _) (cons_scan · _ j) (cons_attempts · _ j) rfl rfl rfl,
    rep.runs.frame (Nat.le_refl _) (cons_scan · _ j) (cons_stored · _ j) rfl rfl rfl,
    rep.intents.frame (Nat.le_refl _) (cons_stored · _ j) (cons_intents · _ j) rfl rfl,?_,?_,?_⟩
  · intro key'
    by_cases here : key = key'
    · subst here; simp only [cons_holder,if_true,Option.map_none,update_self]
    · simpa only [cons_holder,here,if_false,update_of_ne (Ne.symm here)] using rep.leases.byKey key'
  · intro key' thread' lease' held'
    by_cases here : key = key'
    · simp only [cons_holder,here,if_true] at held'
      cases held'
    · simp only [cons_holder,here,if_false] at held'
      obtain ⟨own',known',portfolio'⟩ := rep.leases.byId key' thread' lease' held'
      -- Two leases of different keys have different ids.
      have other : lease'.leaseId ≠ lease.leaseId := by
        intro same
        rw [same,known,Option.some.injEq] at known'
        exact here known'
      exact ⟨own',by simpa only [update_of_ne other] using known',by simpa only [update_of_ne other] using portfolio'⟩
  · intro id key' known'
    by_cases here : id = lease.leaseId
    · subst here; simp only [update_self] at known'; cases known'
    · exact rep.leases.fresh id key' (by simpa only [update_of_ne here] using known')

end Locks
section Scans
variable {seed : UUID → Option RecommendationStateRecord} {w w' : Stores} {j : Log} {d : Deployment}
  {access : AccessContext} {request : ScanLockRequest} {c : Coordinator}

-- Scans of different keys have different ids.
theorem scan_ids (rep : Represents seed w j) (lawful : Lawful (Legal c seed) j) {one two : Digest}
    {scan scan' : LogicalScanRun} (first : (ledger one j).scan = some scan) (second : (ledger two j).scan = some scan')
    (same : scan.logicalScanRunId = scan'.logicalScanRunId) : one = two := by
  have found := rep.scans.byId one scan first
  rw [same,rep.scans.byId two scan' second,Option.some.injEq] at found
  subst found
  rw [← scan_key lawful first,scan_key lawful second]

theorem lookup_parts {found : Option LogicalScanRun} (rep : Represents seed w j)
    (read : w.getByLockKey d access request = .ok found) : found = (ledger (request.key d) j).scan ∧
      ∀ scan, found = some scan → scan.rotationPlanId = request.plan.rotationPlanId := by
  have stored := rep.scans.byKey (request.key d)
  simp only [Stores.getByLockKey,bind_ok] at read
  obtain ⟨_,_,read⟩ := read
  split at read
  · rename_i absent
    cases read
    exact ⟨by rw [← stored,absent],by intro _ h; cases h⟩
  · rename_i scan known
    simp only [bind_ok,pure_ok,raiseIf_ok,Bool.not_eq_false'] at read
    obtain ⟨_,matching,rfl⟩ := read
    refine ⟨by rw [← stored,known],?_⟩
    rintro _ ⟨⟩
    simp only [Stores.matchesRequest,Bool.and_eq_true,beq_iff_eq] at matching
    exact matching.1.1.1

theorem create_scan_parts {scan : LogicalScanRun} {now : Instant} (rep : Represents seed w j)
    (lawful : Lawful (Legal c seed) j) (absent : (ledger (request.key d) j).scan = none)
    (created : w.createOrRecover d access request now = .ok (scan,w')) :
    (w.scansByKey (request.key d)).isNone = true ∧ scan.status = .running ∧ scan.scanLockKey = request.key d ∧
      scan.rotationPlanId = request.plan.rotationPlanId ∧
      ∀ thread, Represents seed w' (⟨some thread,request.key d,.scanCreated scan⟩ :: j) := by
  have stored := rep.scans.byKey (request.key d)
  rw [absent] at stored
  simp only [Stores.createOrRecover,bind_ok,stored,pure_ok,Prod.mk.injEq] at created
  obtain ⟨_,_,rfl,rfl⟩ := created
  refine ⟨by rw [stored]; rfl,rfl,rfl,rfl,?_⟩
  intro thread
  have unused : ∀ key other, (ledger key j).scan = some other → other.logicalScanRunId ≠ w.nextUuid :=
    fun key other known => Nat.ne_of_lt (rep.scans.fresh _ _ (rep.scans.byId key other known))
  refine ⟨rep.records,⟨?_,?_,?_,?_⟩,⟨?_,?_,?_,?_,?_,?_⟩,
    rep.intents.frame (Nat.le_succ _) (cons_stored · _ j) (cons_intents · _ j) rfl rfl,
    rep.leases.frame (Nat.le_succ _) (cons_holder · _ j) rfl rfl rfl⟩
  · intro key
    by_cases here : request.key d = key
    · subst here; simp only [cons_scan,if_true,Stores.newScan,update_self]
    · simpa only [cons_scan,here,if_false,Stores.newScan,update_of_ne (Ne.symm here)] using rep.scans.byKey key
  · intro key other known
    by_cases here : request.key d = key
    · subst here
      simp only [cons_scan,if_true,Option.some.injEq] at known
      subst known
      exact update_self ..
    · simp only [cons_scan,here,if_false] at known
      simpa only [Stores.newScan,update_of_ne (unused key other known)] using rep.scans.byId key other known
  · intro key other known
    by_cases here : request.key d = key
    · subst here
      simp only [cons_scan,if_true,Option.some.injEq] at known
      subst known
      simp only [cons_attempts,update_self,(unscanned lawful absent).1]
    · simp only [cons_scan,here,if_false] at known
      simpa only [Stores.newScan,cons_attempts,update_of_ne (unused key other known)]
        using rep.scans.attempts key other known
  · intro id other known
    by_cases here : id = w.nextUuid
    · exact here ▸ Nat.lt_succ_self _
    · exact Nat.lt_succ_of_lt (rep.scans.fresh id other
        (by simpa only [Stores.newScan,update_of_ne here] using known))
  · intro key other known
    by_cases here : request.key d = key
    · subst here
      simp only [cons_scan,if_true,Option.some.injEq] at known
      subst known
      simp only [cons_stored,(unscanned lawful absent).2,Option.map_none]
      cases found : w.runsByLogicalScan w.nextUuid with
      | none => exact found
      | some run => exact absurd (rep.runs.freshScan _ _ found) (Nat.lt_irrefl _)
    · simp only [cons_scan,here,if_false] at known
      simpa only [cons_stored] using rep.runs.byScan key other known
  · simpa only [cons_stored] using rep.runs.byId
  · simpa only [cons_stored] using rep.runs.owners
  · exact fun key run known => Nat.lt_succ_of_lt (rep.runs.fresh key run known)
  · exact fun id run known => Nat.lt_succ_of_lt (rep.runs.freshScan id run known)
  · exact fun key s known => Nat.lt_succ_of_lt (rep.runs.freshStored key s (by simpa only [cons_stored] using known))

-- The scan a call holds is the one its id leads to.
theorem get_scan_parts {key : Digest} {scan found : LogicalScanRun} (rep : Represents seed w j)
    (held : (ledger key j).scan = some scan) (read : w.getScan d access scan.logicalScanRunId = .ok found) :
    found = scan := by
  simp only [Stores.getScan,rep.scans.byId key scan held,bind_ok,pure_ok] at read
  obtain ⟨_,_,rfl⟩ := read
  rfl

theorem list_attempts_parts {key : Digest} {scan : LogicalScanRun} {found : List ScanAttempt}
    (rep : Represents seed w j) (held : (ledger key j).scan = some scan)
    (read : w.listAttempts d access scan.logicalScanRunId = .ok found) : found.Perm (ledger key j).attempts := by
  simp only [Stores.listAttempts,bind_ok,pure_ok] at read
  obtain ⟨_,_,rfl⟩ := read
  rw [rep.scans.attempts key scan held]
  exact List.perm_insertionSort _ _

theorem record_attempt_parts {key : Digest} {scan : LogicalScanRun} {a : ScanAttempt} (rep : Represents seed w j)
    (lawful : Lawful (Legal c seed) j) (held : (ledger key j).scan = some scan)
    (own : a.logicalScanRunId = scan.logicalScanRunId) (recorded : w.recordAttempt d access a = .ok w') :
    (∀ id, a.finalStrategyRunId = some id → ∃ s, (ledger key j).stored = some s ∧ s.run.strategyRunId = id) ∧
      ∀ thread, Represents seed w' (⟨some thread,key,.attemptRecorded a⟩ :: j) := by
  simp only [Stores.recordAttempt,bind_ok,pure_ok,own] at recorded
  obtain ⟨found,read,_,_,_,_,_,referenced,_,_,_,_,rfl⟩ := recorded
  cases get_scan_parts rep held read
  refine ⟨?_,?_⟩
  · intro id final
    simp only [Stores.validateAttemptReferences,Stores.validateFinalReference,bind_ok,final,raiseIf_ok,
      decide_eq_false_iff_not,not_not] at referenced
    obtain ⟨_,_,_,_,_,actual,_⟩ := referenced
    rw [rep.runs.byScan key scan held,Option.map_map] at actual
    obtain ⟨s,stored,same⟩ := Option.map_eq_some_iff.mp actual
    exact ⟨s,stored,same⟩
  · intro thread
    refine ⟨rep.records,⟨?_,?_,?_,rep.scans.fresh⟩,
      rep.runs.frame (Nat.le_refl _) (cons_scan · _ j) (cons_stored · _ j) rfl rfl rfl,
      rep.intents.frame (Nat.le_refl _) (cons_stored · _ j) (cons_intents · _ j) rfl rfl,
      rep.leases.frame (Nat.le_refl _) (cons_holder · _ j) rfl rfl rfl⟩
    · simpa only [cons_scan] using rep.scans.byKey
    · simpa only [cons_scan] using rep.scans.byId
    · intro key' other known
      simp only [cons_scan] at known
      by_cases here : key = key'
      · subst here
        rw [held,Option.some.injEq] at known
        subst known
        simp only [cons_attempts,if_true,update_self,rep.scans.attempts key scan held]
      · have other' : other.logicalScanRunId ≠ scan.logicalScanRunId :=
          fun same => here (scan_ids rep lawful held known same.symm)
        simpa only [cons_attempts,here,if_false,update_of_ne other'] using rep.scans.attempts key' other known

theorem attach_parts {key : Digest} {scan completed : LogicalScanRun} {plan : RotationPlan} {runId : UUID}
    {now : Instant} (rep : Represents seed w j) (lawful : Lawful (Legal c seed) j)
    (held : (ledger key j).scan = some scan)
    (attached : w.attachFinalStrategyRun d access scan.logicalScanRunId plan runId now = .ok (completed,w')) :
    LegalCompletion (ledger key j) completed ∧
      ∀ thread, Represents seed w' (⟨some thread,key,.completed completed⟩ :: j) := by
  simp only [Stores.attachFinalStrategyRun,bind_ok,pure_ok,raiseIf_ok,Prod.mk.injEq] at attached
  obtain ⟨found,read,_,_,_,_,_,unfinished,_,actual,_,proven,completed',finished,rfl,rfl⟩ := attached
  cases get_scan_parts rep held read
  simp only [decide_eq_false_iff_not,not_not] at unfinished actual
  rw [rep.runs.byScan key scan held,Option.map_map] at actual
  obtain ⟨s,stored,same⟩ := Option.map_eq_some_iff.mp actual
  simp only [rep.scans.attempts key scan held,Bool.not_eq_false',List.any_eq_true,Bool.and_eq_true,
    beq_iff_eq] at proven
  obtain ⟨a,present,succeeded,_⟩ := proven
  have running : scan.status = .running := by
    cases status : scan.status with
    | running => rfl
    | completed => exact absurd status unfinished
  have fields : completed'.logicalScanRunId = scan.logicalScanRunId ∧ completed'.scanLockKey = scan.scanLockKey ∧
      completed'.rotationPlanId = scan.rotationPlanId ∧ completed'.status = .completed ∧ completed'.finalStrategyRunId = some runId := by
    unfold Stores.completeScan at finished
    split at finished
    · cases finished; exact ⟨rfl,rfl,rfl,rfl,rfl⟩
    · cases finished
  obtain ⟨sameId,sameKey,samePlan,done,final⟩ := fields
  have own : scan.scanLockKey = key := scan_key lawful held
  refine ⟨⟨scan,s,held,running,stored,sameId,sameKey,samePlan,done,final.trans (by rw [← same]; rfl),a,present,succeeded⟩,?_⟩
  intro thread
  have others : ∀ key' other, ¬ key = key' → (ledger key' j).scan = some other →
      other.logicalScanRunId ≠ scan.logicalScanRunId :=
    fun key' other here known equal => here (scan_ids rep lawful held known equal.symm)
  refine ⟨rep.records,⟨?_,?_,?_,?_⟩,⟨?_,?_,?_,rep.runs.fresh,rep.runs.freshScan,?_⟩,
    rep.intents.frame (Nat.le_refl _) (cons_stored · _ j) (cons_intents · _ j) rfl rfl,
    rep.leases.frame (Nat.le_refl _) (cons_holder · _ j) rfl rfl rfl⟩
  · intro key'
    by_cases here : key = key'
    · subst here; simp only [cons_scan,if_true,sameKey,own,update_self]
    · simpa only [cons_scan,here,if_false,sameKey,own,update_of_ne (Ne.symm here)] using rep.scans.byKey key'
  · intro key' other known
    by_cases here : key = key'
    · subst here
      simp only [cons_scan,if_true,Option.some.injEq] at known
      subst known
      simp only [sameId,update_self]
    · simp only [cons_scan,here,if_false] at known
      simpa only [update_of_ne (others key' other here known)] using rep.scans.byId key' other known
  · intro key' other known
    by_cases here : key = key'
    · subst here
      simp only [cons_scan,if_true,Option.some.injEq] at known
      subst known
      simpa only [cons_attempts,sameId] using rep.scans.attempts key scan held
    · simp only [cons_scan,here,if_false] at known
      simpa only [cons_attempts] using rep.scans.attempts key' other known
  · intro id other known
    by_cases here : id = scan.logicalScanRunId
    · rw [here]; exact rep.scans.fresh _ _ (rep.scans.byId key scan held)
    · exact rep.scans.fresh id other (by simpa only [update_of_ne here] using known)
  · intro key' other known
    by_cases here : key = key'
    · subst here
      simp only [cons_scan,if_true,Option.some.injEq] at known
      subst known
      simpa only [cons_stored,sameId] using rep.runs.byScan key scan held
    · simp only [cons_scan,here,if_false] at known
      simpa only [cons_stored] using rep.runs.byScan key' other known
  · simpa only [cons_stored] using rep.runs.byId
  · simpa only [cons_stored] using rep.runs.owners
  · simpa only [cons_stored] using rep.runs.freshStored

end Scans

section Runs
variable {seed : UUID → Option RecommendationStateRecord} {w w' : Stores} {j : Log} {d : Deployment}
  {access : AccessContext} {c : Coordinator} {key : Digest} {scan : LogicalScanRun}

theorem run_for_scan_parts {found : Option StrategyRun} (rep : Represents seed w j)
    (held : (ledger key j).scan = some scan)
    (read : w.getForLogicalScan d access scan.logicalScanRunId = .ok found) :
    found = (ledger key j).stored.map StoredRun.run := by
  simp only [Stores.getForLogicalScan,bind_ok,pure_ok] at read
  obtain ⟨_,_,_,_,rfl⟩ := read
  exact rep.runs.byScan key scan held

-- A run under a fresh id is stored as it is: no earlier run can pass for it.
theorem record_run_parts {plan : RotationPlan} {finalKey : Digest} {s : StoredRun} {found : StrategyRun}
    (rep : Represents seed w j) (lawful : Lawful (Legal c seed) j) (held : (ledger key j).scan = some scan)
    (unstored : (ledger key j).stored = none) (fresh : s.run.strategyRunId = w.nextUuid)
    (recorded : {w with nextUuid := w.nextUuid + 1}.recordOrGetRun d access plan s.run finalKey
      scan.logicalScanRunId = .ok (found,w')) :
    found = s.run ∧ (w.runsByKey (plan.rotationPlanId,finalKey)).isNone = true ∧
      scan.rotationPlanId = plan.rotationPlanId ∧
      ∀ thread, Represents seed w' (⟨some thread,key,.runStored s⟩ :: j) := by
  simp only [Stores.recordOrGetRun,bind_ok] at recorded
  obtain ⟨_,_,_,_,recorded⟩ := recorded
  split at recorded
  · rename_i existing known
    simp only [bind_ok,raiseIf_ok,Bool.or_eq_false_iff,Bool.not_eq_false'] at recorded
    obtain ⟨_,⟨same,_⟩,_⟩ := recorded
    have older := rep.runs.fresh _ _ known
    rw [(StrategyRun.same_ids same).1,fresh] at older
    exact absurd older (Nat.lt_irrefl _)
  · rename_i absent
    simp only [bind_ok,raiseIf_ok,decide_eq_false_iff_not,not_or,not_not,pure_ok,Prod.mk.injEq] at recorded
    obtain ⟨cur,read,_,⟨own,_⟩,_,_,rfl,rfl⟩ := recorded
    have same : cur = scan := get_scan_parts (w := {w with nextUuid := w.nextUuid + 1}) rep.next held read
    refine ⟨rfl,by rw [absent]; rfl,same ▸ own,?_⟩
    intro thread
    have unused : ∀ key s', (ledger key j).stored = some s' → s'.run.strategyRunId ≠ s.run.strategyRunId :=
      fun key s' known => fresh ▸ Nat.ne_of_lt (rep.runs.freshStored key s' known)
    refine ⟨rep.records,rep.scans.frame (Nat.le_succ _) (cons_scan · _ j) (cons_attempts · _ j) rfl rfl rfl,
      ⟨?_,?_,?_,?_,?_,?_⟩,⟨?_,rep.intents.keys,?_,fun id present => Nat.lt_succ_of_lt (rep.intents.fresh id present)⟩,
      rep.leases.frame (Nat.le_succ _) (cons_holder · _ j) rfl rfl rfl⟩
    · intro key' other known
      simp only [cons_scan] at known
      by_cases here : key = key'
      · subst here
        rw [held,Option.some.injEq] at known
        subst known
        simp only [cons_stored,if_true,update_self,Option.map_some]
      · have other' : other.logicalScanRunId ≠ scan.logicalScanRunId :=
          fun same => here (scan_ids rep lawful held known same.symm)
        simpa only [cons_stored,here,if_false,update_of_ne other'] using rep.runs.byScan key' other known
    · intro key' s' known
      by_cases here : key = key'
      · subst here
        simp only [cons_stored,if_true,Option.some.injEq] at known
        subst known
        exact update_self ..
      · simp only [cons_stored,here,if_false] at known
        simpa only [update_of_ne (unused key' s' known)] using rep.runs.byId key' s' known
    · intro id run known
      by_cases here : id = s.run.strategyRunId
      · subst here
        simp only [update_self,Option.some.injEq] at known
        exact ⟨key,s,by simp only [cons_stored,if_true],known⟩
      · obtain ⟨key',s',stored,same⟩ := rep.runs.owners id run (by simpa only [update_of_ne here] using known)
        have other : key ≠ key' := by
          rintro rfl
          rw [unstored] at stored
          cases stored
        exact ⟨key',s',by simpa only [cons_stored,other,if_false] using stored,same⟩
    · intro key' run known
      by_cases here : key' = (plan.rotationPlanId,finalKey)
      · subst here
        simp only [update_self,Option.some.injEq] at known
        rw [← known,fresh]
        exact Nat.lt_succ_self _
      · exact Nat.lt_succ_of_lt (rep.runs.fresh key' run (by simpa only [update_of_ne here] using known))
    · intro id run known
      by_cases here : id = scan.logicalScanRunId
      · rw [here]; exact Nat.lt_succ_of_lt (rep.scans.fresh _ _ (rep.scans.byId key scan held))
      · exact Nat.lt_succ_of_lt (rep.runs.freshScan id run (by simpa only [update_of_ne here] using known))
    · intro key' s' known
      by_cases here : key = key'
      · subst here
        simp only [cons_stored,if_true,Option.some.injEq] at known
        rw [← known,fresh]
        exact Nat.lt_succ_self _
      · simp only [cons_stored,here,if_false] at known
        exact Nat.lt_succ_of_lt (rep.runs.freshStored key' s' known)
    · intro key' s' known
      by_cases here : key = key'
      · subst here
        simp only [cons_stored,if_true,Option.some.injEq] at known
        subst known
        have nothing : w.intentKeysByStrategyRun s.run.strategyRunId = [] := by
          by_contra present
          exact absurd (rep.intents.fresh _ present) (by rw [fresh]; exact Nat.lt_irrefl _)
        have none' : (ledger key j).intents = [] := by
          rcases intents_exact lawful key with nothing | ⟨_,stored,_⟩
          · exact nothing
          · rw [unstored] at stored; cases stored
        simp only [cons_intents,nothing,none',List.filterMap_nil]
      · simp only [cons_stored,here,if_false] at known
        simpa only [cons_intents] using rep.intents.ofRun key' s' known
    · simpa only [cons_intents] using rep.intents.owners

end Runs

section Intents
variable {seed : UUID → Option RecommendationStateRecord} {w w' : Stores} {j : Log} {access : AccessContext}
  {c : Coordinator} {key : Digest} {s : StoredRun}

theorem list_intents_parts {d : Deployment} {found : List ChildIntent} (rep : Represents seed w j)
    (stored : (ledger key j).stored = some s)
    (read : w.listIntents d access s.run.strategyRunId = .ok found) : found = (ledger key j).intents := by
  simp only [Stores.listIntents,bind_ok,pure_ok] at read
  obtain ⟨_,_,rfl⟩ := read
  exact rep.intents.ofRun key s stored

theorem record_intent_parts {found : ChildIntent} (rep : Represents seed w j) (lawful : Lawful (Legal c seed) j)
    (stored : (ledger key j).stored = some s) (notifies : s.notifies = true)
    (recorded : w.recordOrGetIntent c.deployment access (intentOf c.deployment s) = .ok (found,w')) :
    ((w.intentsByKey (intentOf c.deployment s).intentKey).isNone = false ∧ w' = w ∧ (ledger key j).intents ≠ []) ∨
      ((w.intentsByKey (intentOf c.deployment s).intentKey).isNone = true ∧ (ledger key j).intents = [] ∧
        ∀ thread, Represents seed w' (⟨some thread,key,.intentStored (intentOf c.deployment s)⟩ :: j)) := by
  simp only [Stores.recordOrGetIntent,bind_ok] at recorded
  obtain ⟨_,_,recorded⟩ := recorded
  split at recorded
  · cases recorded
  simp only [bind_ok] at recorded
  obtain ⟨_,_,_,_,recorded⟩ := recorded
  split at recorded
  · rename_i existing known
    simp only [bind_ok,raiseIf_ok,pure_ok,Prod.mk.injEq,Bool.not_eq_false'] at recorded
    obtain ⟨_,_,_,same,-,rfl⟩ := recorded
    refine .inl ⟨by rw [known]; rfl,rfl,?_⟩
    -- The intent already under the key names this run, so it is this scan's.
    obtain ⟨_,scanKey,present⟩ := rep.intents.owners _ _ known
    rcases intents_exact lawful scanKey with nothing | ⟨s',stored',_,only⟩
    · rw [nothing] at present; cases present
    · rw [only,List.mem_singleton] at present
      subst present
      simp only [sameLogicalChildIntent,Bool.and_eq_true,beq_iff_eq] at same
      have sameRun : s'.run.strategyRunId = s.run.strategyRunId := same.1.1.1.1.2
      obtain ⟨rfl,rfl⟩ := run_unique lawful stored' stored sameRun
      rw [only]
      exact List.cons_ne_nil _ _
  · rename_i absent
    simp only [pure_ok,Prod.mk.injEq] at recorded
    obtain ⟨-,rfl⟩ := recorded
    have before := rep.intents.ofRun key s stored
    have nothing : (ledger key j).intents = [] := by
      rcases intents_exact lawful key with nothing | ⟨s',stored',_,only⟩
      · exact nothing
      · rw [stored,Option.some.injEq] at stored'
        subst stored'
        have present : intentOf c.deployment s ∈ (ledger key j).intents := by simp [only]
        rw [← before,List.mem_filterMap] at present
        obtain ⟨found,_,known⟩ := present
        rw [(rep.intents.owners _ _ known).1,known] at absent
        cases absent
    refine .inr ⟨by rw [absent]; rfl,nothing,?_⟩
    intro thread
    -- The new key was in no list yet, so every list still leads to the same intents.
    have kept : ∀ id, (w.intentKeysByStrategyRun id).filterMap
        (update w.intentsByKey (intentOf c.deployment s).intentKey (some (intentOf c.deployment s))) =
        (w.intentKeysByStrategyRun id).filterMap w.intentsByKey := by
      intro id
      apply List.filterMap_congr
      intro k present
      have other : k ≠ (intentOf c.deployment s).intentKey := by
        rintro rfl
        have known := rep.intents.keys id _ present
        rw [absent] at known
        cases known
      exact update_of_ne other _ _
    have owned : (intentOf c.deployment s).strategyRunId = s.run.strategyRunId := rfl
    refine ⟨rep.records,rep.scans.frame (Nat.le_refl _) (cons_scan · _ j) (cons_attempts · _ j) rfl rfl rfl,
      rep.runs.frame (Nat.le_refl _) (cons_scan · _ j) (cons_stored · _ j) rfl rfl rfl,⟨?_,?_,?_,?_⟩,
      rep.leases.frame (Nat.le_refl _) (cons_holder · _ j) rfl rfl rfl⟩
    · intro key' s' known
      simp only [cons_stored] at known
      by_cases here : key = key'
      · subst here
        rw [stored,Option.some.injEq] at known
        subst known
        simp only [cons_intents,if_true,owned,update_self,List.filterMap_append,kept,before,List.filterMap_cons,
          List.filterMap_nil]
      · have other : s'.run.strategyRunId ≠ s.run.strategyRunId :=
          fun same => here (run_unique lawful stored known same.symm).1
        simpa only [cons_intents,here,if_false,owned,update_of_ne other,kept] using rep.intents.ofRun key' s' known
    · intro id k present
      by_cases new : k = (intentOf c.deployment s).intentKey
      · subst new; simp
      · simp only [update_of_ne new]
        by_cases here : id = s.run.strategyRunId
        · subst here
          simp only [owned,update_self,List.mem_append,List.mem_singleton] at present
          exact rep.intents.keys _ _ (present.resolve_right new)
        · simp only [owned,update_of_ne here] at present
          exact rep.intents.keys _ _ present
    · intro k intent known
      by_cases new : k = (intentOf c.deployment s).intentKey
      · subst new
        simp only [update_self,Option.some.injEq] at known
        exact ⟨by rw [← known],key,by simp [cons_intents,← known]⟩
      · simp only [update_of_ne new] at known
        obtain ⟨own,scanKey,present⟩ := rep.intents.owners k intent known
        refine ⟨own,scanKey,?_⟩
        simp only [cons_intents]
        split
        · exact List.mem_append_left _ present
        · exact present
    · intro id present
      by_cases here : id = s.run.strategyRunId
      · subst here
        exact rep.runs.freshStored key s stored
      · exact rep.intents.fresh id (by simpa only [owned,update_of_ne here] using present)

end Intents

section Records
variable {seed : UUID → Option RecommendationStateRecord} {w w' : Stores} {j : Log} {d : Deployment}
  {access : AccessContext} {plan : RotationPlan} {now : Instant}

theorem get_or_create_parts {record : RecommendationStateRecord} (rep : Represents seed w j)
    (read : w.getOrCreateState d access plan now = .ok (record,w')) :
    ((w.records plan.rotationPlanId).isNone = false ∧ w' = w ∧
        recordOf seed plan.rotationPlanId j = some record) ∨
      ((w.records plan.rotationPlanId).isNone = true ∧ recordOf seed plan.rotationPlanId j = none ∧
        record = Stores.idleRecord plan now ∧
        ∀ thread key, Represents seed w' (⟨some thread,key,.stateCreated record⟩ :: j)) := by
  simp only [Stores.getOrCreateState,bind_ok] at read
  obtain ⟨_,_,read⟩ := read
  split at read
  · rename_i existing known
    simp only [bind_ok,pure_ok,Prod.mk.injEq] at read
    obtain ⟨_,_,rfl,rfl⟩ := read
    exact .inl ⟨by rw [known]; rfl,rfl,rep.records _ ▸ known⟩
  · rename_i absent
    simp only [pure_ok,Prod.mk.injEq] at read
    obtain ⟨rfl,rfl⟩ := read
    refine .inr ⟨by rw [absent]; rfl,rep.records _ ▸ absent,rfl,?_⟩
    intro thread key
    refine ⟨?_,rep.scans.frame (Nat.le_refl _) (cons_scan · _ j) (cons_attempts · _ j) rfl rfl rfl,
      rep.runs.frame (Nat.le_refl _) (cons_scan · _ j) (cons_stored · _ j) rfl rfl rfl,
      rep.intents.frame (Nat.le_refl _) (cons_stored · _ j) (cons_intents · _ j) rfl rfl,
      rep.leases.frame (Nat.le_refl _) (cons_holder · _ j) rfl rfl rfl⟩
    intro planId
    by_cases here : plan.rotationPlanId = planId
    · subst here; simp [record_cons,Fact.record,Stores.idleRecord]
    · simpa [record_cons,Fact.record,Stores.idleRecord,here,update_of_ne (Ne.symm here)] using rep.records planId

theorem record_transition_parts {previous updated : RecommendationStateRecord}
    {next : RecommendationState × Bool} {fence : Option (UUID × Digest)} (rep : Represents seed w j)
    (recorded : w.recordTransition d access plan previous next now fence = .ok (updated,w')) :
    recordOf seed plan.rotationPlanId j = some previous ∧
      updated.toRecordFields = Stores.transitioned plan previous previous next now fence ∧
      ∀ thread key, Represents seed w' (⟨some thread,key,.transitioned previous updated⟩ :: j) := by
  simp only [Stores.recordTransition,bind_ok] at recorded
  obtain ⟨_,_,recorded⟩ := recorded
  split at recorded
  · cases recorded
  · rename_i stored known
    simp only [bind_ok,raiseIf_ok,pure_ok,Prod.mk.injEq,decide_eq_false_iff_not,not_not] at recorded
    obtain ⟨_,rfl,_,_,value,created,same,rfl⟩ := recorded
    subst same
    have fields := record_fields created
    refine ⟨rep.records _ ▸ known,fields,?_⟩
    intro thread key
    have own : value.rotationPlanId = plan.rotationPlanId := by rw [fields]; rfl
    refine ⟨?_,rep.scans.frame (Nat.le_refl _) (cons_scan · _ j) (cons_attempts · _ j) rfl rfl rfl,
      rep.runs.frame (Nat.le_refl _) (cons_scan · _ j) (cons_stored · _ j) rfl rfl rfl,
      rep.intents.frame (Nat.le_refl _) (cons_stored · _ j) (cons_intents · _ j) rfl rfl,
      rep.leases.frame (Nat.le_refl _) (cons_holder · _ j) rfl rfl rfl⟩
    intro planId
    by_cases here : plan.rotationPlanId = planId
    · subst here; simp [record_cons,Fact.record,own]
    · simpa [record_cons,Fact.record,own,here,update_of_ne (Ne.symm here)] using rep.records planId

end Records
end SwapMonitor
