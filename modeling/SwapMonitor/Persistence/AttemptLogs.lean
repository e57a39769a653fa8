import SwapMonitor.Persistence.RunIndexes

namespace SwapMonitor
open Function (update update_self update_of_ne)

-- The attempts of one scan in the order they were recorded.
structure RecoveryChain (attempts : List ScanAttempt) : Prop where
  numbered : ∀ i (a : ScanAttempt), attempts[i]? = some a → a.attemptNumber = i + 1
  first : ∀ a : ScanAttempt, attempts[0]? = some a → a.recoveryOfAttemptId = none
  recovers : ∀ i (a b : ScanAttempt), attempts[i]? = some a → attempts[i + 1]? = some b →
    (∀ c ∈ attempts.take (i + 1), c.status ≠ .succeeded) → b.recoveryOfAttemptId = some a.scanAttemptId
  settled : ∀ (i j : Nat) (a b : ScanAttempt), i < j → attempts[i]? = some a → attempts[j]? = some b → a.status = .succeeded → b.status = .succeeded

theorem chain_empty : RecoveryChain [] := by
  refine ⟨?_,?_,?_,?_⟩ <;> simp

-- The status an attempt with a final or a duplicate reference was constructed with.
theorem succeeded_reference {a : ScanAttempt}
    (referenced : a.finalStrategyRunId.isSome = true ∨ a.duplicateOfAttemptId.isSome = true) : a.status = .succeeded := by
  have accepted := a.accepted
  simp only [AttemptFields.postInit,bind_ok,raiseIf_ok,exists_const] at accepted
  obtain ⟨_,_,_,_,_,_,_,_,_,_,_,_,_,evidence⟩ := accepted
  cases status : a.status with
  | succeeded => rfl
  | running =>
    simp only [AttemptFields.validateStatusEvidence,status,if_true,bind_ok,raiseIf_ok,exists_const,Bool.or_eq_false_iff]
      at evidence
    rcases referenced with final | duplicate
    · rw [evidence.2.2] at final
      cases final
    · rw [evidence.2.1] at duplicate
      cases duplicate
  | failed | degraded =>
    simp [AttemptFields.validateStatusEvidence,status,bind_ok] at evidence
    rcases referenced with final | duplicate
    · simp [evidence] at final
    · simp [evidence] at duplicate

namespace Stores

-- The greatest number of a growing log is its last.
theorem latest_last {attempts : List ScanAttempt}
    (growing : attempts.Pairwise fun a b => a.attemptNumber < b.attemptNumber) : latestAttempt attempts = attempts.getLast? := by
  induction attempts with
  | nil => rfl
  | cons a rest ih =>
    obtain ⟨least,growing⟩ := List.pairwise_cons.mp growing
    rw [latestAttempt,ih growing]
    cases rest with
    | nil => rfl
    | cons b others =>
      obtain ⟨last,found⟩ : ∃ last, (b :: others).getLast? = some last := ⟨_,List.getLast?_eq_some_getLast (by simp)⟩
      have greater := least last (List.mem_of_getLast? found)
      rw [found,List.getLast?_cons_cons,found]
      simp [greater]

theorem chain_growing {attempts : List ScanAttempt} (chain : RecoveryChain attempts) :
    attempts.Pairwise fun a b => a.attemptNumber < b.attemptNumber := by
  rw [List.pairwise_iff_getElem]
  intro i j hi hj before
  have left := chain.numbered i _ (List.getElem?_eq_getElem hi)
  have right := chain.numbered j _ (List.getElem?_eq_getElem hj)
  omega

-- The three ways the append is accepted.
inductive Appended (attempts : List ScanAttempt) (candidate : ScanAttempt) : Prop where
  | first : attempts = [] → candidate.attemptNumber = 1 → candidate.recoveryOfAttemptId = none → Appended attempts candidate
  | evidence (previous : ScanAttempt) : attempts.getLast? = some previous →
      candidate.attemptNumber = previous.attemptNumber + 1 → candidate.status = .succeeded →
      (∃ a ∈ attempts, a.status = .succeeded) → Appended attempts candidate
  | recovery (previous : ScanAttempt) : attempts.getLast? = some previous →
      candidate.attemptNumber = previous.attemptNumber + 1 → candidate.recoveryOfAttemptId = some previous.scanAttemptId →
      (∀ a ∈ attempts, a.status ≠ .succeeded) → Appended attempts candidate

theorem append_cases {attempts : List ScanAttempt} {candidate : ScanAttempt} (chain : RecoveryChain attempts)
    (passed : validateScanAttemptAppend attempts candidate = .ok ()) : Appended attempts candidate := by
  unfold validateScanAttemptAppend at passed
  rw [latest_last (chain_growing chain)] at passed
  split at passed
  · rename_i empty
    simp only [bind_ok,raiseIf_ok,decide_eq_false_iff_not,not_not,exists_const,Option.isSome_eq_false_iff,
      Option.isNone_iff_eq_none] at passed
    exact .first (List.getLast?_eq_none_iff.mp empty) passed.1 passed.2
  · rename_i previous last
    simp only [bind_ok,raiseIf_ok,decide_eq_false_iff_not,not_not,exists_const,either_ok,List.any_eq_true,beq_iff_eq] at passed
    obtain ⟨number,⟨succeeded,accepted⟩ | ⟨unsettled,recovers,_⟩⟩ := passed
    · refine .evidence previous last number (succeeded_reference ?_) succeeded
      simp only [Bool.not_eq_false',Bool.or_eq_true,Bool.and_eq_true] at accepted
      exact accepted.imp_right fun both => both.1
    · exact .recovery previous last number recovers fun a member status => unsettled ⟨a,member,status⟩

theorem chain_append {attempts : List ScanAttempt} {candidate : ScanAttempt} (chain : RecoveryChain attempts)
    (passed : validateScanAttemptAppend attempts candidate = .ok ()) : RecoveryChain (attempts ++ [candidate]) := by
  -- an index of the longer log is one of the old log or the new last one
  have split : ∀ {i a}, (attempts ++ [candidate])[i]? = some a → attempts[i]? = some a ∨ i = attempts.length ∧ candidate = a := by
    intro i a found
    rcases Nat.lt_or_ge i attempts.length with old | new
    · rw [List.getElem?_append_left old] at found
      exact .inl found
    · rw [List.getElem?_append_right new] at found
      have last := List.getElem?_eq_some_iff.mp found
      obtain ⟨inside,same⟩ := last
      have here : i - attempts.length = 0 := by simpa using inside
      refine .inr ⟨by omega,?_⟩
      simpa [here] using found
  have bounded : ∀ {i a}, attempts[i]? = some a → i < attempts.length := fun found => (List.getElem?_eq_some_iff.mp found).1
  have last : ∀ {a}, attempts.getLast? = some a → attempts[attempts.length - 1]? = some a := by
    intro a found
    rwa [List.getLast?_eq_getElem?] at found
  have appended := append_cases chain passed
  have number : candidate.attemptNumber = attempts.length + 1 := by
    cases appended with
    | first empty number => simp [empty,number]
    | evidence previous found number | recovery previous found number =>
      have previousNumber := chain.numbered _ _ (last found)
      have inside := bounded (last found)
      omega
  refine ⟨?_,?_,?_,?_⟩
  · intro i a found
    rcases split found with old | ⟨rfl,rfl⟩
    · exact chain.numbered i a old
    · exact number
  · intro a found
    rcases split found with old | ⟨empty,rfl⟩
    · exact chain.first a old
    · cases appended with
      | first _ _ unrecovered => exact unrecovered
      | evidence previous found | recovery previous found =>
        have inside := bounded (last found)
        omega
  · intro i a b before after unsettled
    rcases split after with old | ⟨here,rfl⟩
    · rcases split before with earlier | ⟨late,_⟩
      · rw [List.take_append_of_le_length (bounded old).le] at unsettled
        exact chain.recovers i a b earlier old unsettled
      · have inside := bounded old
        omega
    · rw [List.getElem?_append_left (by omega)] at before
      rw [here,List.take_left] at unsettled
      cases appended with
      | first empty => simp [empty] at before
      | evidence previous found number status settled =>
        obtain ⟨c,member,succeeded⟩ := settled
        exact absurd succeeded (unsettled c member)
      | recovery previous found number recovers =>
        have same := last found
        rw [show attempts.length - 1 = i by omega,before] at same
        cases same
        exact recovers
  · intro i j a b ordered before after succeeded
    rcases split after with old | ⟨rfl,rfl⟩
    · rcases split before with earlier | ⟨late,_⟩
      · exact chain.settled i j a b ordered earlier old succeeded
      · have inside := bounded old
        omega
    · rw [List.getElem?_append_left ordered] at before
      cases appended with
      | first empty => simp [empty] at before
      | evidence previous found number status => exact status
      | recovery previous found number recovers unsettled =>
        exact absurd succeeded (unsettled a (List.mem_of_getElem? before))

-- What holds of the scans, their attempts and their final runs together.
structure Logged (w : Stores) : Prop where
  byId : ∀ id scan, w.scansById id = some scan →
    scan.logicalScanRunId = id ∧ w.scansByKey scan.scanLockKey = some scan
  byKey : ∀ key scan, w.scansByKey key = some scan →
    scan.scanLockKey = key ∧ w.scansById scan.logicalScanRunId = some scan
  chains : ∀ id, RecoveryChain (w.attemptsByScan id)
  finals : ∀ id, ∀ attempt ∈ w.attemptsByScan id, ∀ runId, attempt.finalStrategyRunId = some runId →
    ∃ run, w.runsByLogicalScan id = some run ∧ run.strategyRunId = runId
  completed : ∀ id scan, w.scansById id = some scan → scan.status = .completed → ∃ runId, scan.finalStrategyRunId = some runId ∧
    ∃ attempt ∈ w.attemptsByScan id, attempt.status = .succeeded ∧ attempt.finalStrategyRunId = some runId

theorem referenced_run {w : Stores} {scan : LogicalScanRun} {attempt : ScanAttempt}
    (passed : w.validateFinalReference scan attempt = .ok ()) {runId : UUID} (named : attempt.finalStrategyRunId = some runId) :
    ∃ run, w.runsByLogicalScan scan.logicalScanRunId = some run ∧ run.strategyRunId = runId := by
  simp only [validateFinalReference,named,bind_ok,raiseIf_ok,decide_eq_false_iff_not,not_not,exists_const,
    Option.map_eq_some_iff] at passed
  exact passed.1

end Stores

namespace Repositories
open Stores
variable {d : Deployment} {access : AccessContext} {r r' : Repositories} {operation : Operation}
  {permitted : Repositories → AccessContext → Operation → Prop}

theorem change_logged (logged : Logged r.stores) (fresh : r.stores.scansById r.stores.nextUuid = none)
    (change : Change d access r operation r') : Logged r'.stores := by
  cases change with
  | scanCreated request createdAt _ free =>
    have apart : ∀ {id scan}, r.stores.scansById id = some scan → id ≠ r.stores.nextUuid := by
      intro id scan stored same
      rw [same,fresh] at stored
      cases stored
    refine ⟨?_,?_,?_,?_,?_⟩
    · intro id scan stored
      by_cases new : id = r.stores.nextUuid
      · subst new
        simp only [update_self,Option.some.injEq] at stored
        subst stored
        exact ⟨rfl,update_self ..⟩
      · simp only [update_of_ne new] at stored
        obtain ⟨named,indexed⟩ := logged.byId id scan stored
        refine ⟨named,(update_of_ne ?_ _ _).trans indexed⟩
        intro same
        rw [same,free] at indexed
        cases indexed
    · intro key scan stored
      by_cases new : key = request.key d
      · subst new
        simp only [update_self,Option.some.injEq] at stored
        subst stored
        exact ⟨rfl,update_self ..⟩
      · simp only [update_of_ne new] at stored
        obtain ⟨named,indexed⟩ := logged.byKey key scan stored
        exact ⟨named,by simp only [update_of_ne (apart indexed),indexed]⟩
    · intro id
      by_cases new : id = r.stores.nextUuid
      · simp only [new,update_self]
        exact chain_empty
      · simp only [update_of_ne new]
        exact logged.chains id
    · intro id attempt member
      by_cases new : id = r.stores.nextUuid
      · simp [new] at member
      · simp only [update_of_ne new] at member
        exact logged.finals id attempt member
    · intro id scan stored completed
      by_cases new : id = r.stores.nextUuid
      · subst new
        simp only [update_self,Option.some.injEq] at stored
        subst stored
        cases completed
      · simp only [update_of_ne new] at stored ⊢
        exact logged.completed id scan stored completed
  | attempted scan attempt attempted =>
    refine ⟨logged.byId,logged.byKey,?_,?_,?_⟩
    · intro id
      by_cases here : id = scan.logicalScanRunId
      · simp only [here,update_self]
        exact chain_append (logged.chains _) attempted.appended
      · simp only [update_of_ne here]
        exact logged.chains id
    · intro id other member runId named
      by_cases here : id = scan.logicalScanRunId
      · simp only [here,update_self,List.mem_append,List.mem_singleton] at member ⊢
        rcases member with old | rfl
        · exact logged.finals _ other old runId named
        · exact referenced_run attempted.referenced named
      · simp only [update_of_ne here] at member
        exact logged.finals id other member runId named
    · intro id stored known completed
      obtain ⟨runId,named,success,member,both⟩ := logged.completed id stored known completed
      refine ⟨runId,named,success,?_,both⟩
      by_cases here : id = scan.logicalScanRunId
      · subst here
        simp [member]
      · simpa only [update_of_ne here] using member
  | completed scanId runId plan completedAt scan completed attached =>
    obtain ⟨named,indexed⟩ := logged.byId _ _ attached.found
    refine ⟨?_,?_,logged.chains,logged.finals,?_⟩
    · intro id stored known
      by_cases here : id = scanId
      · subst here
        simp only [update_self,Option.some.injEq] at known
        subst known
        exact ⟨attached.same.1.trans named,update_self ..⟩
      · simp only [update_of_ne here] at known
        obtain ⟨same,kept⟩ := logged.byId id stored known
        refine ⟨same,(update_of_ne ?_ _ _).trans kept⟩
        intro shared
        rw [shared,attached.same.2.1,indexed] at kept
        cases kept
        exact here (same.symm.trans named)
    · intro key stored known
      by_cases here : key = completed.scanLockKey
      · subst here
        simp only [update_self,Option.some.injEq] at known
        subst known
        exact ⟨rfl,by simp only [attached.same.1,named,update_self]⟩
      · simp only [update_of_ne here] at known
        obtain ⟨same,kept⟩ := logged.byKey key stored known
        refine ⟨same,(update_of_ne ?_ _ _).trans kept⟩
        intro shared
        rw [shared,attached.found] at kept
        cases kept
        exact here (same.symm.trans attached.same.2.1.symm)
    · intro id stored known status
      by_cases here : id = scanId
      · subst here
        simp only [update_self,Option.some.injEq] at known
        subst known
        obtain ⟨attempt,member,both⟩ := attached.succeeded
        exact ⟨runId,attached.completed.2,attempt,member,both⟩
      · simp only [update_of_ne here] at known
        exact logged.completed id stored known status
  | runStored plan run key scanId recorded =>
    refine ⟨logged.byId,logged.byKey,logged.chains,?_,logged.completed⟩
    intro id attempt member runId named
    obtain ⟨old,final,same⟩ := logged.finals id attempt member runId named
    refine ⟨old,?_,same⟩
    cases scanId with
    | none => exact final
    | some fresh =>
      have apart : id ≠ fresh := by
        intro shared
        rw [shared,(open_scan recorded.unlinked).1] at final
        cases final
      simpa [storing,update_of_ne apart] using final
  | _ => exact ⟨logged.byId,logged.byKey,logged.chains,logged.finals,logged.completed⟩

-- A completed scan is neither reopened nor completed again.
theorem change_completed (fresh : r.stores.scansById r.stores.nextUuid = none) (change : Change d access r operation r')
    {id : UUID} {scan : LogicalScanRun} (stored : r.stores.scansById id = some scan) (completed : scan.status = .completed) :
    r'.stores.scansById id = some scan := by
  cases change with
  | scanCreated =>
    have apart : id ≠ r.stores.nextUuid := by
      intro same
      rw [same,fresh] at stored
      cases stored
    simpa only [update_of_ne apart] using stored
  | completed scanId runId plan completedAt running finished attached =>
    have apart : id ≠ scanId := by
      intro same
      rw [same,attached.found] at stored
      cases stored
      rw [attached.running] at completed
      cases completed
    simpa only [update_of_ne apart] using stored
  | _ => exact stored

theorem leads_logged (logged : Logged r.stores) (path : Leads d permitted r r') : Logged r'.stores := by
  induction path with
  | here => exact logged
  | @call between access operation fresh _ _ unused ih =>
    have before : Logged (between.drawing fresh).stores := ⟨ih.byId,ih.byKey,ih.chains,ih.finals,ih.completed⟩
    exact change_logged before unused (after_changes operation)

theorem leads_completed (path : Leads d permitted r r') {id : UUID} {scan : LogicalScanRun}
    (stored : r.stores.scansById id = some scan) (completed : scan.status = .completed) :
    r'.stores.scansById id = some scan := by
  induction path with
  | here => exact stored
  | @call between access operation fresh _ _ unused ih =>
    exact @change_completed d access (between.drawing fresh) _ operation unused (after_changes operation) id scan ih completed

theorem constructed_logged (groups positions : UUID → Option UUID) : Logged (constructed groups positions).stores := by
  refine ⟨?_,?_,fun _ => chain_empty,?_,?_⟩
  · intro _ _ stored
    cases stored
  · intro _ _ stored
    cases stored
  · intro _ _ member
    cases member
  · intro _ _ stored
    cases stored

end Repositories

end SwapMonitor
