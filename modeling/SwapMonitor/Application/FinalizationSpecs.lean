import SwapMonitor.Application.OperationSpecs

namespace SwapMonitor
open Interleaving

def RunDisposition.verdict : RunDisposition → Option FinalizationDisposition
  | .completed => some .applied
  | .superseded => some .superseded
  | _ => none

-- A result that reports a verdict reports one that is on the record, with the run it is about.
structure Reported (key : Digest) (r : RunCoordinatorResult) (L : ScanLedger) : Prop where
  key : r.scanLockKey = key
  verdict : ∀ disposition, r.disposition.verdict = some disposition → ∃ x a, L.stored = some x ∧
    r.strategyRun = some x.run ∧ a ∈ L.attempts ∧ a.finalizationDisposition = some disposition

-- What the facts so far entitle a final attempt to say.
def Decided (x : StoredRun) (L : ScanLedger) : FinalizationDisposition → Prop
  | .applied => (L.phase = .written ∨ ∃ current, L.phase = .adjudicated current ∧ Fenced x current) ∧
      (x.notifies = true → L.intents ≠ [])
  | .superseded => ∃ current, L.phase = .adjudicated current ∧ Lost x current

-- A stored run whose scan is to be finished.
structure Unfinished (scan : LogicalScanRun) (x : StoredRun) (L : ScanLedger) : Prop where
  stored : L.stored = some x
  scanned : Scanned scan L
  attempted : L.attempts ≠ []

theorem Grown.unfinished {scan : LogicalScanRun} {x : StoredRun} {L L' : ScanLedger} (grown : Grown L L')
    (unfinished : Unfinished scan x L) : Unfinished scan x L' := by
  refine ⟨grown.stored x unfinished.stored,grown.scanned unfinished.scanned,?_⟩
  obtain ⟨a,present⟩ := List.exists_mem_of_ne_nil _ unfinished.attempted
  exact List.ne_nil_of_mem (grown.attempts a present)

section Specs
variable {s : Session} {lease : LockLease} {seed : UUID → Option RecommendationStateRecord} {L : ScanLedger}
  {scan : LogicalScanRun} {plan : RotationPlan} {x : StoredRun}

-- A result with the given disposition and run, and books as they were.
def Says (s : Session) (L : ScanLedger) (disposition : RunDisposition) (run : Option StrategyRun)
    (r : RunCoordinatorResult) (L' : ScanLedger) : Prop :=
  L' = L ∧ r.disposition = disposition ∧ r.strategyRun = run ∧ r.scanLockKey = s.scanLockKey

theorem Says.silent {disposition : RunDisposition} {run : Option StrategyRun} {r : RunCoordinatorResult}
    {L' : ScanLedger} (told : Says s L disposition run r L') (silent : disposition.verdict = none) :
    Reported s.scanLockKey r L' := by
  obtain ⟨_,same,_,key⟩ := told
  refine ⟨key,?_⟩
  intro verdict reported
  rw [same,silent] at reported
  cases reported

theorem audit_spec {identity : Option FinalStrategyIdentity} {terminal : Option ScanAttempt} {actionable : Bool}
    (scanned : Scanned scan L) : Spec s lease seed L (s.audit scan identity terminal actionable)
    (Ends Ordinary fun _ L' => L' = L) := by
  refine Spec.bind (listAttempts_spec scanned) (fun _ _ failed => failed) ?_
  rintro attempts L' ⟨rfl,_⟩
  exact Spec.pure rfl

theorem completedAudit_spec {identity : FinalStrategyIdentity} {terminal : ScanAttempt} {key : Option Digest}
    (scanned : Scanned scan L) : Spec s lease seed L (s.completedAudit scan identity terminal key)
    (Ends Ordinary fun _ L' => L' = L) := by
  refine Spec.bind (audit_spec scanned) (fun _ _ failed => failed) ?_
  rintro audit L' rfl
  exact Spec.pure rfl

theorem supersededResult_spec {run : StrategyRun} {identity : FinalStrategyIdentity} {terminal : ScanAttempt}
    (scanned : Scanned scan L) : Spec s lease seed L (s.supersededResult scan run identity terminal)
    (Ends Ordinary (Says s L .superseded (some run))) := by
  refine Spec.bind (audit_spec scanned) (fun _ _ failed => failed) ?_
  rintro audit L' rfl
  exact Spec.pure ⟨rfl,rfl,rfl,rfl⟩

theorem pendingFinalizationResult_spec {run : StrategyRun} {identity : Option FinalStrategyIdentity}
    {detail : Option String} (scanned : Scanned scan L) :
    Spec s lease seed L (s.pendingFinalizationResult scan run identity detail)
      (Ends Ordinary (Says s L .failed none)) := by
  refine Spec.bind (audit_spec scanned) (fun _ _ failed => failed) ?_
  rintro audit L' rfl
  exact Spec.pure ⟨rfl,rfl,rfl,rfl⟩

theorem retryExhaustedResult_spec (scanned : Scanned scan L) :
    Spec s lease seed L (s.retryExhaustedResult scan) (Ends Ordinary (Says s L .retryExhausted none)) := by
  refine Spec.bind (audit_spec scanned) (fun _ _ failed => failed) ?_
  rintro audit L' rfl
  exact Spec.pure ⟨rfl,rfl,rfl,rfl⟩

theorem last_attempt_parts {attempts : List ScanAttempt} {accepts : ScanAttempt → Bool} {a : ScanAttempt}
    (found : Session.lastAttempt attempts accepts = some a) : a ∈ attempts ∧ accepts a = true := by
  have located := List.mem_of_find?_eq_some found
  exact ⟨List.mem_reverse.mp located,List.find?_some found⟩

theorem last_attempt_found {attempts : List ScanAttempt} (accepts : ScanAttempt → Bool) {a : ScanAttempt}
    (present : a ∈ attempts) (accepted : accepts a = true) :
    ∃ last, Session.lastAttempt attempts accepts = some last := by
  cases found : Session.lastAttempt attempts accepts with
  | some last => exact ⟨last,rfl⟩
  | none => exact absurd accepted (List.find?_eq_none.mp found a (List.mem_reverse.mpr present))

theorem final_parts {run : StrategyRun} {a : ScanAttempt} : Session.isFinal run a = true ↔
    a.status = .succeeded ∧ a.finalStrategyRunId = some run.strategyRunId := by
  simp [Session.isFinal]

-- Every succeeded attempt on the books is a final one of the stored run.
def Verdicts (L : ScanLedger) : Prop := ∀ a ∈ L.attempts, a.status = .succeeded →
  a.finalizationDisposition.isSome ∧ ∃ x, L.stored = some x ∧ Session.isFinal x.run a = true

theorem verdicts_known (j : Log) (lawful : Lawful (Legal s.self seed) j) : Verdicts (ledger s.scanLockKey j) := by
  intro a present succeeded
  obtain ⟨verdict,x,stored,named⟩ := verdict_stored lawful present succeeded
  exact ⟨verdict,x,stored,final_parts.mpr ⟨succeeded,named⟩⟩

-- An attempt of the same verdict is taken for it; else the new one is the first to say so.
theorem recordRecoveredFinalAttempt_spec {disposition : FinalizationDisposition} (unfinished : Unfinished scan x L)
    (decided : Decided x L disposition) :
    Spec s lease seed L (s.recordRecoveredFinalAttempt scan x.run x.identity disposition)
      (Ends (fun _ => True) fun a L' => L' = {L with attempts := L'.attempts} ∧ a ∈ L'.attempts ∧
        a.finalizationDisposition = some disposition) := by
  refine Spec.known verdicts_known fun verdicts => ?_
  refine Spec.bind (listAttempts_spec unfinished.scanned) (fun _ _ failed => ⟨trivial,failed.2⟩) ?_
  rintro attempts L' ⟨rfl,same⟩
  cases found : (Session.lastAttempt attempts (Session.isFinal x.run)).filter fun existing =>
      existing.finalizationDisposition == some disposition ||
        (disposition == .applied && existing.finalizationDisposition.isNone) with
  | some existing =>
    obtain ⟨located,agrees⟩ := Option.filter_eq_some_iff.mp found
    obtain ⟨present,final⟩ := last_attempt_parts located
    have recorded := same.mem_iff.mp present
    have verdict := (verdicts existing recorded (final_parts.mp final).1).1
    refine Spec.pure ⟨rfl,recorded,?_⟩
    cases known : existing.finalizationDisposition with
    | none => rw [known] at verdict; cases verdict
    | some other => simpa [known] using agrees
  | none =>
    cases latest : attempts.getLast? with
    | none =>
      rw [List.getLast?_eq_none_iff] at latest
      subst latest
      exact absurd same.symm.eq_nil unfinished.attempted
    | some previous =>
      simp only [x.market_read]
      refine Spec.mono (recordAttempt_spec unfinished.scanned (fun _ _ => rfl) ?_) ?_
      · intro input w a fields final
        refine ⟨?_,?_,final,?_,?_,?_,?_,?_⟩
        · obtain ⟨cur,known,_⟩ := unfinished.scanned
          rw [known]; rfl
        · intro running; rw [fields] at running; cases running
        · intro _; rw [fields]; exact ⟨rfl,rfl⟩
        · intro _; rw [fields]
        · intro verdict
          rw [fields] at verdict
          cases Option.some.inj verdict
          obtain ⟨current,phase,lost⟩ := decided
          exact ⟨x,current,unfinished.stored,phase,lost⟩
        · intro verdict
          rw [fields] at verdict
          cases Option.some.inj verdict
          exact ⟨x,unfinished.stored,decided.1,decided.2⟩
        · rintro other verdict ⟨b,present,succeeded⟩
          rw [fields] at verdict
          cases Option.some.inj verdict
          obtain ⟨_,x',stored,final'⟩ := verdicts b present succeeded
          rw [unfinished.stored,Option.some.injEq] at stored
          subst stored
          obtain ⟨last,located⟩ := last_attempt_found _ (same.mem_iff.mpr present) final'
          obtain ⟨recorded,isFinal⟩ := last_attempt_parts located
          refine ⟨last,same.mem_iff.mp recorded,(final_parts.mp isFinal).1,?_⟩
          intro agrees
          rw [located] at found
          simp [Option.filter,agrees] at found
      · rintro (_ | a) L'' holds
        · exact holds
        · obtain ⟨rfl,input,w,fields⟩ := holds
          exact ⟨rfl,List.mem_append_right _ (List.mem_singleton.mpr rfl),by rw [fields]⟩

-- _record_notification_intent never refuses a stored run: only the decision edge notifies.
theorem recordNotificationIntent_spec (stored : L.stored = some x)
    (owed : L.phase = .written ∨ ∃ current, L.phase = .adjudicated current ∧ Fenced x current) :
    Spec s lease seed L (s.recordNotificationIntent x.candidate.plan x.run x.identity x.notifies)
      (Ends Ordinary fun _ L' => L' = {L with intents := L'.intents} ∧ (x.notifies = true → L'.intents ≠ [])) := by
  unfold Session.recordNotificationIntent
  cases notifies : x.notifies with
  | false => exact Spec.pure ⟨rfl,by intro h; cases h⟩
  | true =>
    obtain ⟨pending,notified⟩ := x.notifies_exact.mp notifies
    simp only [if_true,x.effects_read]
    have decided : ¬ (x.effects.previousState ≠ .actionPending ∨ x.effects.nextState ≠ .actionNotified) := by
      rintro (other | other)
      · exact other pending
      · exact other notified
    refine Spec.value ?_
    rw [if_neg decided]
    refine Spec.bind (recordIntent_spec stored notifies owed) (fun _ _ failed => failed) ?_
    rintro intent L' ⟨same,some'⟩
    exact Spec.pure ⟨same,fun _ => some'⟩

-- _existing_notification_intent_key only reads; it insists on the intent of a notifying run.
theorem existingNotificationIntentKey_spec {identity : FinalStrategyIdentity} {notifies : Bool}
    (stored : L.stored = some x) :
    Spec s lease seed L (s.existingNotificationIntentKey plan x.run identity notifies) fun outcome L' =>
      match outcome with
      | .ok _ => L' = L ∧ (notifies = true → L.intents ≠ [])
      | .error error => Ordinary error := by
  unfold Session.existingNotificationIntentKey
  cases notifies with
  | false => exact Spec.pure ⟨rfl,by intro h; cases h⟩
  | true =>
    simp only [if_true]
    refine Spec.bind (listIntents_spec stored) (fun _ _ failed => failed.1) ?_
    rintro intents L' ⟨rfl,rfl⟩
    split
    · rename_i single found
      refine Spec.pure ⟨rfl,?_⟩
      intro _ nothing
      rw [nothing] at found
      cases found
    · exact Spec.throw (by simp [Ordinary])

theorem isLegacyPendingFinalization_spec {current : RecommendationStateRecord} {effects : FinalizationEvidence}
    {run : StrategyRun} {identity : FinalStrategyIdentity} (scanned : Scanned scan L) :
    Spec s lease seed L (s.isLegacyPendingFinalization current effects scan run identity)
      (Ends Ordinary fun legacy L' => L' = L ∧ (legacy = true → Claimed current)) := by
  unfold Session.isLegacyPendingFinalization
  split
  · exact Spec.pure ⟨rfl,by intro h; cases h⟩
  · rename_i passed
    refine Spec.bind (listAttempts_spec scanned) (fun _ _ failed => failed) ?_
    rintro attempts L' ⟨rfl,_⟩
    refine Spec.pure ⟨rfl,fun _ => ?_⟩
    by_contra unclaimed
    exact passed (.inl unclaimed)

theorem isUnfencedLegacy_spec {current : RecommendationStateRecord} {effects : FinalizationEvidence}
    {run : StrategyRun} {identity : FinalStrategyIdentity} (scanned : Scanned scan L) :
    Spec s lease seed L (s.isUnfencedLegacy current effects scan run identity)
      (Ends Ordinary fun legacy L' => L' = L ∧ (legacy = true → Claimed current)) := by
  unfold Session.isUnfencedLegacy
  split
  · exact isLegacyPendingFinalization_spec scanned
  · exact Spec.pure ⟨rfl,by intro h; cases h⟩

-- _existing_applied_finalization finds an applied attempt, or there is none.
theorem existingAppliedFinalization_spec {identity : FinalStrategyIdentity} (stored : L.stored = some x)
    (scanned : Scanned scan L) : Spec s lease seed L (s.existingAppliedFinalization plan scan x.run identity)
      fun outcome L' => match outcome with
      | .ok none => L' = L ∧ ∀ a ∈ L.attempts, a.finalizationDisposition ≠ some .applied
      | .ok (some (a,_)) => L' = L ∧ a ∈ L.attempts ∧ a.finalizationDisposition = some .applied
      | .error _ => True := by
  refine Spec.known (P := fun L => Verdicts L ∧ ∀ a ∈ L.attempts, a.finalizationDisposition.isSome →
    a.status = .succeeded) (fun j lawful => ⟨verdicts_known j lawful,fun a present => (attempt_decided lawful present).2.2⟩)
    fun ⟨verdicts,succeeds⟩ => ?_
  unfold Session.existingAppliedFinalization
  simp only [x.market_read]
  refine Spec.value (Spec.bind (listAttempts_spec scanned) (fun _ _ _ => trivial) ?_)
  rintro attempts L' ⟨rfl,same⟩
  cases found : Session.lastAttempt attempts fun attempt =>
      Session.isFinal x.run attempt && attempt.finalizationDisposition != some .superseded with
  | none =>
    refine Spec.pure ⟨rfl,?_⟩
    intro a present applied
    obtain ⟨_,x',stored',final⟩ := verdicts a present (succeeds a present (by rw [applied]; rfl))
    rw [stored,Option.some.injEq] at stored'
    subst stored'
    obtain ⟨last,located⟩ := last_attempt_found
      (fun attempt => Session.isFinal x.run attempt && attempt.finalizationDisposition != some .superseded)
      (same.mem_iff.mpr present) (by simp [final,applied])
    rw [found] at located
    cases located
  | some attempt =>
    obtain ⟨located,accepted⟩ := last_attempt_parts found
    rw [Bool.and_eq_true,bne_iff_ne] at accepted
    have present := same.mem_iff.mp located
    have applied : attempt.finalizationDisposition = some .applied := by
      have verdict := (verdicts attempt present (final_parts.mp accepted.1).1).1
      cases known : attempt.finalizationDisposition with
      | none => rw [known] at verdict; cases verdict
      | some disposition =>
        cases disposition with
        | applied => rfl
        | superseded => exact absurd known accepted.2
    dsimp only
    split
    · exact Spec.throw trivial
    · simp only [x.effects_read]
      refine Spec.value (Spec.bind (existingNotificationIntentKey_spec stored) (fun _ _ _ => trivial) ?_)
      rintro key L' ⟨rfl,_⟩
      exact Spec.pure ⟨rfl,present,applied⟩

theorem fenced_or (x : StoredRun) {current : RecommendationStateRecord} (next : current.pair = x.next)
    (other : ¬ Fenced x current) : Lost x current := by
  refine ⟨other,?_⟩
  rintro ⟨previous,moved⟩
  exact moved (previous.symm.trans next)

-- _ensure_finalization_effects ends with what an applied verdict needs, or with a record that
-- is neither the run's own nor the one it started from.
theorem ensureFinalizationEffects_spec (seeded : Seeded seed) (unfinished : Unfinished scan x L)
    (keyed : x.Keyed s.d) (running : ¬ L.completed)
    (undecided : ∀ a ∈ L.attempts, a.finalizationDisposition ≠ some .applied)
    (first : L.phase = .idle ∨ ∃ source, L.phase = .evaluated source) :
    Spec s lease seed L (s.ensureFinalizationEffects x.candidate.plan scan x.run x.identity) fun outcome L' =>
      match outcome with
      | .ok _ => Decided x L' .applied
      | .error error => if error.isSuperseded then Decided x L' .superseded else Unclaimed seed → L'.broken = true := by
  have interrupted : ∀ (error : PyError) (L' : ScanLedger), Ordinary error ∧ L'.broken = true →
      if error.isSuperseded then Decided x L' .superseded else Unclaimed seed → L'.broken = true := by
    rintro error L' ⟨ordinary,broke⟩
    rw [(ordinary_exact error).mp ordinary]
    exact fun _ => broke
  have lost : ∀ (current : RecommendationStateRecord) (L' : ScanLedger) (message : String),
      L'.phase = .adjudicated current → Lost x current →
      if PyError.isSuperseded ⟨.finalizationSuperseded,message⟩ then Decided x L' .superseded
      else Unclaimed seed → L'.broken = true := fun current L' _ phase lost => ⟨current,phase,lost⟩
  unfold Session.ensureFinalizationEffects
  simp only [x.effects_read]
  refine Spec.value (Spec.bind (adjudicated_spec unfinished.stored rfl running undecided first) interrupted ?_)
  rintro current L' ⟨same,unclaimed⟩
  have stored : L'.stored = some x := by rw [same]; exact unfinished.stored
  have phase : L'.phase = .adjudicated current := by rw [same]
  have scanned : Scanned scan L' := by rw [same]; exact unfinished.scanned
  -- The write over a record the run may take.
  have applies : (Returned x current ∨ current.pair = x.next ∧ Claimed current) →
      Spec s lease seed L' (s.recordTransition x.candidate.plan current x.next
        (some (x.run.strategyRunId,x.identity.key s.d))) (Ends Ordinary fun _ L'' =>
          L''.stored = some x ∧ L''.phase = .written ∧ L''.intents = L'.intents) := by
    intro taken
    refine Spec.mono (recordTransition_spec seeded ?_) ?_
    · intro updated own pair run key
      exact .inr ⟨x,stored,phase,own,pair,run,by rw [key,keyed]; rfl,taken⟩
    · rintro (_ | updated) L'' holds
      · exact holds
      · obtain ⟨rfl,run⟩ := holds
        have fence : updated.finalizationStrategyRunId.isSome := by rw [run]; rfl
        simp only [Ends,ScanLedger.enter,fence,if_true]
        exact ⟨stored,trivial,trivial⟩
  have wrote : (x.effects.nextState,x.effects.remainingStagesHalted) = x.next := rfl
  have began : (x.effects.previousState,x.effects.previousRemainingStagesHalted) = x.previous := rfl
  have notifies : x.effects.notificationIntentRecorded = x.notifies := rfl
  simp only [wrote,began,notifies]
  by_cases next : current.pair = x.next
  · rw [if_pos next]
    by_cases fence : current.finalizationStrategyRunId = some x.run.strategyRunId ∧
        current.finalizationStrategyKey = some (x.identity.key s.d)
    · rw [if_pos fence]
      have fenced : Fenced x current := ⟨next,fence.1,by rw [fence.2,keyed]⟩
      refine Spec.mono (recordNotificationIntent_spec stored (.inr ⟨current,phase,fenced⟩)) ?_
      rintro (error | key) L'' holds
      · exact interrupted error L'' holds
      · obtain ⟨same',some'⟩ := holds
        exact ⟨.inr ⟨current,by rw [same']; exact phase,fenced⟩,some'⟩
    · rw [if_neg fence]
      have other : ¬ Fenced x current := fun fenced => fence ⟨fenced.2.1,by rw [fenced.2.2,keyed]⟩
      refine Spec.bind (isUnfencedLegacy_spec scanned) interrupted ?_
      rintro legacy L'' ⟨same',claims⟩
      subst same'
      cases legacy with
      | false => exact Spec.throw (lost current _ _ phase (fenced_or x next other))
      | true =>
        have claimed := claims rfl
        simp only [if_true]
        refine Spec.bind (existingNotificationIntentKey_spec stored) ?_ ?_
        · intro error _ ordinary
          simp only [(ordinary_exact error).mp ordinary]
          exact fun none' => absurd claimed (unclaimed none')
        · rintro key _ ⟨rfl,some'⟩
          refine Spec.bind (applies (.inr ⟨next,claimed⟩)) interrupted ?_
          rintro _ _ ⟨_,written,same'⟩
          exact Spec.pure ⟨.inl written,fun notifies => same' ▸ some' notifies⟩
  · rw [if_neg next]
    by_cases previous : current.pair = x.previous
    · rw [if_pos previous]
      refine Spec.bind (applies (.inl ⟨previous,fun same => next (previous.trans same)⟩)) interrupted ?_
      rintro _ _ ⟨stored',written,_⟩
      refine Spec.mono (recordNotificationIntent_spec stored' (.inl written)) ?_
      rintro (error | key) L'' holds
      · exact interrupted error L'' holds
      · obtain ⟨same',some'⟩ := holds
        exact ⟨.inl (by rw [same']; exact written),some'⟩
    · rw [if_neg previous]
      exact Spec.throw (lost current _ _ phase
        ⟨fun fenced => next fenced.1,fun returned => previous returned.1⟩)

-- Books with which a call may go: the stored run, if any, is finished or was interrupted.
def Closed (seed : UUID → Option RecommendationStateRecord) (L : ScanLedger) : Prop := Unclaimed seed → Settled L

theorem finishing_spec {disposition : FinalizationDisposition} (unfinished : Unfinished scan x L)
    (decided : Decided x L disposition) : Spec s lease seed L (do
      let terminal ← s.recordRecoveredFinalAttempt scan x.run x.identity disposition
      let _ ← s.attachFinalStrategyRun plan scan x.run
      pure terminal) (Ends (fun _ => True) fun a L' => L'.completed ∧ L'.stored = some x ∧ a ∈ L'.attempts ∧
        a.finalizationDisposition = some disposition) := by
  refine Spec.bind (recordRecoveredFinalAttempt_spec unfinished decided) (fun _ _ failed => failed) ?_
  rintro a L' ⟨same,recorded,verdict⟩
  have scanned : Scanned scan L' := by rw [same]; exact unfinished.scanned
  refine Spec.bind (attach_spec scanned) (fun _ _ failed => failed) ?_
  rintro completed L'' ⟨rfl,done⟩
  exact Spec.pure ⟨done,by rw [same]; exact unfinished.stored,recorded,verdict⟩

theorem finalizeSupersededCandidate_spec (unfinished : Unfinished scan x L) (decided : Decided x L .superseded) :
    Spec s lease seed L (s.finalizeSupersededCandidate plan scan x.run x.identity)
      (Ends (fun _ => True) fun r L' => Reported s.scanLockKey r L' ∧ (L'.completed ∨ L'.broken = true)) := by
  refine Spec.bind (Spec.guarded (finishing_spec unfinished decided) fun _ _ failed => failed.2)
    (fun _ _ failed => ⟨trivial,failed.2⟩) ?_
  rintro (error | terminal) L' ⟨grown,holds⟩
  · refine Spec.mono (pendingFinalizationResult_spec (grown.scanned unfinished.scanned)) ?_
    rintro (_ | r) L'' ended
    · exact ⟨trivial,ended.2⟩
    · obtain ⟨rfl,_⟩ := id ended
      exact ⟨ended.silent rfl,.inr holds⟩
  · obtain ⟨done,stored,recorded,verdict⟩ := holds
    refine Spec.mono (supersededResult_spec (grown.scanned unfinished.scanned)) ?_
    rintro (_ | r) L'' ended
    · exact ⟨trivial,ended.2⟩
    · obtain ⟨rfl,same,run,key⟩ := ended
      refine ⟨⟨key,?_⟩,.inl done⟩
      intro disposition reported
      rw [same] at reported
      cases Option.some.inj reported
      exact ⟨x,terminal,stored,run,recorded,verdict⟩

-- Both callers of the adjudication get a finished superseded run, or a run that is applied.
theorem adjudicate_spec (seeded : Seeded seed) (unfinished : Unfinished scan x L) (keyed : x.Keyed s.d)
    (running : ¬ L.completed) (undecided : ∀ a ∈ L.attempts, a.finalizationDisposition ≠ some .applied)
    (first : L.phase = .idle ∨ ∃ source, L.phase = .evaluated source) :
    Spec s lease seed L (s.adjudicate x.candidate.plan scan x.run x.identity) fun outcome L' => match outcome with
      | .ok (.inl r) => Reported s.scanLockKey r L' ∧ (L'.completed ∨ L'.broken = true)
      | .ok (.inr (a,_)) => a ∈ L'.attempts ∧ a.finalizationDisposition = some .applied
      | .error _ => Unclaimed seed → L'.broken = true := by
  have judged : Spec s lease seed L _ _ :=
    Spec.grown (ensureFinalizationEffects_spec seeded unfinished keyed running undecided first)
  refine Spec.bind (M := fun outcome L' => Grown L L' ∧ match outcome with
      | .ok (.ok _) => Decided x L' .applied
      | .ok (.error _) => Decided x L' .superseded
      | .error _ => Unclaimed seed → L'.broken = true)
    (Spec.catching judged (fun _ _ holds => holds) ?_ ?_) (fun _ _ failed => failed.2) ?_
  · rintro error L' caught ⟨grown,holds⟩
    simp only [caught,if_true] at holds
    exact ⟨grown,holds⟩
  · rintro error L' passed ⟨grown,holds⟩
    simp only [passed,Bool.false_eq_true,if_false] at holds
    exact ⟨grown,holds⟩
  rintro (_ | key) L' ⟨grown,decided⟩
  · refine Spec.bind (finalizeSupersededCandidate_spec (grown.unfinished unfinished) decided)
      (fun _ _ failed _ => failed.2) ?_
    exact fun r L'' holds => Spec.pure holds
  · refine Spec.bind (recordRecoveredFinalAttempt_spec (grown.unfinished unfinished) decided)
      (fun _ _ failed _ => failed.2) ?_
    exact fun a L'' holds => Spec.pure holds.2

-- What the guarded part of a recovery hands on.
def Recovered (key : Digest) : RunCoordinatorResult ⊕ (FinalStrategyIdentity × ScanAttempt × Option Digest) →
    ScanLedger → Prop
  | .inl r,L => Reported key r L
  | .inr (_,a,_),L => a ∈ L.attempts ∧ a.finalizationDisposition = some .applied

-- A recovery reports only what is on the record by then.
theorem recoverPendingFinalization_spec (seeded : Seeded seed) (unfinished : Unfinished scan x L)
    (keyed : x.Keyed s.d) (running : ¬ L.completed) (idle : L.phase = .idle) :
    Spec s lease seed L (s.recoverPendingFinalization x.candidate.plan scan x.run) fun outcome L' =>
      ∀ r, outcome = .ok r → Reported s.scanLockKey r L' := by
  have silent : ∀ (error : PyError) (L' : ScanLedger) (recovered : RunCoordinatorResult ⊕ _),
      (.error error : Except PyError _) = .ok recovered → Recovered s.scanLockKey recovered L' := by
    intro _ _ _ h
    cases h
  have attaches : ∀ a key L', Grown L L' → a ∈ L'.attempts → a.finalizationDisposition = some .applied →
      Spec s lease seed L' (do
        let _ ← s.attachFinalStrategyRun x.candidate.plan scan x.run
        pure (.inr (x.identity,a,key))) fun outcome L' => ∀ recovered, outcome = .ok recovered →
          Recovered s.scanLockKey recovered L' := by
    intro a key L' grown recorded applied
    refine Spec.bind (attach_spec (grown.scanned unfinished.scanned)) (fun _ _ _ => silent _ _) ?_
    rintro completed L'' ⟨rfl,_⟩
    exact Spec.pure fun _ h => by cases h; exact ⟨recorded,applied⟩
  unfold Session.recoverPendingFinalization
  simp only [StoredRun.identity_read keyed]
  refine Spec.bind (M := fun outcome L' => Grown L L' ∧ ∀ recovered, outcome = .ok (.ok recovered) →
    Recovered s.scanLockKey recovered L') ?_ (fun _ _ _ => by intro _ h; cases h) ?_
  · refine Spec.catching (Spec.grown (Q := fun outcome L' => ∀ recovered, outcome = .ok recovered →
      Recovered s.scanLockKey recovered L') ?_) ?_ ?_ ?_
    · refine Spec.value (Spec.bind (Spec.grown (existingAppliedFinalization_spec unfinished.stored unfinished.scanned))
        (fun _ _ _ => silent _ _) ?_)
      rintro (_ | ⟨a,key⟩) L' ⟨grown,rfl,holds⟩
      · refine Spec.bind (Spec.grown (adjudicate_spec seeded unfinished keyed running holds (.inl idle)))
          (fun _ _ _ => silent _ _) ?_
        rintro (r | ⟨a,key⟩) L'' ⟨grown',holds'⟩
        · exact Spec.pure fun _ h => by cases h; exact holds'.1
        · exact attaches a key L'' grown' holds'.1 holds'.2
      · exact attaches a key L' grown holds.1 holds.2
    · exact fun value L' holds => ⟨holds.1,fun _ h => by cases h; exact holds.2 _ rfl⟩
    · exact fun error L' _ holds => ⟨holds.1,fun _ h => by cases h⟩
    · exact fun error L' _ holds => ⟨holds.1,fun _ h => by cases h⟩
  · rintro (error | recovered) L' ⟨grown,holds⟩
    · refine Spec.bind (M := fun _ L'' => L'' = L') (Spec.done rfl) (fun _ _ _ => by intro _ h; cases h) ?_
      rintro identity L'' rfl
      refine Spec.mono (pendingFinalizationResult_spec (grown.scanned unfinished.scanned)) ?_
      rintro (_ | r) L''' ended _ ⟨⟩
      exact ended.silent rfl
    · have reported := holds recovered rfl
      rcases recovered with r | ⟨identity,a,key⟩
      · exact Spec.pure fun _ h => by cases h; exact reported
      · refine Spec.bind (completedAudit_spec (grown.scanned unfinished.scanned))
          (fun _ _ _ => by intro _ h; cases h) ?_
        rintro audit L'' rfl
        refine Spec.pure fun _ h => ?_
        cases h
        refine ⟨rfl,?_⟩
        rintro disposition ⟨⟩
        exact ⟨x,a,grown.stored x unfinished.stored,rfl,reported.1,reported.2⟩

-- A completed scan answers with the verdict that completed it.
theorem completedResult_spec (found : L.scan = some scan) (done : scan.status = .completed) :
    Spec s lease seed L (s.completedResult scan) fun outcome L' =>
      ∀ r, outcome = .ok r → Reported s.scanLockKey r L' ∧ r.disposition.verdict.isSome := by
  have scanned : Scanned scan L := ⟨scan,found,rfl⟩
  refine Spec.known (P := fun L => Verdicts L ∧ (L.completed → ∃ a ∈ L.attempts, a.status = .succeeded))
    (fun j lawful => ⟨verdicts_known j lawful,completed_decided lawful⟩) fun ⟨verdicts,decided⟩ => ?_
  obtain ⟨a,present,succeeded⟩ := decided ⟨scan,found,done⟩
  obtain ⟨_,x,stored,final⟩ := verdicts a present succeeded
  refine Spec.bind (getForLogicalScan_spec scanned) (fun _ _ _ => by intro _ h; cases h) ?_
  rintro run L' ⟨rfl,rfl⟩
  rw [stored]
  dsimp only [Option.map_some]
  refine Spec.bind (M := fun _ L'' => L'' = L') (Spec.done rfl) (fun _ _ _ => by intro _ h; cases h) ?_
  rintro identity L'' rfl
  refine Spec.bind (listAttempts_spec scanned) (fun _ _ _ => by intro _ h; cases h) ?_
  rintro attempts L''' ⟨rfl,same⟩
  obtain ⟨terminal,located⟩ := last_attempt_found _ (same.mem_iff.mpr present) final
  obtain ⟨recorded,isFinal⟩ := last_attempt_parts located
  have recorded := same.mem_iff.mp recorded
  have verdict := (verdicts terminal recorded (final_parts.mp isFinal).1).1
  simp only [located]
  refine Spec.value ?_
  by_cases superseded : terminal.finalizationDisposition = some .superseded
  · rw [if_pos superseded]
    refine Spec.mono (supersededResult_spec scanned) ?_
    rintro (_ | r) L' ended _ ⟨⟩
    obtain ⟨rfl,disposition,run,key⟩ := ended
    refine ⟨⟨key,?_⟩,by rw [disposition]; rfl⟩
    intro verdict reported
    rw [disposition] at reported
    cases Option.some.inj reported
    exact ⟨x,terminal,stored,run,recorded,superseded⟩
  · rw [if_neg superseded]
    have applied : terminal.finalizationDisposition = some .applied := by
      cases known : terminal.finalizationDisposition with
      | none => rw [known] at verdict; cases verdict
      | some disposition =>
        cases disposition with
        | applied => rfl
        | superseded => exact absurd known superseded
    refine Spec.bind (audit_spec scanned) (fun _ _ _ => by intro _ h; cases h) ?_
    rintro audit L' rfl
    refine Spec.pure fun _ h => ?_
    cases h
    refine ⟨⟨rfl,?_⟩,rfl⟩
    rintro disposition ⟨⟩
    exact ⟨x,terminal,stored,rfl,recorded,applied⟩

end Specs
end SwapMonitor
