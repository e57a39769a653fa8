import SwapMonitor.Application.FinalizationSpecs

namespace SwapMonitor
open Interleaving

-- Books with no stored run, or of an interrupted call.
def Open (L : ScanLedger) : Prop := L.stored = none ∨ L.broken = true

theorem Open.closed {seed : UUID → Option RecommendationStateRecord} {L : ScanLedger} (opened : Open L) :
    Closed seed L := by
  intro _ stored
  rcases opened with unstored | broke
  · rw [unstored] at stored; cases stored
  · exact .inr broke

theorem closed_broken {seed : UUID → Option RecommendationStateRecord} {L : ScanLedger} (broke : L.broken = true) :
    Closed seed L := fun _ _ => .inr broke

section Specs
variable {s : Session} {lease : LockLease} {seed : UUID → Option RecommendationStateRecord} {L : ScanLedger}
  {scan : LogicalScanRun} {plan : RotationPlan}

-- An attempt without a verdict is lawful, a running one while fetches are left.
theorem undecided_legal {a : ScanAttempt} (created : L.scan.isSome) (other : a.status ≠ .succeeded)
    (final : a.finalStrategyRunId = none) (undecided : a.finalizationDisposition = none)
    (running : a.status = .running → L.stored = none ∧ L.running < s.self.maxProviderAttempts) :
    LegalAttempt s.self L a where
  created := created
  running := running
  final := by intro _ h; rw [final] at h; cases h
  decided := fun h => absurd h other
  succeeded := by intro h; rw [undecided] at h; cases h
  superseded := by intro h; rw [undecided] at h; cases h
  applied := by intro h; rw [undecided] at h; cases h
  once := by intro _ h; rw [undecided] at h; cases h

theorem Scanned.isSome (scanned : Scanned scan L) : L.scan.isSome := by
  obtain ⟨cur,found,_⟩ := scanned
  rw [found]
  rfl

theorem recordTerminalAttempt_spec {previous : ScanAttempt} {status : ScanAttemptStatus}
    {snapshot : Option MarketDataSnapshot} {identity : Option FinalStrategyIdentity} {code detail : String}
    (scanned : Scanned scan L) (terminal : status = .failed ∨ status = .degraded) :
    Spec s lease seed L (s.recordTerminalAttempt scan previous status snapshot identity code detail)
      (Ends (fun _ => True) fun _ L' => L' = {L with attempts := L'.attempts}) := by
  refine Spec.bind (listAttempts_spec scanned) (fun _ _ failed => ⟨trivial,failed.2⟩) ?_
  rintro attempts L' ⟨rfl,_⟩
  refine Spec.mono (recordAttempt_spec scanned (fun _ _ => rfl) ?_) ?_
  · intro input w a fields _
    refine undecided_legal scanned.isSome ?_ (by rw [fields]) (by rw [fields]) ?_
    · rw [fields]; rcases terminal with rfl | rfl <;> simp
    · rw [fields]; rcases terminal with rfl | rfl <;> simp
  · rintro (_ | a) L'' holds
    · exact holds
    · obtain ⟨rfl,_⟩ := holds
      rfl

theorem failedResult_spec {running : ScanAttempt} {code detail : String} {snapshot : Option MarketDataSnapshot}
    {identity : Option FinalStrategyIdentity} (scanned : Scanned scan L) :
    Spec s lease seed L (s.failedResult scan running code detail snapshot identity)
      (Ends (fun _ => True) fun r L' => L' = {L with attempts := L'.attempts} ∧ Reported s.scanLockKey r L') := by
  refine Spec.bind (recordTerminalAttempt_spec scanned (.inl rfl)) (fun _ _ failed => failed) ?_
  intro terminal L' same
  have scanned' : Scanned scan L' := by rw [same]; exact scanned
  refine Spec.bind (audit_spec scanned') (fun _ _ failed => ⟨trivial,failed.2⟩) ?_
  rintro audit L'' rfl
  refine Spec.pure ⟨same,rfl,?_⟩
  intro _ h
  cases h

-- What a call hands back, and the books it goes with.
def Served (s : Session) (seed : UUID → Option RecommendationStateRecord) (outcome : Except PyError RunCoordinatorResult)
    (L : ScanLedger) : Prop := Closed seed L ∧ ∀ r, outcome = .ok r → Reported s.scanLockKey r L

-- A handler that answers with a failed attempt leaves the books as settled as they were.
theorem failing_spec {running : ScanAttempt} {code detail : String} {snapshot : Option MarketDataSnapshot}
    {identity : Option FinalStrategyIdentity} (scanned : Scanned scan L) (closed : Closed seed L) :
    Spec s lease seed L (s.failedResult scan running code detail snapshot identity) (Served s seed) := by
  refine Spec.mono (failedResult_spec scanned) ?_
  rintro (_ | r) L' holds
  · exact ⟨closed_broken holds.2,by intro _ h; cases h⟩
  · obtain ⟨same,reported⟩ := holds
    refine ⟨by rw [same]; exact closed,?_⟩
    rintro _ ⟨⟩
    exact reported

theorem recordRunningAttempt_spec (scanned : Scanned scan L) (unstored : L.stored = none)
    (left : L.running < s.self.maxProviderAttempts) : Spec s lease seed L (s.recordRunningAttempt scan)
    fun outcome L' => match outcome with
      | .ok _ => L' = {L with attempts := L'.attempts} ∧ L'.attempts ≠ [] ∧ L'.running = L.running + 1
      | .error _ => Open L' := by
  refine Spec.bind (listAttempts_spec scanned) (fun _ _ failed => .inr failed.2) ?_
  rintro attempts L' ⟨rfl,_⟩
  dsimp only
  split
  · exact Spec.throw (.inl unstored)
  · refine Spec.mono (recordAttempt_spec scanned (fun _ _ => rfl) ?_) ?_
    · intro input w a fields _
      exact undecided_legal scanned.isSome (by rw [fields]; simp) (by rw [fields]) (by rw [fields])
        fun _ => ⟨unstored,left⟩
    · rintro (_ | a) L'' holds
      · exact .inr holds.2
      · obtain ⟨rfl,_,_,fields⟩ := holds
        have status : a.status = .running := by rw [fields]
        exact ⟨rfl,List.append_ne_nil_of_right_ne_nil _ (List.cons_ne_nil _ _),by simp [ScanLedger.running,status]⟩

theorem providerAttemptCount_spec (scanned : Scanned scan L) : Spec s lease seed L (s.providerAttemptCount scan)
    (Ends Ordinary fun count L' => L' = L ∧ count = L.running) := by
  refine Spec.bind (listAttempts_spec scanned) (fun _ _ failed => failed) ?_
  rintro attempts L' ⟨rfl,same⟩
  exact Spec.pure ⟨rfl,same.countP_eq _⟩

theorem callProvider_spec (unstored : L.stored = none) (counted : L.provided < L.running) :
    Spec s lease seed L s.callProvider fun outcome L' => match outcome with
      | .ok _ => L' = {L with provided := L.provided + 1}
      | .error _ => Open L' := by
  refine Spec.bind (askProvider_spec unstored counted) (fun _ _ failed => .inr failed.2) ?_
  rintro (_ | _ | snapshot) L' rfl
  · exact Spec.throw (.inl unstored)
  · exact Spec.pure rfl
  · exact Spec.pure rfl

theorem callEvaluator_spec : Spec s lease seed L s.callEvaluator fun outcome L' => match outcome with
    | .ok _ => L' = L
    | .error _ => L' = L ∨ L'.broken = true := by
  refine Spec.bind askEvaluator_spec (fun _ _ failed => .inr failed.2) ?_
  rintro (_ | _ | evaluation) L' rfl
  · exact Spec.throw (.inl rfl)
  · exact Spec.throw (.inl rfl)
  · exact Spec.pure rfl

-- A position that is handed on was read, and may be sold from.
theorem authoritativeSaleSource_spec {evaluation : RotationEvaluation} :
    Spec s lease seed L (s.authoritativeSaleSource evaluation plan) fun outcome L' => match outcome with
      | .ok source => L' = {L with positions := L'.positions} ∧ match evaluation.saleSourcePositionId with
        | none => source = none
        | some positionId => ∃ position, source = some position ∧ (positionId,position) ∈ L'.positions ∧
            AuthorizedSource plan position
      | .error _ => L' = {L with positions := L'.positions} ∨ L'.broken = true := by
  unfold Session.authoritativeSaleSource
  cases evaluation.saleSourcePositionId with
  | none => exact Spec.pure ⟨rfl,rfl⟩
  | some positionId =>
    refine Spec.bind readPosition_spec (fun _ _ failed => .inr failed.2) ?_
    rintro position L' rfl
    refine Spec.bind (M := fun outcome L'' => L'' = _ ∧ outcome = ensureAuthorizedRotationSource plan position)
      (Spec.done ⟨rfl,rfl⟩) ?_ ?_
    · rintro error L'' ⟨rfl,_⟩
      exact .inl rfl
    · rintro _ L'' ⟨rfl,authorized⟩
      exact Spec.pure ⟨rfl,position,rfl,List.mem_cons_self,source_exact.mp authorized.symm⟩

theorem sizing_checked {evaluation : RotationEvaluation} {source : Option Position} {quantity : Option Quantity}
    (checked : validatedSizingSale evaluation source = .ok quantity) (decides : evaluation.event = .decisionValidated)
    (passed : evaluation.guards.sizingOutcome = .passed) : ∃ position sizing, source = some position ∧
      evaluation.sizingResult = some sizing ∧ sizing.actionable = true ∧
      sizing.sourceSale.sourcePositionId = position.positionId ∧ quantity = some sizing.sourceSale.quantity := by
  unfold validatedSizingSale at checked
  rw [if_neg (by simp [decides,passed])] at checked
  split at checked
  · cases checked
  rename_i position
  split at checked
  · cases checked
  rename_i sizing known
  simp only [bind_ok,raiseIf_ok,pure_ok,Bool.not_eq_false',decide_eq_false_iff_not,not_not] at checked
  obtain ⟨_,actionable,_,same,rfl⟩ := checked
  exact ⟨position,sizing,rfl,known,actionable,same,rfl⟩

-- What the guarded part of an evaluation hands on: a finished result, or an applied run.
def Evaluated (s : Session) (seed : UUID → Option RecommendationStateRecord) :
    StrategyRun × Session.Finalized → ScanLedger → Prop
  | (_,.inl r),L => Closed seed L ∧ Reported s.scanLockKey r L
  | (run,.inr (a,_)),L => ∃ x, run = x.run ∧ L.stored = some x ∧ a ∈ L.attempts ∧
      a.finalizationDisposition = some .applied

theorem evaluation_spec (snapshot : MarketDataSnapshot) (seeded : Seeded seed)
    (authorized : s.self.rotationPlans plan.rotationPlanId = some plan) (found : L.scan = some scan)
    (running : scan.status = .running) (unstored : L.stored = none) (attempted : L.attempts ≠ [])
    (idle : L.phase = .idle) : Spec s lease seed L (do
      let recommendationState ← s.getOrCreateState plan fun record => [.evaluatedFrom record]
      let evaluation ← s.callEvaluator
      let saleSource ← s.authoritativeSaleSource evaluation plan
      let saleQuantity ← Program.done (validatedSizingSale evaluation saleSource)
      let recorded ← s.recordBuiltRun plan scan snapshot (.fromSnapshot s.scanLockKey snapshot) recommendationState
        evaluation saleSource saleQuantity
      let storedRun ← Program.done recorded
      let outcome ← s.adjudicate plan scan storedRun (.fromSnapshot s.scanLockKey snapshot)
      pure (storedRun,outcome)) fun outcome L' => match outcome with
        | .ok evaluated => Evaluated s seed evaluated L'
        | .error _ => Closed seed L' := by
  refine Spec.known (P := fun L => Verdicts L ∧ ∀ a ∈ L.attempts, a.finalizationDisposition.isSome →
    a.status = .succeeded) (fun j lawful => ⟨verdicts_known j lawful,fun a present => (attempt_decided lawful present).2.2⟩)
    fun ⟨verdicts,succeeds⟩ => ?_
  have undecided : ∀ a ∈ L.attempts, a.finalizationDisposition ≠ some .applied := by
    intro a present applied
    obtain ⟨_,_,stored,_⟩ := verdicts a present (succeeds a present (by rw [applied]; rfl))
    rw [unstored] at stored
    cases stored
  refine Spec.bind (evaluatedFrom_spec seeded unstored idle) (fun _ _ failed => closed_broken failed.2) ?_
  rintro source L1 rfl
  refine Spec.bind callEvaluator_spec ?_ ?_
  · rintro error L' (rfl | broke)
    · exact Open.closed (.inl unstored)
    · exact closed_broken broke
  rintro evaluation L2 rfl
  refine Spec.bind authoritativeSaleSource_spec ?_ ?_
  · rintro error L' (same | broke)
    · exact Open.closed (.inl (by rw [same]; exact unstored))
    · exact closed_broken broke
  rintro position L3 ⟨same,sourced⟩
  have unstored3 : L3.stored = none := by rw [same]; exact unstored
  cases sized : validatedSizingSale evaluation position with
  | error error => exact Spec.done (Open.closed (.inl unstored3))
  | ok quantity =>
    refine Spec.value (Spec.bind (recordBuiltRun_spec (L := L3) (by rw [same]; exact found) unstored3
      (by rw [same]; exact attempted) (by rw [same]) authorized ?_) (fun _ _ failed => closed_broken failed.2) ?_)
    · intro now id
      exact ⟨sourced,sizing_checked sized⟩
    rintro recorded L4 (⟨error,rfl,rfl⟩ | ⟨x,rfl,rfl,identity,keyed,rfl⟩)
    · exact Spec.done (Open.closed (.inl unstored3))
    · refine Spec.value ?_
      rw [← identity]
      have scanned : L3.scan = some scan := by rw [same]; exact found
      refine Spec.bind (Spec.grown (adjudicate_spec seeded ⟨rfl,⟨scan,scanned,rfl⟩,by rw [same]; exact attempted⟩ keyed
        ?_ (by rw [same]; exact undecided) (.inr ⟨source,by rw [same]⟩))) ?_ ?_
      · rintro ⟨cur,known,done⟩
        have same' : scan = cur := Option.some.inj (scanned.symm.trans known)
        rw [← same',running] at done
        cases done
      · exact fun error L' holds unclaimed _ => .inr (holds.2 unclaimed)
      · rintro (r | ⟨a,key⟩) L' ⟨grown,holds⟩
        · exact Spec.pure ⟨fun _ _ => holds.2,holds.1⟩
        · exact Spec.pure ⟨x,rfl,grown.stored x rfl,holds⟩

theorem evaluateSnapshot_spec {snapshot : MarketDataSnapshot} {runningAttempt : ScanAttempt} (seeded : Seeded seed)
    (authorized : s.self.rotationPlans plan.rotationPlanId = some plan) (found : L.scan = some scan)
    (running : scan.status = .running) (unstored : L.stored = none) (attempted : L.attempts ≠ [])
    (idle : L.phase = .idle) :
    Spec s lease seed L (s.evaluateSnapshot plan scan runningAttempt snapshot (.fromSnapshot s.scanLockKey snapshot))
      (Served s seed) := by
  have scanned : Scanned scan L := ⟨scan,found,rfl⟩
  refine Spec.bind (Spec.guarded (evaluation_spec snapshot seeded authorized found running unstored attempted idle)
    fun _ _ closed => closed) (fun _ _ failed => ⟨failed.2,by intro _ h; cases h⟩) ?_
  rintro (error | ⟨run,r | ⟨a,key⟩⟩) L' ⟨grown,holds⟩
  · exact failing_spec (grown.scanned scanned) holds
  · refine Spec.pure ⟨holds.1,?_⟩
    rintro _ ⟨⟩
    exact holds.2
  · obtain ⟨x,rfl,stored,recorded,applied⟩ := holds
    have scanned' := grown.scanned scanned
    refine Spec.bind (Spec.guarded (attach_spec scanned') fun _ _ failed => failed.2)
      (fun _ _ failed => ⟨closed_broken failed.2,by intro _ h; cases h⟩) ?_
    rintro (error | completed) L'' ⟨grown',holds'⟩
    · refine Spec.mono (pendingFinalizationResult_spec (grown'.scanned scanned')) ?_
      rintro (_ | r) L3 ended
      · exact ⟨closed_broken ended.2,by intro _ h; cases h⟩
      · refine ⟨closed_broken (by rw [ended.1]; exact holds'),?_⟩
        rintro _ ⟨⟩
        exact ended.silent rfl
    · refine Spec.bind (completedAudit_spec (grown'.scanned scanned'))
        (fun _ _ failed => ⟨closed_broken failed.2,by intro _ h; cases h⟩) ?_
      rintro audit L3 rfl
      refine Spec.pure ⟨fun _ _ => .inl holds'.2,?_⟩
      rintro _ ⟨⟩
      refine ⟨rfl,?_⟩
      rintro disposition ⟨⟩
      exact ⟨x,a,grown'.stored x stored,rfl,grown'.attempts a recorded,applied⟩

theorem degradation_spec (seeded : Seeded seed) (authorized : s.self.rotationPlans plan.rotationPlanId = some plan)
    (unstored : L.stored = none) (idle : L.phase = .idle) : Spec s lease seed L (do
      let recommendationState ← s.getOrCreateState plan fun _ => []
      if recommendationState.state ≠ .idle then do
        let transition ← Program.done (transitionDegradedData plan recommendationState)
        let _ ← s.recordTransition plan recommendationState
          (transition.nextState,transition.remainingStagesHalted) none
        pure ()
      else pure ()) fun outcome L' => match outcome with
        | .ok () => L' = L
        | .error _ => Open L' := by
  refine Spec.bind (readState_spec seeded) (fun _ _ failed => .inr failed.2) ?_
  rintro record L' ⟨rfl,own⟩
  by_cases still : record.state ≠ .idle
  · rw [if_pos still]
    cases degraded : transitionDegradedData plan record with
    | error error => exact Spec.done (.inl unstored)
    | ok transition =>
      refine Spec.value (Spec.bind (recordTransition_spec seeded ?_) (fun _ _ failed => .inr failed.2) ?_)
      · intro updated _ pair run _
        exact .inl ⟨unstored,idle,run,plan,transition,authorized,degraded,pair⟩
      · rintro updated L'' ⟨rfl,run⟩
        refine Spec.pure ?_
        simp only [ScanLedger.enter,run,Option.map_none,Option.isSome_none,Bool.false_eq_true,if_false]
  · rw [if_neg still]
    exact Spec.pure rfl

theorem degradeSnapshot_spec {snapshot : MarketDataSnapshot} {runningAttempt : ScanAttempt}
    {identity : FinalStrategyIdentity} (seeded : Seeded seed)
    (authorized : s.self.rotationPlans plan.rotationPlanId = some plan) (scanned : Scanned scan L)
    (unstored : L.stored = none) (idle : L.phase = .idle) :
    Spec s lease seed L (s.degradeSnapshot plan scan runningAttempt snapshot identity) (Served s seed) := by
  refine Spec.bind (Spec.guarded (degradation_spec seeded authorized unstored idle) fun _ _ opened => opened)
    (fun _ _ failed => ⟨Open.closed failed.2,by intro _ h; cases h⟩) ?_
  rintro (error | ⟨⟩) L' ⟨grown,holds⟩
  · exact failing_spec (grown.scanned scanned) (Open.closed holds)
  · subst holds
    refine Spec.bind (recordTerminalAttempt_spec scanned (.inr rfl))
      (fun _ _ failed => ⟨closed_broken failed.2,by intro _ h; cases h⟩) ?_
    intro terminal L'' same
    have scanned' : Scanned scan L'' := by rw [same]; exact scanned
    refine Spec.bind (audit_spec scanned') (fun _ _ failed => ⟨closed_broken failed.2,by intro _ h; cases h⟩) ?_
    rintro audit L3 rfl
    refine Spec.pure ⟨Open.closed (.inl (by rw [same]; exact unstored)),?_⟩
    rintro _ ⟨⟩
    refine ⟨rfl,?_⟩
    intro _ h
    cases h

theorem fetch_spec (seeded : Seeded seed) (authorized : s.self.rotationPlans plan.rotationPlanId = some plan)
    (found : L.scan = some scan) (running : scan.status = .running) (unstored : L.stored = none)
    (idle : L.phase = .idle) : Spec s lease seed L (s.fetch plan scan) (Served s seed) := by
  have scanned : Scanned scan L := ⟨scan,found,rfl⟩
  refine Spec.known (P := fun L => L.provided ≤ L.running) (fun j lawful => (provider_bounded lawful).1)
    fun bounded => ?_
  refine Spec.bind (providerAttemptCount_spec scanned)
    (fun _ _ failed => ⟨closed_broken failed.2,by intro _ h; cases h⟩) ?_
  rintro count L' ⟨rfl,rfl⟩
  by_cases exhausted : s.self.maxProviderAttempts ≤ L'.running
  · rw [if_pos exhausted]
    refine Spec.mono (retryExhaustedResult_spec scanned) ?_
    rintro (_ | r) L'' ended
    · exact ⟨closed_broken ended.2,by intro _ h; cases h⟩
    · refine ⟨Open.closed (.inl (by rw [ended.1]; exact unstored)),?_⟩
      rintro _ ⟨⟩
      exact ended.silent rfl
  rw [if_neg exhausted]
  refine Spec.bind (recordRunningAttempt_spec scanned unstored (Nat.lt_of_not_le exhausted))
    (fun _ _ failed => ⟨Open.closed failed,by intro _ h; cases h⟩) ?_
  rintro runningAttempt L1 ⟨same,attempted,counted⟩
  have unstored1 : L1.stored = none := by rw [same]; exact unstored
  have found1 : L1.scan = some scan := by rw [same]; exact found
  have idle1 : L1.phase = .idle := by rw [same]; exact idle
  have left : L1.provided < L1.running := by
    rw [counted,show L1.provided = L'.provided by rw [same]]
    exact Nat.lt_succ_of_le bounded
  refine Spec.bind (Spec.guarded (callProvider_spec unstored1 left) fun _ _ opened => opened)
    (fun _ _ failed => ⟨Open.closed failed.2,by intro _ h; cases h⟩) ?_
  rintro (error | snapshot | snapshot) L2 ⟨grown,holds⟩
  · exact failing_spec (grown.scanned ⟨scan,found1,rfl⟩) (Open.closed holds)
  · subst holds
    exact failing_spec ⟨scan,found1,rfl⟩ (Open.closed (.inl unstored1))
  · subst holds
    dsimp only
    split
    · exact evaluateSnapshot_spec seeded authorized found1 running unstored1 attempted idle1
    · exact degradeSnapshot_spec seeded authorized ⟨scan,found1,rfl⟩ unstored1 idle1

-- The books of a stored run agree with the plan its scan is asked for.
theorem pending_plan {x : StoredRun} (j : Log) (lawful : Lawful (Legal s.self seed) j)
    (authorized : s.self.rotationPlans plan.rotationPlanId = some plan)
    (stored : (ledger s.scanLockKey j).stored = some x) (found : (ledger s.scanLockKey j).scan = some scan)
    (own : scan.rotationPlanId = plan.rotationPlanId) : x.candidate.plan = plan ∧ x.Keyed s.d := by
  obtain ⟨_,keyed,known,cur,found',own'⟩ := stored_run lawful stored
  rw [found,Option.some.injEq] at found'
  subst found'
  rw [← own',own,authorized,Option.some.injEq] at known
  exact ⟨known.symm,keyed⟩

-- A running scan either has a run to recover, or is to be fetched for.
theorem pursue_spec (seeded : Seeded seed) (authorized : s.self.rotationPlans plan.rotationPlanId = some plan)
    (found : L.scan = some scan) (running : scan.status = .running) (own : scan.rotationPlanId = plan.rotationPlanId)
    (closed : Closed seed L) (idle : L.phase = .idle) : Spec s lease seed L (do
      match ← s.getForLogicalScan scan with
      | some pendingRun => s.recoverPendingFinalization plan scan pendingRun
      | none => s.fetch plan scan) (Served s seed) := by
  have scanned : Scanned scan L := ⟨scan,found,rfl⟩
  have unfinished : ¬ L.completed := by
    rintro ⟨cur,found',done⟩
    rw [found,Option.some.injEq] at found'
    rw [← found',running] at done
    cases done
  refine Spec.known (P := fun L => ∀ x, L.stored = some x → L.scan = some scan →
      (x.candidate.plan = plan ∧ x.Keyed s.d) ∧ L.attempts ≠ [])
    (fun j lawful x stored found => ⟨pending_plan j lawful authorized stored found own,run_attempted lawful stored⟩)
    fun known => ?_
  refine Spec.bind (getForLogicalScan_spec scanned)
    (fun _ _ failed => ⟨closed_broken failed.2,by intro _ h; cases h⟩) ?_
  rintro run L' ⟨rfl,rfl⟩
  cases stored : L'.stored with
  | none => exact fetch_spec seeded authorized found running stored idle
  | some x =>
    obtain ⟨⟨rfl,keyed⟩,attempted⟩ := known x stored found
    refine Spec.mono (Spec.grown
      (recoverPendingFinalization_spec seeded ⟨stored,scanned,attempted⟩ keyed unfinished idle)) ?_
    rintro outcome L'' ⟨grown,holds⟩
    refine ⟨fun unclaimed _ => .inr (grown.broken ?_),holds⟩
    exact (closed unclaimed (by rw [stored]; rfl)).resolve_left unfinished

theorem underLock_spec (seeded : Seeded seed) (own : s.scanRequest.plan = plan)
    (authorized : s.self.rotationPlans plan.rotationPlanId = some plan) (closed : Closed seed L)
    (idle : L.phase = .idle) : Spec s lease seed L (s.underLock plan) fun outcome L' =>
      Served s seed outcome L' ∧ ∀ r, outcome = .ok r → L.completed → r.disposition.verdict.isSome := by
  refine Spec.known (P := fun L => L.scan = none → L.stored = none)
    (fun j lawful absent => (unscanned lawful absent).2) fun unscanned => ?_
  have raised : ∀ (error : PyError) (L' : ScanLedger), L'.broken = true → Served s seed (.error error) L' ∧
      ∀ r, (.error error : Except PyError RunCoordinatorResult) = .ok r → L.completed → r.disposition.verdict.isSome :=
    fun error L' broke => ⟨⟨closed_broken broke,by intro _ h; cases h⟩,by intro _ h; cases h⟩
  refine Spec.bind lookup_spec (fun error L' failed => raised error L' failed.2) ?_
  rintro found L' ⟨rfl,same,planned⟩
  cases found with
  | none =>
    have unfinished : ¬ L'.completed := by rintro ⟨_,h,_⟩; rw [← same] at h; cases h
    refine Spec.bind (createScan_spec same.symm) (fun error L1 failed => raised error L1 failed.2) ?_
    rintro scan L1 ⟨rfl,running,planned⟩
    refine Spec.mono (pursue_spec seeded authorized rfl running (own ▸ planned)
      (Open.closed (.inl (unscanned same.symm))) idle) ?_
    exact fun outcome L2 served => ⟨served,fun _ _ done => absurd done unfinished⟩
  | some scan =>
    cases status : scan.status with
    | completed =>
      simp only [Option.filter,status,beq_self_eq_true,if_true]
      refine Spec.mono (Spec.grown (completedResult_spec same.symm status)) ?_
      rintro outcome L1 ⟨grown,holds⟩
      exact ⟨⟨fun _ _ => .inl (grown.completed ⟨scan,same.symm,status⟩),fun r h => (holds r h).1⟩,
        fun r h _ => (holds r h).2⟩
    | running =>
      have unfinished : ¬ L'.completed := by
        rintro ⟨cur,h,done⟩
        rw [← same,Option.some.injEq] at h
        rw [← h,status] at done
        cases done
      have other : (LogicalScanStatus.running == .completed) = false := rfl
      simp only [Option.filter,status,other,Bool.false_eq_true,if_false]
      refine Spec.mono (pursue_spec seeded authorized same.symm status (own ▸ planned scan rfl) closed idle) ?_
      exact fun outcome L2 served => ⟨served,fun _ _ done => absurd done unfinished⟩

end Specs
end SwapMonitor
