import SwapMonitor.Application.Held
import SwapMonitor.Application.RunCoordinator

namespace SwapMonitor
open Interleaving

-- A computation that raises no superseded verdict.
def Plain (x : Except PyError α) : Prop := ∀ error, x = .error error → Ordinary error

section Plainness
variable {α β : Type}

theorem plain_ok (value : α) : Plain (.ok value : Except PyError α) := by intro _ h; cases h

theorem plain_raise {kind : ErrorClass} {message : String} (ordinary : kind ≠ .finalizationSuperseded) :
    Plain (raise kind message : Except PyError α) := by
  rintro _ ⟨⟩
  exact ordinary

theorem plain_raiseIf {condition : Bool} {kind : ErrorClass} {message : String}
    (ordinary : kind ≠ .finalizationSuperseded) : Plain (raiseIf condition kind message) := by
  cases condition
  · exact plain_ok ()
  · exact plain_raise ordinary

theorem plain_bind {x : Except PyError α} {f : α → Except PyError β} (first : Plain x)
    (rest : ∀ value, Plain (f value)) : Plain (x >>= f) := by
  cases x with
  | ok value => exact rest value
  | error error => rintro _ ⟨⟩; exact first error rfl

theorem plain_read (d : Deployment) (portfolioId : UUID) (access : AccessContext) :
    Plain (requirePortfolioRead d portfolioId access) := by
  refine plain_bind ?_ fun _ => plain_bind (plain_raiseIf (by decide)) fun _ => plain_ok _
  unfold portfolioOwner
  split
  · exact plain_ok _
  · exact plain_raise (by decide)

theorem plain_mutation (d : Deployment) (portfolioId : UUID) (access : AccessContext) :
    Plain (requirePortfolioMutation d portfolioId access) := by
  refine plain_bind ?_ fun _ => plain_bind ?_ fun _ => plain_ok _
  · unfold portfolioOwner
    split
    · exact plain_ok _
    · exact plain_raise (by decide)
  · unfold AccessContext.requireMutation
    split
    · exact plain_ok _
    · split <;> exact plain_raise (by decide)

theorem plain_record (fields : RecordFields) : Plain (RecommendationStateRecord.create fields) := by
  intro error failed
  unfold RecommendationStateRecord.create at failed
  split at failed
  · cases failed
  · rename_i checked
    cases failed
    exact plain_bind (plain_raiseIf (by decide)) (fun _ => plain_raiseIf (by decide)) _ checked

theorem plain_get_or_create (d : Deployment) (access : AccessContext) (w : Stores) (plan : RotationPlan)
    (now : Instant) : Plain (w.getOrCreateState d access plan now) := by
  refine plain_bind (plain_mutation _ _ _) fun _ => ?_
  split
  · exact plain_bind (plain_raiseIf (by decide)) fun _ => plain_ok _
  · exact plain_ok _

theorem plain_transition (d : Deployment) (access : AccessContext) (w : Stores) (plan : RotationPlan)
    (previous : RecommendationStateRecord) (next : RecommendationState × Bool) (now : Instant)
    (fence : Option (UUID × Digest)) : Plain (w.recordTransition d access plan previous next now fence) := by
  refine plain_bind (plain_mutation _ _ _) fun _ => ?_
  split
  · exact plain_raise (by decide)
  · exact plain_bind (plain_raiseIf (by decide)) fun _ => plain_bind (plain_raiseIf (by decide)) fun _ =>
      plain_bind (plain_record _) fun _ => plain_ok _

theorem plain_attempts (d : Deployment) (access : AccessContext) (w : Stores) (id : UUID) :
    Plain (w.listAttempts d access id) := by
  refine plain_bind ?_ fun _ => plain_ok _
  unfold Stores.getScan
  split
  · exact plain_raise (by decide)
  · exact plain_bind (plain_read _ _ _) fun _ => plain_ok _

theorem plain_intents (d : Deployment) (access : AccessContext) (w : Stores) (id : UUID) :
    Plain (w.listIntents d access id) := by
  refine plain_bind ?_ fun _ => plain_ok _
  induction (w.intentKeysByStrategyRun id).filterMap w.intentsByKey with
  | nil => exact plain_ok ()
  | cons intent rest ih => exact plain_bind (plain_read _ _ _) fun _ => ih

theorem plain_intent (d : Deployment) (access : AccessContext) (w : Stores) (intent : ChildIntent) :
    Plain (w.recordOrGetIntent d access intent) := by
  refine plain_bind (plain_mutation _ _ _) fun _ => ?_
  split
  · exact plain_raise (by decide)
  · refine plain_bind (plain_raiseIf (by decide)) fun _ => plain_bind (plain_raiseIf (by decide)) fun _ => ?_
    split
    · exact plain_bind (plain_read _ _ _) fun _ => plain_bind (plain_raiseIf (by decide)) fun _ => plain_ok _
    · exact plain_ok _

theorem interruption_ordinary (cause : Interruption) : Ordinary cause.error := by
  cases cause <;> simp [Ordinary,Interruption.error]

end Plainness

-- The scan a call works on, be it completed by now.
def Scanned (scan : LogicalScanRun) (L : ScanLedger) : Prop :=
  ∃ cur, L.scan = some cur ∧ cur.logicalScanRunId = scan.logicalScanRunId

theorem Grown.scanned {scan : LogicalScanRun} {L L' : ScanLedger} (grown : Grown L L') (scanned : Scanned scan L) :
    Scanned scan L' := by
  obtain ⟨cur,found,same⟩ := scanned
  obtain ⟨cur',found',same',_⟩ := grown.scan cur found
  exact ⟨cur',found',same'.trans same⟩

section Specs
variable {s : Session} {lease : LockLease} {seed : UUID → Option RecommendationStateRecord} {L : ScanLedger}
  {scan : LogicalScanRun} {plan : RotationPlan}

-- The holder is entitled to make entries.
theorem Held.holds {w : World} (held : Held s lease L w) : Holds (some s.thread) (ledger s.scanLockKey w.journal) :=
  ⟨s.thread,lease,rfl,by rw [held.books]; exact held.holder⟩

theorem listAttempts_spec (scanned : Scanned scan L) : Spec s lease seed L (s.listAttempts scan)
    (Ends Ordinary fun attempts L' => L' = L ∧ attempts.Perm L.attempts) := by
  refine Spec.read ?_ (fun w => plain_attempts _ _ w _) interruption_ordinary
  intro w j rep _ held attempts read
  obtain ⟨cur,found,same⟩ := scanned
  obtain ⟨rfl,_,_⟩ := held
  exact ⟨rfl,list_attempts_parts rep found (same ▸ read)⟩

theorem getForLogicalScan_spec (scanned : Scanned scan L) : Spec s lease seed L (s.getForLogicalScan scan)
    (Ends (fun _ => True) fun run L' => L' = L ∧ run = L.stored.map StoredRun.run) := by
  refine Spec.read ?_ (fun _ _ _ => trivial) fun _ => trivial
  intro w j rep _ held run read
  obtain ⟨cur,found,same⟩ := scanned
  obtain ⟨rfl,_,_⟩ := held
  exact ⟨rfl,run_for_scan_parts rep found (same ▸ read)⟩

theorem listIntents_spec {x : StoredRun} (stored : L.stored = some x) :
    Spec s lease seed L (s.read fun w => w.listIntents s.d s.access x.run.strategyRunId)
      (Ends Ordinary fun intents L' => L' = L ∧ intents = L.intents) := by
  refine Spec.read ?_ (fun w => plain_intents _ _ w _) interruption_ordinary
  intro w j rep _ held intents read
  obtain ⟨rfl,_,_⟩ := held
  exact ⟨rfl,list_intents_parts rep stored read⟩

theorem lookup_spec : Spec s lease seed L (s.read fun w => w.getByLockKey s.d s.access s.scanRequest)
    (Ends (fun _ => True) fun found L' => L' = L ∧ found = L.scan ∧
      ∀ scan, found = some scan → scan.rotationPlanId = s.scanRequest.plan.rotationPlanId) := by
  refine Spec.read ?_ (fun _ _ _ => trivial) fun _ => trivial
  intro w j rep _ held found read
  obtain ⟨rfl,_,_⟩ := held
  obtain ⟨same,own⟩ := lookup_parts rep read
  exact ⟨rfl,same,own⟩

theorem createScan_spec (absent : L.scan = none) : Spec s lease seed L s.createScan
    (Ends (fun _ => True) fun scan L' => L' = {L with scan := some scan} ∧ scan.status = .running ∧
      scan.rotationPlanId = s.scanRequest.plan.rotationPlanId) := by
  refine Spec.perform ?_ (fun _ _ _ _ => trivial) fun _ => trivial
  intro input w j rep lawful held scan w' facts did
  have holds := held.holds
  obtain ⟨rfl,_,single⟩ := held
  simp only [bind_ok,pure_ok,Prod.mk.injEq] at did
  obtain ⟨_,created,rfl,rfl,rfl⟩ := did
  obtain ⟨fresh,running,keyed,own,rep'⟩ := create_scan_parts rep lawful absent created
  simp only [Session.scanLockKey,fresh,if_true]
  exact ⟨rep' s.thread,note_lawful single lawful ⟨holds,absent,running,keyed⟩,rfl,rfl,running,own⟩

-- Building the attempt and storing it: what is asked of the fields is asked of the attempt.
theorem recordAttempt_spec {build : Input → Stores → AttemptFields} (scanned : Scanned scan L)
    (own : ∀ input w, (build input w).logicalScanRunId = scan.logicalScanRunId)
    (legal : ∀ input w a, a.toAttemptFields = build input w →
      (∀ id, a.finalStrategyRunId = some id → ∃ x, L.stored = some x ∧ x.run.strategyRunId = id) →
      LegalAttempt s.self L a) :
    Spec s lease seed L (s.recordAttempt build) (Ends (fun _ => True) fun a L' =>
      L' = {L with attempts := L.attempts ++ [a]} ∧ ∃ input w, a.toAttemptFields = build input w) := by
  refine Spec.perform ?_ (fun _ _ _ _ => trivial) fun _ => trivial
  intro input w j rep lawful held a w' facts did
  have holds := held.holds
  obtain ⟨rfl,_,single⟩ := held
  simp only [bind_ok,pure_ok,Prod.mk.injEq] at did
  obtain ⟨_,created,_,recorded,rfl,rfl,rfl⟩ := did
  have fields := create_fields created
  obtain ⟨cur,found,same⟩ := scanned
  obtain ⟨final,rep'⟩ := record_attempt_parts rep.next lawful found
    (by rw [fields]; exact (own input w).trans same.symm) recorded
  exact ⟨rep' s.thread,note_lawful single lawful ⟨holds,legal input w _ fields final⟩,rfl,rfl,
    input,w,fields⟩

theorem attach_spec {run : StrategyRun} (scanned : Scanned scan L) :
    Spec s lease seed L (s.attachFinalStrategyRun plan scan run)
      (Ends (fun _ => True) fun completed L' => L' = {L with scan := some completed} ∧ L'.completed) := by
  refine Spec.perform ?_ (fun _ _ _ _ => trivial) fun _ => trivial
  intro input w j rep lawful held completed w' facts did
  have holds := held.holds
  obtain ⟨rfl,_,single⟩ := held
  simp only [bind_ok,pure_ok,Prod.mk.injEq] at did
  obtain ⟨_,attached,rfl,rfl,rfl⟩ := did
  obtain ⟨cur,found,same⟩ := scanned
  rw [← same] at attached
  obtain ⟨finishes,rep'⟩ := attach_parts rep lawful found attached
  obtain ⟨_,_,_,_,_,_,_,_,done,_⟩ := id finishes
  exact ⟨rep' s.thread,note_lawful single lawful ⟨holds,finishes⟩,rfl,rfl,_,rfl,done⟩

-- The accepted write replaces the very record it was computed over.
theorem recordTransition_spec {previous : RecommendationStateRecord} {next : RecommendationState × Bool}
    {fence : Option (UUID × Digest)} (seeded : Seeded seed)
    (move : ∀ updated : RecommendationStateRecord, updated.rotationPlanId = plan.rotationPlanId →
      updated.pair = next → updated.finalizationStrategyRunId = fence.map (·.1) →
      updated.finalizationStrategyKey = fence.map (·.2) →
      Degrades s.self L previous updated ∨ Applies L previous updated) :
    Spec s lease seed L (s.recordTransition plan previous next fence) (Ends Ordinary fun updated L' =>
      L' = L.enter (some s.thread) (.transitioned previous updated) ∧
        updated.finalizationStrategyRunId = fence.map (·.1)) := by
  refine Spec.perform ?_ ?_ interruption_ordinary
  · intro input w j rep lawful held updated w' facts did
    have holds := held.holds
    obtain ⟨rfl,_,single⟩ := held
    simp only [bind_ok,pure_ok,Prod.mk.injEq] at did
    obtain ⟨_,recorded,rfl,rfl,rfl⟩ := did
    obtain ⟨current,fields,rep'⟩ := record_transition_parts rep recorded
    have own : _ = plan.rotationPlanId := congrArg RecordFields.rotationPlanId fields
    have run := congrArg RecordFields.finalizationStrategyRunId fields
    have status := congrArg RecordFields.legacyFinalizationClaimStatus fields
    have claimedRun := congrArg RecordFields.legacyFinalizationStrategyRunId fields
    have claimedKey := congrArg RecordFields.legacyFinalizationStrategyKey fields
    refine ⟨rep' s.thread _,note_lawful single lawful ⟨holds,?_⟩,?_,rfl,run⟩
    · exact ⟨by rw [own]; exact current,(record_plan lawful seeded current).trans own.symm,
        congrArg RecordFields.revision fields,status,claimedRun,claimedKey,
        move _ own (congrArg RecordFields.pair fields) run (congrArg RecordFields.finalizationStrategyKey fields)⟩
    · simp only [ScanLedger.after,List.foldr_cons,List.foldr_nil,enter_holder]
  · exact fun input w => plain_bind (plain_transition _ _ w _ _ _ _ _) fun _ => plain_ok _

-- The record is read, or created and then read; what was learned is entered on top.
theorem getOrCreateState_serves {learned : RecommendationStateRecord → List Fact}
    {good : RecommendationStateRecord → ScanLedger → Prop}
    (learns : ∀ w j record, Represents seed w j → Lawful (Legal s.self seed) j → Held s lease L ⟨w,j⟩ →
      recordOf seed plan.rotationPlanId j = some record → Represents seed w (s.note (learned record) j) ∧
        Lawful (Legal s.self seed) (s.note (learned record) j) ∧
        (L.after s.thread (learned record)).holder = L.holder ∧ good record (L.after s.thread (learned record))) :
    Spec s lease seed L (s.getOrCreateState plan learned) (Ends Ordinary good) := by
  refine Spec.perform ?_ ?_ interruption_ordinary
  · intro input w j rep lawful held record w' facts did
    simp only [bind_ok,pure_ok,Prod.mk.injEq] at did
    obtain ⟨⟨value,stores⟩,read,rfl,rfl,rfl⟩ := did
    rcases get_or_create_parts rep read with ⟨present,same,found⟩ | ⟨absent,missing,created,rep'⟩
    · subst same
      rw [present]
      simp only [Bool.false_eq_true,if_false,List.append_nil]
      exact learns _ j _ rep lawful held found
    · rw [absent]
      simp only [if_true]
      have fact : LegalFact s.self seed ⟨some s.thread,s.scanLockKey,.stateCreated value⟩ j (.stateCreated value) := by
        subst created
        exact ⟨held.holds,missing,rfl,rfl⟩
      have lawful' := note_lawful held.single lawful fact
      have held' : Held s lease L ⟨stores,s.note [.stateCreated value] j⟩ :=
        ⟨by rw [ledger_note,held.books]; rfl,held.holder,note_single _ held.single⟩
      have found : recordOf seed plan.rotationPlanId (s.note [.stateCreated value] j) = some value := by
        subst created
        exact if_pos rfl
      have entered := learns _ _ _ (rep' s.thread s.scanLockKey) lawful' held' found
      have noted : s.note (learned value ++ [.stateCreated value]) j =
          s.note (learned value) (s.note [.stateCreated value] j) := by
        simp only [Session.note,List.map_append,List.append_assoc]
      have after : L.after s.thread (learned value ++ [.stateCreated value]) = L.after s.thread (learned value) := by
        simp only [ScanLedger.after,List.foldr_append,List.foldr_cons,List.foldr_nil,ScanLedger.enter]
      rw [noted,after]
      exact entered
  · exact fun input w => plain_bind (plain_get_or_create _ _ w _ _) fun _ => plain_ok _

-- One quiet fact on top of the record that was read.
theorem learn_one {w : Stores} {j : Log} {fact : Fact} (rep : Represents seed w j)
    (lawful : Lawful (Legal s.self seed) j) (held : Held s lease L ⟨w,j⟩) (quiet : fact.quiet = true)
    (legal : LegalFact s.self seed ⟨some s.thread,s.scanLockKey,fact⟩ j fact) :
    Represents seed w (s.note [fact] j) ∧ Lawful (Legal s.self seed) (s.note [fact] j) ∧
      (L.after s.thread [fact]).holder = L.holder := by
  refine ⟨rep.quietly quiet,note_lawful held.single lawful legal,?_⟩
  simp only [ScanLedger.after,List.foldr_cons,List.foldr_nil,enter_holder]
  cases fact <;> first | rfl | cases quiet

theorem readState_spec (seeded : Seeded seed) : Spec s lease seed L (s.getOrCreateState plan fun _ => [])
    (Ends Ordinary fun record L' => L' = L ∧ record.rotationPlanId = plan.rotationPlanId) :=
  getOrCreateState_serves fun _ _ _ rep lawful _ found => ⟨rep,lawful,rfl,rfl,record_plan lawful seeded found⟩

theorem evaluatedFrom_spec (seeded : Seeded seed) (unstored : L.stored = none) (idle : L.phase = .idle) :
    Spec s lease seed L (s.getOrCreateState plan fun record => [.evaluatedFrom record])
      (Ends Ordinary fun record L' => L' = {L with phase := .evaluated record}) := by
  refine getOrCreateState_serves fun w j record rep lawful held found => ?_
  have own := record_plan lawful seeded found
  have legal : LegalFact s.self seed ⟨some s.thread,s.scanLockKey,.evaluatedFrom record⟩ j (.evaluatedFrom record) :=
    ⟨held.holds,by rw [held.books]; exact unstored,by rw [held.books]; exact idle,by rw [own]; exact found⟩
  obtain ⟨rep',lawful',holder⟩ := learn_one rep lawful held rfl legal
  exact ⟨rep',lawful',holder,rfl⟩

theorem adjudicated_spec {x : StoredRun} (stored : L.stored = some x) (own : x.candidate.plan = plan)
    (unfinished : ¬ L.completed) (undecided : ∀ a ∈ L.attempts, a.finalizationDisposition ≠ some .applied)
    (first : L.phase = .idle ∨ ∃ source, L.phase = .evaluated source) :
    Spec s lease seed L (s.getOrCreateState plan fun record => [.adjudicated record])
      (Ends Ordinary fun record L' => L' = {L with phase := .adjudicated record} ∧
        (Unclaimed seed → ¬ Claimed record)) := by
  refine getOrCreateState_serves fun w j record rep lawful held found => ?_
  subst own
  have legal : LegalFact s.self seed ⟨some s.thread,s.scanLockKey,.adjudicated record⟩ j (.adjudicated record) :=
    ⟨held.holds,⟨x,by rw [held.books]; exact stored,found⟩,by rw [held.books]; exact unfinished,
      by rw [held.books]; exact undecided,by rw [held.books]; exact first⟩
  obtain ⟨rep',lawful',holder⟩ := learn_one rep lawful held rfl legal
  exact ⟨rep',lawful',holder,rfl,fun unclaimed => record_unclaimed lawful unclaimed found⟩

theorem recordIntent_spec {x : StoredRun} (stored : L.stored = some x) (notifies : x.notifies = true)
    (owed : L.phase = .written ∨ ∃ current, L.phase = .adjudicated current ∧ Fenced x current) :
    Spec s lease seed L (s.recordIntent (intentOf s.d x)) (Ends Ordinary fun _ L' =>
      L' = {L with intents := L'.intents} ∧ L'.intents ≠ []) := by
  refine Spec.perform ?_ ?_ interruption_ordinary
  · intro input w j rep lawful held intent w' facts did
    have holds := held.holds
    obtain ⟨rfl,_,single⟩ := held
    simp only [bind_ok,pure_ok,Prod.mk.injEq] at did
    obtain ⟨⟨value,stores⟩,recorded,rfl,rfl,rfl⟩ := did
    rcases record_intent_parts rep lawful stored notifies recorded with ⟨known,same,some'⟩ | ⟨absent,none',rep'⟩
    · rw [Session.d,known]
      exact ⟨same ▸ rep,lawful,rfl,rfl,some'⟩
    · rw [Session.d,absent]
      have fact : LegalFact s.self seed ⟨some s.thread,s.scanLockKey,.intentStored (intentOf s.self.deployment x)⟩ j
          (.intentStored (intentOf s.self.deployment x)) := ⟨holds,⟨x,stored,notifies,rfl,owed⟩,none'⟩
      refine ⟨rep' s.thread,note_lawful single lawful fact,rfl,rfl,?_⟩
      exact List.append_ne_nil_of_right_ne_nil _ (List.cons_ne_nil _ _)
  · exact fun input w => plain_bind (plain_intent _ _ w _) fun _ => plain_ok _

theorem readPosition_spec {positionId : UUID} : Spec s lease seed L (s.perform fun input w => do
      let position ← getPosition s.d s.access input.positions positionId
      pure (position,w,[.positionRead positionId position]))
    (Ends (fun _ => True) fun position L' => L' = {L with positions := (positionId,position) :: L.positions}) := by
  refine Spec.perform ?_ (fun _ _ _ _ => trivial) fun _ => trivial
  intro input w j rep lawful held position w' facts did
  simp only [bind_ok,pure_ok,Prod.mk.injEq] at did
  obtain ⟨value,_,rfl,rfl,rfl⟩ := did
  have fact : LegalFact s.self seed ⟨some s.thread,s.scanLockKey,.positionRead positionId value⟩ j
      (.positionRead positionId value) := held.holds
  obtain ⟨rep',lawful',holder⟩ := learn_one rep lawful held rfl fact
  exact ⟨rep',lawful',holder,rfl⟩

theorem askProvider_spec (unstored : L.stored = none) (counted : L.provided < L.running) :
    Spec s lease seed L (s.perform fun input w => pure (input.provider,w,[.providerCalled]))
      (Ends (fun _ => True) fun _ L' => L' = {L with provided := L.provided + 1}) := by
  refine Spec.perform ?_ (fun _ _ _ _ => trivial) fun _ => trivial
  intro input w j rep lawful held answer w' facts did
  simp only [pure_ok,Prod.mk.injEq] at did
  obtain ⟨rfl,rfl,rfl⟩ := did
  have fact : LegalFact s.self seed ⟨some s.thread,s.scanLockKey,.providerCalled⟩ j .providerCalled :=
    ⟨held.holds,by rw [held.books]; exact unstored,by rw [held.books]; exact counted⟩
  obtain ⟨rep',lawful',holder⟩ := learn_one rep lawful held rfl fact
  exact ⟨rep',lawful',holder,rfl⟩

theorem askEvaluator_spec : Spec s lease seed L (s.perform fun input w => pure (input.evaluator,w,[]))
    (Ends (fun _ => True) fun _ L' => L' = L) := by
  refine Spec.perform ?_ (fun _ _ _ _ => trivial) fun _ => trivial
  intro input w j rep lawful held answer w' facts did
  simp only [pure_ok,Prod.mk.injEq] at did
  obtain ⟨rfl,rfl,rfl⟩ := did
  exact ⟨rep,lawful,rfl,rfl⟩

-- What a build is given, but for the clock and the new id.
def candidateOf (s : Session) (plan : RotationPlan) (snapshot : MarketDataSnapshot)
    (source : RecommendationStateRecord) (evaluation : RotationEvaluation) (position : Option Position)
    (quantity : Option Quantity) (now : Instant) (id : UUID) : Candidate :=
  ⟨plan,snapshot,s.request.configurationSnapshot,s.scanLockKey,
    (FinalStrategyIdentity.fromSnapshot s.scanLockKey snapshot).key s.d,now,id,source,evaluation,position,quantity⟩

-- A refused build changes nothing; what is stored is a run under a fresh id.
theorem recordBuiltRun_spec {snapshot : MarketDataSnapshot} {source : RecommendationStateRecord}
    {evaluation : RotationEvaluation} {position : Option Position} {quantity : Option Quantity}
    (found : L.scan = some scan) (unstored : L.stored = none) (attempted : L.attempts ≠ [])
    (phase : L.phase = .evaluated source)
    (authorized : s.self.rotationPlans plan.rotationPlanId = some plan)
    (checked : ∀ now id, SaleChecked L (candidateOf s plan snapshot source evaluation position quantity now id)) :
    Spec s lease seed L (s.recordBuiltRun plan scan snapshot (.fromSnapshot s.scanLockKey snapshot) source evaluation
        position quantity) (Ends (fun _ => True) fun recorded L' =>
      (∃ error, recorded = .error error ∧ L' = L) ∨ ∃ x : StoredRun, recorded = .ok x.run ∧
        x.candidate.plan = plan ∧ x.identity = .fromSnapshot s.scanLockKey snapshot ∧ x.Keyed s.d ∧
        L' = {L with stored := some x,author := some s.thread}) := by
  refine Spec.perform ?_ (fun _ _ _ _ => trivial) fun _ => trivial
  intro input w j rep lawful held recorded w' facts did
  have holds := held.holds
  obtain ⟨rfl,_,single⟩ := held
  dsimp only at did
  split at did
  · simp only [pure_ok,Prod.mk.injEq] at did
    obtain ⟨rfl,rfl,rfl⟩ := did
    exact ⟨rep,lawful,rfl,.inl ⟨_,rfl,rfl⟩⟩
  · rename_i prepared built
    simp only [bind_ok,pure_ok,Prod.mk.injEq] at did
    obtain ⟨⟨value,stores⟩,stored,rfl,rfl,rfl⟩ := did
    let x : StoredRun := ⟨_,prepared,built⟩
    have fresh : x.run.strategyRunId = w.nextUuid := x.run_fields.1
    obtain ⟨same,absent,own,rep'⟩ := record_run_parts (s := x) rep lawful found unstored fresh stored
    rw [absent]
    have legal : LegalRun s.self s.scanLockKey j x :=
      ⟨unstored,⟨scan,found,own⟩,attempted,phase,authorized,rfl,rfl,
        fun other x' known => fresh ▸ Nat.ne_of_lt (rep.runs.freshStored other x' known),checked _ _⟩
    exact ⟨rep' s.thread,note_lawful single lawful ⟨holds,legal⟩,rfl,
      .inr ⟨x,by rw [same],rfl,rfl,rfl,rfl⟩⟩

end Specs
end SwapMonitor
