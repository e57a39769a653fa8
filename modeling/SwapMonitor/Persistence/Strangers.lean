import SwapMonitor.Persistence.Isolation

namespace SwapMonitor
open Function (update update_self update_of_ne)
open Exceptions Stores

namespace Repositories
variable {d : Deployment} {userId actor : UUID} {taken : List Identifier} {r r' : Repositories}

-- The same reply, and repositories that still differ only so.
def Matching (d : Deployment) (userId : UUID) (taken : List Identifier) (x y : Reply × Repositories) : Prop :=
  x.1 = y.1 ∧ Alike d userId taken x.2 y.2

def Paired (d : Deployment) (userId : UUID) (taken : List Identifier) (r r' : Repositories) (x y : α × Stores) : Prop :=
  x.1 = y.1 ∧ Alike d userId taken {r with stores := x.2} {r' with stores := y.2}

theorem reading_agrees {α : Type} {reply : α → Reply} {x y : Except PyError α} (alike : Alike d userId taken r r') (same : x = y) :
    Agree (Matching d userId taken) (reading r reply x) (reading r' reply y) := by
  subst same
  cases x with
  | ok value => exact .returned ⟨rfl,alike⟩
  | error error => exact .raised error

theorem within_agrees {α : Type} {reply : α → Reply} {x y : Except PyError (α × Stores)} (agree : Agree (Paired d userId taken r r') x y) :
    Agree (Matching d userId taken) (within r reply x) (within r' reply y) := by
  refine agree_map ?_
  cases agree with
  | returned paired => exact .returned ⟨congrArg reply paired.1,paired.2⟩
  | raised error => exact .raised error

theorem plan_agrees {plan : RotationPlan} (alike : Alike d userId taken r r') :
    Agree (Matching d userId taken) ((r.addPlan d (tenant actor) plan).map fun next => (Reply.done,next))
      ((r'.addPlan d (tenant actor) plan).map fun next => (Reply.done,next)) := by
  refine agree_map ?_
  have groups : ∀ owner, r.foreignGroup owner plan = r'.foreignGroup owner plan := by
    intro owner
    rw [foreignGroup,foreignGroup,alike.groups]
  have positions : r.foreignPosition plan = r'.foreignPosition plan := by
    rw [foreignPosition,foreignPosition,alike.portfolios]
  unfold addPlan
  simp only [groups,positions]
  exact agree_check fun owner _ => agree_check fun _ _ => agree_check fun _ _ =>
    .returned ⟨rfl,{alike with plans := same_update _ plan alike.plans}⟩

section Calls
variable (alike : Alike d userId taken r r') (apart : actor ≠ userId)
include alike apart

theorem position_agrees {position : Position} (unnamed : Identifier.position position.positionId ∉ taken) :
    Agree (Matching d userId taken) ((r.addPosition d (tenant actor) position).map fun next => (Reply.done,next))
      ((r'.addPosition d (tenant actor) position).map fun next => (Reply.done,next)) := by
  refine agree_map ?_
  unfold addPosition
  refine agree_check fun owner allowed => ?_
  have listed := portfolio_positions alike apart (checked_owned allowed)
  have opens : r.secondOpen position = r'.secondOpen position := by
    have inside : ∀ positions : List Position, (positions.any fun stored => stored.status == .opened &&
        stored.portfolioId == position.portfolioId && stored.instrument == position.instrument &&
        stored.positionId != position.positionId) =
        (positions.filter (·.portfolioId == position.portfolioId)).any fun stored => stored.status == .opened &&
          stored.portfolioId == position.portfolioId && stored.instrument == position.instrument &&
          stored.positionId != position.positionId := by
      intro positions
      rw [List.any_filter]
      refine List.any_congr rfl fun stored => ?_
      cases stored.portfolioId == position.portfolioId <;> simp
    rw [secondOpen,secondOpen,inside r.positions,inside r'.positions,listed]
  rw [opens]
  refine agree_check fun _ _ => .returned ⟨rfl,{alike with positions := ?_,theirs := ?_}⟩
  · rw [elsewhere_put taken r.positions unnamed,elsewhere_put taken r'.positions unnamed]
    exact same_put alike.positions position
  · have put : ∀ positions : List Position, ∀ p ∈ putPosition positions position, p = position ∨ p ∈ positions := by
      intro positions p member
      unfold putPosition at member
      split at member
      · obtain ⟨stored,old,same⟩ := List.mem_map.mp member
        split at same
        · exact .inl same.symm
        · exact .inr (same ▸ old)
      · simpa [or_comm] using member
    intro p member named
    have old : p ≠ position := by
      rintro rfl
      exact unnamed named
    rcases List.mem_append.mp member with left | right
    · exact alike.theirs p (List.mem_append_left _ ((put _ p left).resolve_left old)) named
    · exact alike.theirs p (List.mem_append_right _ ((put _ p right).resolve_left old)) named

theorem state_agrees {plan : RotationPlan} {createdAt : Instant} (unnamed : Identifier.state plan.rotationPlanId ∉ taken) :
    Agree (Paired d userId taken r r') (r.stores.getOrCreateState d (tenant actor) plan createdAt)
      (r'.stores.getOrCreateState d (tenant actor) plan createdAt) := by
  unfold getOrCreateState
  refine agree_check fun owner allowed => ?_
  rcases (alike.records plan.rotationPlanId).resolve_left unnamed with same | ⟨u,v,found,found',mine,yours⟩
  · rw [same]
    cases r'.stores.records plan.rotationPlanId with
    | none => exact .returned ⟨rfl,{alike with records := same_update _ _ alike.records}⟩
    | some existing => exact agree_check fun _ _ => .returned ⟨rfl,alike⟩
  · have left := owned_differ mine (checked_owned allowed) apart
    have right := owned_differ yours (checked_owned allowed) apart
    simp only [found,found',left,right,ne_eq,not_false_eq_true,decide_true]
    exact .raised _

theorem transition_agrees {plan : RotationPlan} {previous : RecommendationStateRecord} {next : RecommendationState × Bool}
    {changedAt : Instant} {runId : Option UUID} {key : Option Digest} (own : previous.portfolioId = plan.portfolioId)
    (unnamed : Identifier.state plan.rotationPlanId ∉ taken) :
    Agree (Paired d userId taken r r') (r.stores.transition d (tenant actor) plan previous next changedAt runId key)
      (r'.stores.transition d (tenant actor) plan previous next changedAt runId key) := by
  unfold Stores.transition
  refine agree_check fun owner allowed => ?_
  rcases (alike.records plan.rotationPlanId).resolve_left unnamed with same | ⟨u,v,found,found',mine,yours⟩
  · rw [same]
    cases r'.stores.records plan.rotationPlanId with
    | none => exact .raised _
    | some stored =>
      exact agree_check fun _ _ => agree_check fun _ _ => agree_check fun updated _ =>
        .returned ⟨rfl,{alike with records := same_update _ updated alike.records}⟩
  · have differs : ∀ stored : RecommendationStateRecord, Owned d userId stored.portfolioId → previous ≠ stored := by
      rintro _ theirs rfl
      exact owned_differ theirs (checked_owned allowed) apart own
    simp only [found,found',differs u mine,differs v yours,ne_eq,not_false_eq_true,decide_true]
    exact .raised _

theorem scan_agrees {request : ScanLockRequest} {createdAt : Instant} (unnamed : Identifier.lock (request.key d) ∉ taken)
    (fresh : r.stores.scansById r.stores.nextUuid = none) (drawn : r.stores.nextUuid = r'.stores.nextUuid) :
    Agree (Paired d userId taken r r') (r.stores.createOrRecover d (tenant actor) request createdAt)
      (r'.stores.createOrRecover d (tenant actor) request createdAt) := by
  unfold createOrRecover
  refine agree_check fun owner allowed => ?_
  rcases (alike.locks (request.key d)).resolve_left unnamed with same | ⟨u,v,found,found',mine,yours⟩
  · rw [same]
    cases r'.stores.scansByKey (request.key d) with
    | some existing => exact agree_check fun _ _ => .returned ⟨rfl,alike⟩
    | none =>
      have scan : newScan d r.stores request createdAt = newScan d r'.stores request createdAt := by
        simp only [newScan,drawn]
      refine .returned ⟨scan,{alike with scans := ?_,locks := ?_}⟩
      · intro id
        rw [scan]
        by_cases here : id = r'.stores.nextUuid
        · subst here
          rcases alike.scans r'.stores.nextUuid with named | ⟨_,_,linked⟩ | ⟨u,_,found,_⟩
          · exact .inl named
          · exact .inr (.inl ⟨by simp [newScan],by simp [newScan],linked⟩)
          · rw [← drawn,fresh] at found
            cases found
        · simp only [newScan,update_of_ne here]
          exact alike.scans id
      · rw [scan]
        exact same_update _ _ alike.locks
  · have refused : ∀ scan : LogicalScanRun, Owned d userId scan.portfolioId → matchesRequest d scan request = false := by
      intro scan theirs
      have different := owned_differ theirs (checked_owned allowed) apart
      simp [matchesRequest,different]
    simp only [found,found',refused u mine,refused v yours]
    exact .raised _

theorem lock_same {request : ScanLockRequest} (unnamed : Identifier.lock (request.key d) ∉ taken) :
    r.stores.getByLockKey d (tenant actor) request = r'.stores.getByLockKey d (tenant actor) request := by
  unfold getByLockKey
  cases readable : requirePortfolioRead d request.plan.portfolioId (tenant actor) with
  | error error => rfl
  | ok owner =>
    rcases (alike.locks (request.key d)).resolve_left unnamed with same | ⟨u,v,found,found',mine,yours⟩
    · rw [same]
    · have refused : ∀ scan : LogicalScanRun, Owned d userId scan.portfolioId → matchesRequest d scan request = false := by
        intro scan theirs
        have different := owned_differ theirs (readable_owned readable) apart
        simp [matchesRequest,different]
      simp only [found,found',refused u mine,refused v yours]
      rfl

theorem attempts_same {id : UUID} (unnamed : Identifier.scan id ∉ taken) :
    r.stores.listAttempts d (tenant actor) id = r'.stores.listAttempts d (tenant actor) id := by
  unfold listAttempts
  rw [← get_scan_same alike apart unnamed]
  cases read : r.stores.getScan d (tenant actor) id with
  | error error => rfl
  | ok scan =>
    obtain ⟨_,attempts,_⟩ := read_scan_same alike apart unnamed read
    rw [attempts]

theorem final_same {id : UUID} (unnamed : Identifier.scan id ∉ taken) :
    r.stores.getForLogicalScan d (tenant actor) id = r'.stores.getForLogicalScan d (tenant actor) id := by
  unfold getForLogicalScan
  rw [← get_scan_same alike apart unnamed]
  cases read : r.stores.getScan d (tenant actor) id with
  | error error => rfl
  | ok scan =>
    obtain ⟨_,_,linked⟩ := read_scan_same alike apart unnamed read
    rw [linked]

theorem attempt_agrees {attempt : ScanAttempt} (logged : Logged r.stores)
    (unnamed : Identifier.scan attempt.logicalScanRunId ∉ taken) :
    Agree (Paired d userId taken r r') ((r.stores.recordAttempt d (tenant actor) attempt).map fun stores => ((),stores))
      ((r'.stores.recordAttempt d (tenant actor) attempt).map fun stores => ((),stores)) := by
  refine agree_map ?_
  unfold recordAttempt
  rw [← get_scan_same alike apart unnamed]
  refine agree_check fun scan read => ?_
  obtain ⟨stored,attempts,linked⟩ := read_scan_same alike apart unnamed read
  have named := (logged.byId _ _ (scan_found read).1).1
  have referenced : ∀ existing, r.stores.validateAttemptReferences scan attempt existing =
      r'.stores.validateAttemptReferences scan attempt existing := by
    intro existing
    simp only [validateAttemptReferences,validateFinalReference,named,linked]
  simp only [named,attempts,referenced]
  refine agree_check fun _ _ => agree_check fun _ _ => agree_check fun _ _ => agree_check fun _ _ =>
    agree_check fun _ _ => .returned ⟨rfl,{alike with scans := ?_}⟩
  intro id
  by_cases here : id = attempt.logicalScanRunId
  · subst here
    exact .inr (.inl ⟨stored,by simp,linked⟩)
  · simp only [update_of_ne here]
    exact alike.scans id

theorem completion_agrees {scanId runId : UUID} {plan : RotationPlan} {completedAt : Instant}
    (unnamed : Identifier.scan scanId ∉ taken) :
    Agree (Paired d userId taken r r') (r.stores.attachFinalStrategyRun d (tenant actor) scanId plan runId completedAt)
      (r'.stores.attachFinalStrategyRun d (tenant actor) scanId plan runId completedAt) := by
  unfold attachFinalStrategyRun
  rw [← get_scan_same alike apart unnamed]
  refine agree_check fun scan read => ?_
  obtain ⟨_,attempts,linked⟩ := read_scan_same alike apart unnamed read
  rw [attempts,linked]
  refine agree_check fun _ _ => agree_check fun _ _ => agree_check fun _ _ => agree_check fun _ _ =>
    agree_check fun _ _ => agree_check fun completed _ => .returned ⟨rfl,{alike with scans := ?_,locks := ?_}⟩
  · intro id
    by_cases here : id = scanId
    · subst here
      exact .inr (.inl ⟨by simp,attempts,linked⟩)
    · simp only [update_of_ne here]
      exact alike.scans id
  · exact same_update _ _ alike.locks

theorem run_agrees {plan : RotationPlan} {run : StrategyRun} {key : Digest} {scanId : Option UUID}
    (unnamed : Identifier.runKey plan.rotationPlanId key ∉ taken) (unscanned : ∀ id, scanId = some id → .scan id ∉ taken) :
    Agree (Paired d userId taken r r') (r.stores.recordOrGet d (tenant actor) plan run key scanId)
      (r'.stores.recordOrGet d (tenant actor) plan run key scanId) := by
  have keyed := (alike.runKeys plan.rotationPlanId key).resolve_left unnamed
  cases stored : r.stores.runsByKey (plan.rotationPlanId,key) with
  | some existing =>
    have stored' := keyed.1.symm.trans stored
    simp only [recordOrGet,stored,stored',keyed.2]
    exact agree_check fun _ _ => agree_check fun _ _ => agree_check fun _ _ => .returned ⟨rfl,alike⟩
  | none =>
    rw [stored_when_free _ _ _ stored,stored_when_free _ _ _ (keyed.1.symm.trans stored)]
    refine agree_check fun _ _ => agree_check fun _ _ => ?_
    have opened : r.stores.requireOpenScan d (tenant actor) plan scanId =
        r'.stores.requireOpenScan d (tenant actor) plan scanId := by
      cases scanId with
      | none => rfl
      | some id =>
        simp only [requireOpenScan]
        rw [← get_scan_same alike apart (unscanned id rfl)]
        cases read : r.stores.getScan d (tenant actor) id with
        | error error => rfl
        | ok scan =>
          obtain ⟨_,_,linked⟩ := read_scan_same alike apart (unscanned id rfl) read
          rw [linked]
    rw [opened]
    refine agree_check fun _ passed => .returned ⟨rfl,{alike with scans := ?_,runKeys := ?_,runs := ?_}⟩
    · intro id
      cases scanId with
      | none => exact alike.scans id
      | some scanned =>
        by_cases here : id = scanned
        · subst here
          rw [← opened,requireOpenScan] at passed
          obtain ⟨scan,read,_⟩ := bind_ok.mp passed
          obtain ⟨same,attempts,_⟩ := read_scan_same alike apart (unscanned id rfl) read
          exact .inr (.inl ⟨same,attempts,by simp [storing]⟩)
        · simp only [storing,update_of_ne here]
          exact alike.scans id
    · intro id other
      by_cases here : (id,other) = (plan.rotationPlanId,key)
      · cases here
        exact .inr ⟨by simp [storing],by simp [storing]⟩
      · simp only [storing,update_of_ne here]
        exact alike.runKeys id other
    · exact same_update _ run alike.runs

theorem intent_agrees {intent : ChildIntent} (unnamed : Identifier.run intent.strategyRunId ∉ taken)
    (unkeyed : Identifier.intent intent.intentKey ∉ taken) :
    Agree (Paired d userId taken r r') (r.stores.recordOrGetIntent d (tenant actor) intent)
      (r'.stores.recordOrGetIntent d (tenant actor) intent) := by
  unfold recordOrGetIntent
  refine agree_check fun owner allowed => ?_
  rcases (alike.runs intent.strategyRunId).resolve_left unnamed with same | ⟨u,v,found,found',mine,yours⟩
  · have stored : r.stores.intentsByKey intent.intentKey = r'.stores.intentsByKey intent.intentKey :=
      (alike.intents intent.intentKey).resolve_right fun named => unkeyed named.1
    rw [same,stored]
    cases r'.stores.runsById intent.strategyRunId with
    | none => exact .raised _
    | some strategyRun =>
      refine agree_check fun _ _ => agree_check fun _ _ => ?_
      cases r'.stores.intentsByKey intent.intentKey with
      | some existing => exact agree_check fun _ _ => agree_check fun _ _ => .returned ⟨rfl,alike⟩
      | none =>
        refine .returned ⟨rfl,{alike with intents := ?_,lists := ?_}⟩
        · intro key
          by_cases here : key = intent.intentKey
          · subst here
            exact .inl (by simp)
          · simp only [update_of_ne here]
            exact alike.intents key
        · intro id
          by_cases here : id = intent.strategyRunId
          · subst here
            refine (alike.lists intent.strategyRunId).imp_right fun listed => ?_
            simp [listed]
          · simp only [update_of_ne here]
            exact alike.lists id
  · have left := owned_differ mine (checked_owned allowed) apart
    have right := owned_differ yours (checked_owned allowed) apart
    simp only [found,found',left,right,ne_eq,not_false_eq_true,or_true,decide_true]
    exact .raised _

omit apart in
theorem intents_same {id : UUID} (keyed : Keyed r'.stores) (unnamed : Identifier.intentsOf id ∉ taken) :
    r.stores.listIntents d (tenant actor) id = r'.stores.listIntents d (tenant actor) id := by
  have listed := (alike.lists id).resolve_left unnamed
  have found : (r.stores.intentKeysByStrategyRun id).filterMap r.stores.intentsByKey =
      (r'.stores.intentKeysByStrategyRun id).filterMap r'.stores.intentsByKey := by
    rw [listed]
    refine List.filterMap_congr fun key member => ?_
    rcases alike.intents key with same | ⟨_,absent⟩
    · exact same
    · have stored := keyed id key member
      rw [absent] at stored
      cases stored
  unfold listIntents
  rw [found]

end Calls

-- Whatever a stranger calls without naming what the other took, it learns nothing of the difference.
theorem stranger_agrees {operation : Operation} (alike : Alike d userId taken r r') (apart : actor ≠ userId)
    (sound : Sound r.stores) (sound' : Sound r'.stores) (fresh : r.stores.scansById r.stores.nextUuid = none)
    (drawn : r.stores.nextUuid = r'.stores.nextUuid) (own : operation.Own)
    (unnamed : ∀ identifier ∈ operation.names d, identifier ∉ taken) :
    Agree (Matching d userId taken) (r.perform d (tenant actor) operation) (r'.perform d (tenant actor) operation) := by
  cases operation with
  | addPosition position => exact position_agrees alike apart (unnamed _ (List.mem_singleton.mpr rfl))
  | getPosition id =>
    have named := unnamed _ (List.mem_singleton.mpr rfl)
    refine reading_agrees alike ?_
    rw [getPosition_reads,getPosition_reads]
    have same := same_found alike.positions id
    rw [find_elsewhere taken _ named,find_elsewhere taken _ named] at same
    exact same_read apart same
  | listPositions portfolioId =>
    refine reading_agrees alike ?_
    unfold listPositions
    cases readable : requirePortfolioRead d portfolioId (tenant actor) with
    | error error => rfl
    | ok owner => rw [portfolio_positions alike apart (readable_owned readable)]
  | addPlan plan => exact plan_agrees alike
  | getPlan id =>
    refine reading_agrees alike ?_
    rw [getPlan_reads,getPlan_reads]
    exact same_read apart ((alike.plans id).resolve_left (unnamed _ (List.mem_singleton.mpr rfl)))
  | getOrCreateState plan createdAt =>
    exact within_agrees (state_agrees alike apart (unnamed _ (List.mem_singleton.mpr rfl)))
  | getState id =>
    refine reading_agrees alike ?_
    rw [getState_reads,getState_reads]
    exact same_read apart ((alike.records id).resolve_left (unnamed _ (List.mem_singleton.mpr rfl)))
  | recordTransition plan previous =>
    exact within_agrees (transition_agrees alike apart own (unnamed _ (List.mem_singleton.mpr rfl)))
  | createOrRecover request createdAt =>
    exact within_agrees (scan_agrees alike apart (unnamed _ (List.mem_singleton.mpr rfl)) fresh drawn)
  | getByLockKey request => exact reading_agrees alike (lock_same alike apart (unnamed _ (List.mem_singleton.mpr rfl)))
  | getScan id => exact reading_agrees alike (get_scan_same alike apart (unnamed _ (List.mem_singleton.mpr rfl)))
  | recordAttempt attempt =>
    rw [perform,perform]
    exact within_agrees (attempt_agrees alike apart sound.logged (unnamed _ (List.mem_singleton.mpr rfl)))
  | listAttempts id => exact reading_agrees alike (attempts_same alike apart (unnamed _ (List.mem_singleton.mpr rfl)))
  | attachFinalStrategyRun id plan runId completedAt =>
    exact within_agrees (completion_agrees alike apart (unnamed _ (List.mem_singleton.mpr rfl)))
  | recordOrGetRun plan run key scanId =>
    refine within_agrees (run_agrees alike apart (unnamed _ (by simp [Operation.names])) ?_)
    rintro id rfl
    exact unnamed _ (by simp [Operation.names])
  | getForLogicalScan id => exact reading_agrees alike (final_same alike apart (unnamed _ (List.mem_singleton.mpr rfl)))
  | recordOrGetIntent intent =>
    exact within_agrees (intent_agrees alike apart (unnamed _ (by simp [Operation.names])) (unnamed _ (by simp [Operation.names])))
  | getIntent key =>
    have named := unnamed _ (List.mem_singleton.mpr rfl)
    refine reading_agrees alike ?_
    rw [getIntent_reads,getIntent_reads,(alike.intents key).resolve_right fun taken => named taken.1]
  | listIntents id =>
    exact reading_agrees alike (intents_same alike sound'.keyed (unnamed _ (List.mem_singleton.mpr rfl)))

end Repositories

end SwapMonitor
