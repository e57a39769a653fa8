import SwapMonitor.Guarantees.AdapterRefinement
import SwapMonitor.Persistence.Growth

namespace SwapMonitor
open Exceptions Relational

variable {e : Engine} {seen current after : Database} {earlier : List Database} {log : List ServedCall} {planId : UUID}

-- A transition of the plan that was accepted: the record it was computed from, and the record it wrote.
def ServedCall.transition (planId : UUID) (served : ServedCall) : Option (RecommendationStateRecord × RecommendationStateRecord) :=
  match served.request.call,served.answer with
  | .recordTransition plan previous _ _ _ _,.ok (.record updated) =>
    if plan.rotationPlanId = planId then some (previous,updated) else none
  | _,_ => none

-- The accepted transitions of a plan, the latest first.
def transitions (planId : UUID) (log : List ServedCall) : List (RecommendationStateRecord × RecommendationStateRecord) :=
  log.filterMap (·.transition planId)

-- The record the tables hold for a plan.
def Database.Holds (db : Database) (planId : UUID) (record : RecommendationStateRecord) : Prop :=
  ∃ row, db.state planId = some row ∧ recommendationStateFromModel row = .ok record

-- One line of revisions, whatever the sessions had read.
structure RecordHistory (planId : UUID) (log : List ServedCall) (current : Database) : Prop where
  chained : (transitions planId log).IsChain fun later sooner => later.1 = sooner.2
  latest : ∀ previous updated rest, transitions planId log = (previous,updated) :: rest → current.Holds planId updated
  oldest : ∀ previous updated, (transitions planId log).getLast? = some (previous,updated) →
    ∃ plan createdAt, previous = Stores.idleRecord plan createdAt
  unwritten : transitions planId log = [] → ∀ record, current.Holds planId record → ∃ plan createdAt, record = Stores.idleRecord plan createdAt
  counted : ∀ row, current.state planId = some row → row.revision = (transitions planId log).length
  numbered : (transitions planId log).map (·.1.revision) = (List.range (transitions planId log).length).reverse

theorem record_read {row : RecommendationStateModel} {record : RecommendationStateRecord}
    (restored : recommendationStateFromModel row = .ok record) : record.revision = row.revision := by
  simp only [recommendationStateFromModel,bind_ok] at restored
  obtain ⟨_,_,_,_,created⟩ := restored
  exact congrArg RecordFields.revision (record_fields created)

theorem held_once {record record' : RecommendationStateRecord} (held : current.Holds planId record) (held' : current.Holds planId record') :
    record = record' := by
  obtain ⟨row,found,restored⟩ := held
  obtain ⟨row',found',restored'⟩ := held'
  obtain rfl := Option.some.inj (found.symm.trans found')
  exact Except.ok.inj (restored.symm.trans restored')

-- Five columns tell whether the record is still the one the session had read.
theorem changed_current {plan : RotationPlan} {previous updated : RecommendationStateRecord} {next : RecommendationState × Bool}
    {changedAt : Instant} {runId : Option UUID} {key : Option Digest} (grown : Grows seen current)
    (distinct : Distinct everywhere (·.rotationPlanId) current.recommendationStates)
    (changed : Changed e seen current after plan previous updated next changedAt runId key) :
    current.Holds plan.rotationPlanId previous ∧ after.Holds plan.rotationPlanId updated ∧
      ∀ other, other ≠ plan.rotationPlanId → after.state other = current.state other := by
  obtain ⟨read,there,restored⟩ := changed.read
  obtain ⟨now,here,_,same⟩ := grown.states _ read there
  have counted := changed.counted
  unfold Database.unchanged at counted
  rw [count_keyed distinct] at counted
  have found : lookup (·.rotationPlanId) plan.rotationPlanId current.recommendationStates = some now := here
  rw [found] at counted
  have asked : (now.portfolioId == previous.portfolioId && now.revision == previous.revision &&
      now.state == previous.state.value && now.remainingStagesHalted == previous.remainingStagesHalted) = true := by
    by_contra unasked
    simp only [unasked] at counted
    cases counted
  simp only [Bool.and_eq_true,beq_iff_eq] at asked
  obtain ⟨⟨⟨portfolio,revision⟩,state⟩,halted⟩ := asked
  obtain rfl := same ((record_read restored).symm.trans revision.symm)
  have named := (lookup_some found).2
  have selected : Database.unchanged plan previous read = true := by
    simp [Database.unchanged,named,portfolio,revision,state,halted]
  refine ⟨⟨read,here,restored⟩,⟨_,(changed_found changed).trans (by rw [here,Option.map_some,if_pos selected]),?_⟩,?_⟩
  · have plan_named : updated.rotationPlanId = plan.rotationPlanId := congrArg RecordFields.rotationPlanId changed.fields
    have portfolio_named : updated.portfolioId = plan.portfolioId := congrArg RecordFields.portfolioId changed.fields
    have row : Database.written (recommendationStateToModel e.dialect updated) read = recommendationStateToModel e.dialect updated := by
      simp only [Database.written,recommendationStateToModel,named,portfolio,changed.own,plan_named,portfolio_named]
    rw [row]
    exact record_restored e.dialect updated
  · intro other apart
    rw [changed_found changed]
    cases at_other : current.state other with
    | none => rfl
    | some row =>
      have unselected : Database.unchanged plan previous row = false := by
        simp [Database.unchanged,(lookup_some at_other).2,apart]
      rw [Option.map_some,unselected]
      rfl

theorem leaves_distinct {access : AccessContext} {call : ScanCall} (leaves : Leaves e seen current access call after)
    (distinct : Distinct everywhere (·.rotationPlanId) current.recommendationStates) :
    Distinct everywhere (·.rotationPlanId) after.recommendationStates := by
  cases leaves with
  | stateAdded inserted => exact distinct_insert distinct (List.mem_cons_self ..) inserted
  | stateChanged changed =>
    rw [changed.left]
    exact distinct_update distinct (fun _ => rfl) fun _ => rfl
  | attemptAdded recorded =>
    obtain ⟨_,_,_,rfl⟩ := recorded.inserted
    exact distinct
  | _ => exact distinct

-- What a call that is no transition leaves of a plan's record.
def LeavesRecord (planId : UUID) (current after : Database) : Prop :=
  after.state planId = current.state planId ∨ current.state planId = none ∧
    ∃ e plan createdAt, after.state planId = some (recommendationStateToModel e (Stores.idleRecord plan createdAt))

theorem other_record {access : AccessContext} {call : ScanCall} (leaves : Leaves e seen current access call after)
    (other : ∀ plan previous next changedAt runId key, call ≠ .recordTransition plan previous next changedAt runId key) :
    LeavesRecord planId current after := by
  cases leaves with
  | @stateAdded plan createdAt checks rows inserted =>
    obtain ⟨_,clear,rfl⟩ := insert_ok.mp inserted
    by_cases here : plan.rotationPlanId = planId
    · have free : lookup (·.rotationPlanId) planId current.recommendationStates = none := by
        refine lookup_none.mpr fun stored member same => ?_
        exact index_clear.mp (clear _ (List.mem_cons_self ..) stored member) rfl rfl (same.trans here.symm)
      exact .inr ⟨free,e.dialect,plan,createdAt,lookup_new free here⟩
    · exact .inl (lookup_other here)
  | @stateChanged plan previous updated next changedAt runId key => exact absurd rfl (other plan previous next changedAt runId key)
  | attemptAdded recorded =>
    obtain ⟨_,_,_,rfl⟩ := recorded.inserted
    exact .inl rfl
  | _ => exact .inl rfl

theorem history_kept {served : ServedCall} (history : RecordHistory planId log current)
    (none_accepted : transitions planId (served :: log) = transitions planId log) (left : LeavesRecord planId current after) :
    RecordHistory planId (served :: log) after := by
  rcases left with same | ⟨free,dialect,plan,createdAt,added⟩
  · have holds : ∀ record, after.Holds planId record ↔ current.Holds planId record := by
      intro record
      rw [Database.Holds,Database.Holds,same]
    refine ⟨?_,?_,?_,?_,?_,?_⟩
    · rw [none_accepted]
      exact history.chained
    · intro previous updated rest accepted
      rw [none_accepted] at accepted
      exact (holds updated).mpr (history.latest previous updated rest accepted)
    · intro previous updated accepted
      rw [none_accepted] at accepted
      exact history.oldest previous updated accepted
    · intro nothing record held
      rw [none_accepted] at nothing
      exact history.unwritten nothing record ((holds record).mp held)
    · intro row found
      rw [none_accepted]
      exact history.counted row (same ▸ found)
    · rw [none_accepted]
      exact history.numbered
  · have nothing : transitions planId log = [] := by
      cases accepted : transitions planId log with
      | nil => rfl
      | cons first rest =>
        obtain ⟨previous,updated⟩ := first
        obtain ⟨row,found,_⟩ := history.latest previous updated rest accepted
        rw [free] at found
        cases found
    rw [nothing] at none_accepted
    refine ⟨?_,?_,?_,?_,?_,?_⟩
    · rw [none_accepted]
      exact .nil
    · intro previous updated rest accepted
      rw [none_accepted] at accepted
      cases accepted
    · intro previous updated accepted
      rw [none_accepted] at accepted
      cases accepted
    · intro _ record held
      refine ⟨plan,createdAt,held_once held ⟨_,added,record_restored ..⟩⟩
    · intro row found
      obtain rfl := Option.some.inj (added.symm.trans found)
      rw [none_accepted]
      rfl
    · rw [none_accepted]
      rfl

theorem history_changed {plan : RotationPlan} {previous updated : RecommendationStateRecord} {next : RecommendationState × Bool}
    {changedAt : Instant} {runId : Option UUID} {key : Option Digest} (grown : Grows seen current)
    (distinct : Distinct everywhere (·.rotationPlanId) current.recommendationStates) (history : RecordHistory planId log current)
    (changed : Changed e seen current after plan previous updated next changedAt runId key) {served : ServedCall}
    (accepted : transitions planId (served :: log) =
      if plan.rotationPlanId = planId then (previous,updated) :: transitions planId log else transitions planId log) :
    RecordHistory planId (served :: log) after := by
  obtain ⟨before,written,others⟩ := changed_current grown distinct changed
  by_cases here : plan.rotationPlanId = planId
  · subst here
    rw [if_pos rfl] at accepted
    have revision : previous.revision = (transitions plan.rotationPlanId log).length := by
      obtain ⟨base,found,read⟩ := before
      exact (record_read read).trans (history.counted base found)
    refine ⟨?_,?_,?_,?_,?_,?_⟩
    · rw [accepted]
      cases sooner : transitions plan.rotationPlanId log with
      | nil => exact .singleton _
      | cons first rest =>
        obtain ⟨base,last⟩ := first
        refine .cons_cons (held_once before (history.latest base last rest sooner)) ?_
        rw [← sooner]
        exact history.chained
    · intro first second rest here
      rw [accepted] at here
      cases here
      exact written
    · intro first second oldest
      rw [accepted] at oldest
      cases sooner : transitions plan.rotationPlanId log with
      | nil =>
        rw [sooner] at oldest
        cases oldest
        exact history.unwritten sooner previous before
      | cons other rest =>
        rw [sooner,List.getLast?_cons_cons,← sooner] at oldest
        exact history.oldest first second oldest
    · intro nothing
      rw [accepted] at nothing
      cases nothing
    · intro row found
      obtain ⟨stored,there,restored⟩ := written
      obtain rfl := Option.some.inj (there.symm.trans found)
      rw [accepted,List.length_cons,← revision,← record_read restored]
      exact changed_revision changed
    · rw [accepted,List.map_cons,List.length_cons,List.range_succ,List.reverse_append,history.numbered,revision]
      rfl
  · rw [if_neg here] at accepted
    exact history_kept history accepted (.inl (others planId (Ne.symm here)))

theorem no_transition {served : ServedCall} (other : ∀ plan previous next changedAt runId key,
    served.request.call ≠ .recordTransition plan previous next changedAt runId key) :
    transitions planId (served :: log) = transitions planId log := by
  have nothing : served.transition planId = none := by
    unfold ServedCall.transition
    split
    · rename_i call _
      exact absurd call (other _ _ _ _ _ _)
    · rfl
  rw [transitions,List.filterMap_cons,nothing]
  rfl

theorem history_step (grown : Grows seen current) (distinct : Distinct everywhere (·.rotationPlanId) current.recommendationStates)
    (history : RecordHistory planId log current) (request : Request) :
    RecordHistory planId
      (⟨request,(seen.perform e current request).1,current,(seen.perform e current request).2⟩ :: log)
      (seen.perform e current request).2 := by
  by_cases given : ∃ plan previous next changedAt runId key, request.call = .recordTransition plan previous next changedAt runId key
  · obtain ⟨access,fresh,call⟩ := request
    obtain ⟨plan,previous,next,changedAt,runId,key,rfl⟩ := given
    cases answered : Database.transition e access seen current plan previous next changedAt runId key with
    | error error =>
      simp only [Database.perform,answered,Database.told]
      exact history_kept history rfl (.inl rfl)
    | ok made =>
      obtain ⟨updated,after⟩ := made
      simp only [Database.perform,answered,Database.told]
      refine history_changed grown distinct history (state_changed answered) ?_
      rw [transitions,List.filterMap_cons]
      by_cases here : plan.rotationPlanId = planId
      · simp [ServedCall.transition,here,transitions]
      · simp [ServedCall.transition,here,transitions]
  · have other : ∀ plan previous next changedAt runId key, request.call ≠ .recordTransition plan previous next changedAt runId key :=
      fun plan previous next changedAt runId key same => given ⟨plan,previous,next,changedAt,runId,key,same⟩
    exact history_kept history (no_transition other) (other_record (request_leaves request) other)

theorem timeline_history {plans : List RotationPlanModel} {snapshots : List PersistedConfigurationSnapshot}
    (timeline : Timeline e (.unscanned plans snapshots) (current :: earlier) log) :
    Distinct everywhere (·.rotationPlanId) current.recommendationStates ∧ RecordHistory planId log current := by
  generalize same : current :: earlier = history at timeline
  induction timeline generalizing current earlier with
  | start =>
    obtain ⟨rfl,rfl⟩ := List.cons.inj same
    refine ⟨.nil,.nil,?_,?_,?_,?_,rfl⟩
    · intro _ _ _ accepted
      cases accepted
    · intro _ _ accepted
      cases accepted
    · intro _ _ held
      obtain ⟨_,found,_⟩ := held
      cases found
    · intro _ found
      cases found
  | call request seen path read ih =>
    obtain ⟨rfl,rfl⟩ := List.cons.inj same
    obtain ⟨distinct,history⟩ := ih rfl
    exact ⟨leaves_distinct (request_leaves request) distinct,history_step (seen_grows path read) distinct history request⟩

-- What an accepted transition wrote is never lost: the next one is computed from it, and each counts once.
theorem no_update_lost {plans : List RotationPlanModel} {snapshots : List PersistedConfigurationSnapshot}
    (timeline : Timeline e (.unscanned plans snapshots) (current :: earlier) log) (planId : UUID) :
    RecordHistory planId log current := (timeline_history timeline).2

-- Two sessions have read the same new record, and one of them is told so.
def createRequest : Request := ⟨Repositories.sampleOwner,30,.getOrCreateState samplePlan 0⟩
def watchRequest (changedAt : Instant) : Request :=
  ⟨Repositories.sampleOwner,31,.recordTransition samplePlan (Stores.idleRecord samplePlan 0) (.watching,false) changedAt none none⟩

def createdTables : Database := (sampleTables.perform sampleEngine sampleTables createRequest).2
def watchedTables : Database := (createdTables.perform sampleEngine createdTables (watchRequest 1)).2
def racedTables : Database := (createdTables.perform sampleEngine watchedTables (watchRequest 2)).2

def racedLog : List ServedCall :=
  [⟨watchRequest 2,(createdTables.perform sampleEngine watchedTables (watchRequest 2)).1,watchedTables,racedTables⟩,
    ⟨watchRequest 1,(createdTables.perform sampleEngine createdTables (watchRequest 1)).1,createdTables,watchedTables⟩,
    ⟨createRequest,(sampleTables.perform sampleEngine sampleTables createRequest).1,sampleTables,createdTables⟩]

theorem no_update_lost_sample : RecordHistory 1 racedLog racedTables ∧ (transitions 1 racedLog).map (·.2.updatedAt) = [1] := by
  have created : Timeline sampleEngine sampleTables [createdTables,sampleTables] _ :=
    .call createRequest sampleTables .start (read_at (List.mem_cons_self ..))
  have watched : Timeline sampleEngine sampleTables [watchedTables,createdTables,sampleTables] _ :=
    .call (watchRequest 1) createdTables created (read_at (List.mem_cons_self ..))
  have raced : Timeline sampleEngine sampleTables [racedTables,watchedTables,createdTables,sampleTables] racedLog :=
    .call (watchRequest 2) createdTables watched (read_at (List.mem_cons_of_mem _ (List.mem_cons_self ..)))
  exact ⟨no_update_lost raced 1,rfl⟩

end SwapMonitor
