import SwapMonitor.Guarantees.Schedules

namespace SwapMonitor
open Interleaving

-- An edge of the state machine out of the record's pair: some event and guards, and no sale
-- source but an authorized one, with the stored plan of the record.
def Accepted (c : Coordinator) (record : RecommendationStateRecord) (pair : RecommendationState × Bool) : Prop :=
  ∃ request : TransitionRequest, ∃ outcome, request.plan.rotationPlanId = record.rotationPlanId ∧
    c.rotationPlans record.rotationPlanId = some request.plan ∧
    (request.currentState,request.remainingStagesHalted) = record.pair ∧
    (∀ position, request.saleSourcePosition = some position → AuthorizedSource request.plan position) ∧
    transition request = .ok outcome ∧ (outcome.nextState,outcome.remainingStagesHalted) = pair

-- An accepted write over a record: one revision on, with the claim of a migration as it was
-- and a whole fence or none, and along an edge of the state machine if anywhere.
structure Refines (c : Coordinator) (previous updated : RecommendationStateRecord) : Prop where
  plan : updated.rotationPlanId = previous.rotationPlanId
  revision : updated.revision = previous.revision + 1
  status : updated.legacyFinalizationClaimStatus = previous.legacyFinalizationClaimStatus
  claimedRun : updated.legacyFinalizationStrategyRunId = previous.legacyFinalizationStrategyRunId
  claimedKey : updated.legacyFinalizationStrategyKey = previous.legacyFinalizationStrategyKey
  fence : updated.finalizationStrategyRunId.isSome = updated.finalizationStrategyKey.isSome
  edge : updated.pair = previous.pair ∨ Accepted c previous updated.pair

section Writes
variable {c : Coordinator} {seed : UUID → Option RecommendationStateRecord} {j : Log} {key : Digest}

-- The sale source a stored run was built with was authorized when the run was stored.
theorem stored_source {s : StoredRun} {position : Position} (lawful : Lawful (Legal c seed) j)
    (stored : (ledger key j).stored = some s) (sold : s.candidate.saleSourcePosition = some position) :
    AuthorizedSource s.candidate.plan position := by
  obtain ⟨actor,present⟩ := stored_origin stored
  obtain ⟨_,_,_,_,legal⟩ := entry_split lawful present
  obtain ⟨found,_⟩ := legal.fact.2.sale
  cases named : s.candidate.evaluation.saleSourcePositionId with
  | none =>
    rw [named] at found
    rw [found] at sold
    cases sold
  | some positionId =>
    rw [named] at found
    obtain ⟨position',known,_,authorized⟩ := found
    rw [known,Option.some.injEq] at sold
    exact sold ▸ authorized

-- Adverse data moves the record by the machine's own answer to it.
theorem degrades_accepted {L : ScanLedger} {previous updated : RecommendationStateRecord}
    (degrades : Degrades c L previous updated) : Accepted c previous updated.pair := by
  obtain ⟨_,_,_,plan,outcome,known,moved,pair⟩ := degrades
  simp only [transitionDegradedData,bind_ok,raiseIf_ok,decide_eq_false_iff_not,not_not] at moved
  obtain ⟨_,own,request,asked,moved⟩ := moved
  have fields := request_fields asked
  have plan' : request.plan = plan := by rw [fields]
  refine ⟨request,outcome,?_,?_,?_,?_,moved,pair.symm⟩
  · rw [plan',own]
  · rw [plan',own]; exact known
  · rw [fields]; rfl
  · intro position sold
    rw [fields] at sold
    cases sold

-- A stored run moves the record along the edge it was built on, whatever happened since.
theorem applies_accepted {previous updated : RecommendationStateRecord} (lawful : Lawful (Legal c seed) j)
    (own : previous.rotationPlanId = updated.rotationPlanId) (applies : Applies (ledger key j) previous updated) :
    updated.pair = previous.pair ∨ Accepted c previous updated.pair := by
  obtain ⟨s,stored,_,plan,pair,_,_,taken⟩ := applies
  rcases taken with ⟨returned,_⟩ | ⟨same,_⟩
  · obtain ⟨request,asked,moved,_,_⟩ := s.edge
    have plan' : request.plan = s.candidate.plan := by rw [asked]; rfl
    obtain ⟨_,_,known,_⟩ := stored_run lawful stored
    refine .inr ⟨request,_,?_,?_,?_,?_,moved,pair.symm⟩
    · rw [plan',own,plan]
    · rw [plan',own,plan]; exact known
    · rw [returned,asked]; rfl
    · intro position sold
      rw [plan']
      rw [asked] at sold
      exact stored_source lawful stored sold
  · exact .inl (pair.trans same.symm)

theorem write_refines {previous updated : RecommendationStateRecord} (lawful : Lawful (Legal c seed) j)
    (legal : LegalWrite c seed key j previous updated) : Refines c previous updated where
  plan := legal.plan.symm
  revision := legal.revision
  status := legal.status
  claimedRun := legal.claimedRun
  claimedKey := legal.claimedKey
  fence := updated.fence_both
  edge := by
    rcases legal.move with degrades | applies
    · exact .inr (degrades_accepted degrades)
    · exact applies_accepted lawful legal.plan applies

end Writes

section Runs
variable {c : Coordinator} {seed : UUID → Option RecommendationStateRecord} {nextUuid : UUID}
  {pool : Pool World Input PyError RunCoordinatorResult}

-- The stores hold the record the entries lead to; an accepted write replaces the plan's record
-- of that moment and refines the machine, and nothing but an accepted write moves a record.
theorem record_refines (seeded : Seeded seed) (path : Reached c.run (Coordinator.opening seed nextUuid) pool)
    {newer older : Log} {e : Entry Digest Fact} (split : pool.store.journal = newer ++ e :: older) :
    (∀ planId, pool.store.stores.records planId = recordOf seed planId pool.store.journal) ∧
      (∀ previous updated, e.fact = .transitioned previous updated →
        recordOf seed previous.rotationPlanId older = some previous ∧ Refines c previous updated) ∧
      ∀ planId record, recordOf seed planId older = some record → recordOf seed planId (e :: older) = some record ∨
        ∃ updated, e.fact = .transitioned record updated ∧ recordOf seed planId (e :: older) = some updated := by
  have lawful := split ▸ reached_lawful seeded path
  have legal := Lawful.entry lawful
  refine ⟨(reached_represents seeded path).records,?_,?_⟩
  · intro previous updated known
    have fact := legal.fact
    rw [known] at fact
    exact ⟨by rw [fact.2.plan]; exact fact.2.current,write_refines (Lawful.older lawful).2 fact.2⟩
  · intro planId record found
    rcases record_step legal found with same | ⟨updated,known,replaced,_⟩
    · exact .inl same
    · exact .inr ⟨updated,known,replaced⟩

set_option maxRecDepth 4000 in
theorem notified_refines : ∃ previous updated,
    (∃ actor key, ⟨actor,key,.transitioned previous updated⟩ ∈
      notifiedPool.store.journal) ∧
    updated.state = .actionNotified ∧ Refines sampleCoordinator previous updated := by
  have found : notifiedPool.store.journal.any
      (fun e => e.fact.writes fun updated => decide (updated.state = .actionNotified)) = true := by decide +kernel
  obtain ⟨newer,actor,key,fact,older,split,writes⟩ := entered found
  obtain ⟨previous,updated,rfl,test⟩ := writes_record writes
  obtain ⟨_,refined,_⟩ := record_refines unseeded_seeded
    notified_reached split
  exact ⟨previous,updated,⟨actor,key,by rw [split]; simp⟩,of_decide_eq_true test,(refined _ _ rfl).2⟩

end Runs
end SwapMonitor
