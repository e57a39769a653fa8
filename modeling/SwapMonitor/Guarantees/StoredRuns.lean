import SwapMonitor.Guarantees.Schedules
import SwapMonitor.Persistence.RunIndexes

namespace SwapMonitor
open Function (update_self)
open Stores Bodies

namespace Repositories
variable {d : Deployment} {access : AccessContext} {r r₁ r₂ : Repositories}

theorem run_returned {plan : RotationPlan} {run found : StrategyRun} {key : Digest} {scanId : Option UUID}
    (recorded : r.perform d access (.recordOrGetRun plan run key scanId) = .ok (.run found,r₁)) :
    r.stores.recordOrGet d access plan run key scanId = .ok (found,r₁.stores) := by
  obtain ⟨_,_,did,same⟩ := within_ok.mp recorded
  cases same
  exact did

-- What a call that returned leaves under its key.
structure Returned (d : Deployment) (access : AccessContext) (w : Stores) (plan : RotationPlan) (run found : StrategyRun)
    (key : Digest) (scanId : Option UUID) : Prop where
  mutable : Mutable d access plan.portfolioId
  own : run.rotationPlanId = plan.rotationPlanId ∧ run.portfolioId = plan.portfolioId
  stored : w.runsByKey (plan.rotationPlanId,key) = some found
  linked : w.logicalScanByKey (plan.rotationPlanId,key) = scanId
  same : found.same run = true

theorem recorded_returned {plan : RotationPlan} {run found : StrategyRun} {key : Digest} {scanId : Option UUID}
    (constructed : run.Constructed) (did : r.stores.recordOrGet d access plan run key scanId = .ok (found,r₁.stores)) :
    Returned d access r₁.stores plan run found key scanId := by
  rcases run_recorded did with ⟨stored,same,own,mutable,linked,unchanged⟩ | ⟨recorded,rfl,written⟩
  · rw [unchanged]
    exact ⟨mutable,own,stored,linked,same⟩
  · rw [written]
    exact ⟨recorded.mutable,recorded.own,by simp [storing],by simp [storing],StrategyRun.constructed_same constructed⟩

-- The same call again finds what the first one left.
theorem returned_again {w : Stores} {plan : RotationPlan} {run found : StrategyRun} {key : Digest} {scanId : Option UUID}
    (returned : Returned d access w plan run found key scanId) : w.recordOrGet d access plan run key scanId = .ok (found,w) := by
  obtain ⟨owner,allowed⟩ := returned.mutable
  simp [recordOrGet,returned.stored,allowed,returned.own,returned.linked,returned.same,raiseIf,Bind.bind,Except.bind,Pure.pure,
    Except.pure]

theorem returned_kept {w w' : Stores} {plan : RotationPlan} {run found : StrategyRun} {key : Digest} {scanId : Option UUID}
    (returned : Returned d access w plan run found key scanId) (kept : Kept w w') :
    Returned d access w' plan run found key scanId := by
  have later := kept.runs _ _ returned.stored
  exact ⟨returned.mutable,returned.own,later.1,later.2.trans returned.linked,returned.same⟩

theorem returned_for_scan {w : Stores} {plan : RotationPlan} {run found : StrategyRun} {key : Digest} {scanId : UUID}
    (linked : Linked w) (returned : Returned d access w plan run found key (some scanId)) :
    w.getForLogicalScan d access scanId = .ok (some found) := by
  obtain ⟨stored,scan,known,final,held,portfolio⟩ := linked.exact _ _ returned.linked
  rw [returned.stored] at known
  cases known
  obtain ⟨owner,allowed⟩ := returned.mutable
  have readable : requirePortfolioRead d scan.portfolioId access = .ok owner := by
    rw [portfolio,(StrategyRun.same_ids returned.same).2,returned.own.2,← mutation_read]
    exact allowed
  simp [getForLogicalScan,getScan,held,readable,final,Bind.bind,Except.bind,Pure.pure,Except.pure]

-- What a call returned stays, for the call itself, for its scan and under the run's own id.
theorem stored_run_kept {plan : RotationPlan} {run found : StrategyRun} {key : Digest} {scanId : Option UUID} {fresh again : UUID}
    (reached : Reached d (Unwritten d) r) (constructed : run.Constructed)
    (clean : Unwritten d (r.drawing fresh) access (.recordOrGetRun plan run key scanId))
    (recorded : (r.drawing fresh).perform d access (.recordOrGetRun plan run key scanId) = .ok (.run found,r₁))
    (later : Leads d (Unwritten d) r₁ r₂) :
    (r₂.drawing again).perform d access (.recordOrGetRun plan run key scanId) = .ok (.run found,r₂.drawing again) ∧
    r₂.stores.runsById found.strategyRunId = some found ∧
    (∀ id, scanId = some id →
      (r₂.drawing again).perform d access (.getForLogicalScan id) = .ok (.foundRun (some found),r₂.drawing again) ∧
      ∀ other, r₂.stores.logicalScanByKey other = some id → other = (plan.rotationPlanId,key)) ∧
    ∀ actor plan run key scanId, Undone (Body.recordOrGet d actor plan run key scanId) := by
  obtain ⟨groups,positions,path⟩ := reached
  have linked : Linked (r.drawing fresh).stores :=
    have start := (leads_kept (constructed_linked groups positions) path).1
    ⟨start.exact,start.single⟩
  have indexed : Indexed (r.drawing fresh).stores := by
    have start := leads_indexed (constructed_indexed groups positions) path
    exact start
  have did := run_returned recorded
  have returned := recorded_returned constructed did
  have linked₁ : Linked r₁.stores := by
    rcases run_recorded did with ⟨_,_,_,_,_,unchanged⟩ | ⟨stored,_,written⟩
    · rwa [unchanged]
    · rw [written]
      exact storing_linked linked stored
  have indexed₁ : Indexed r₁.stores := change_indexed indexed clean (perform_changes recorded)
  obtain ⟨linked₂,kept⟩ := leads_kept linked₁ later
  have returned₂ := returned_kept returned kept
  refine ⟨?_,leads_indexed indexed₁ later _ _ returned₂.stored,?_,?_⟩
  · exact within_ok.mpr ⟨found,_,returned_again (w := (r₂.drawing again).stores)
      ⟨returned₂.mutable,returned₂.own,returned₂.stored,returned₂.linked,returned₂.same⟩,rfl⟩
  · intro id scanned
    subst scanned
    refine ⟨?_,fun other known => linked₂.single _ _ id returned₂.linked known⟩
    exact reading_ok.mpr ⟨_,returned_for_scan (w := (r₂.drawing again).stores) ⟨linked₂.exact,linked₂.single⟩
      ⟨returned₂.mutable,returned₂.own,returned₂.stored,returned₂.linked,returned₂.same⟩,rfl⟩
  · exact fun actor plan run key scanId => settled_undone fun w => recorded_atomic d actor w plan run key scanId

def firstRun : StrategyRun := ⟨10,1,2,sampleSnapshotRef,.plain "market","IDLE->IDLE",.map [],0,{},{}⟩
def secondRun (strategyRunId : UUID) : StrategyRun := {firstRun with strategyRunId,stateTransition := "IDLE->ACTION_PENDING"}
def sampleOwner : AccessContext := ⟨7,false⟩

theorem firstRun_constructed : firstRun.Constructed := ⟨firstRun,⟨List.nodup_nil,trivial⟩,rfl⟩

-- The first run under one key, and then the second under another.
def emptyRepositories : Repositories := constructed (fun _ => none) fun _ => none
def firstCall : Operation := .recordOrGetRun samplePlan firstRun 1 none
def secondCall (strategyRunId : UUID) : Operation := .recordOrGetRun samplePlan (secondRun strategyRunId) 2 none
def afterFirst : Repositories := (emptyRepositories.drawing 0).after sampleDeployment sampleOwner firstCall
def afterBoth (strategyRunId : UUID) : Repositories :=
  (afterFirst.drawing 0).after sampleDeployment sampleOwner (secondCall strategyRunId)

theorem first_recorded : (emptyRepositories.drawing 0).perform sampleDeployment sampleOwner firstCall =
    .ok (.run firstRun,afterFirst) := rfl

theorem stored_run_kept_sample :
    ((afterBoth 11).drawing 0).perform sampleDeployment sampleOwner firstCall = .ok (.run firstRun,(afterBoth 11).drawing 0) ∧
      (afterBoth 11).stores.runsById 10 = some firstRun := by
  have first : Unwritten sampleDeployment (emptyRepositories.drawing 0) sampleOwner firstCall := by
    intro ⟨_,_,_,_,_,same,_,known,_⟩
    cases same
    cases known
  have second : Unwritten sampleDeployment (afterFirst.drawing 0) sampleOwner (secondCall 11) := by
    intro ⟨_,_,_,_,_,same,_,known,_⟩
    cases same
    cases known
  have reached : Reached sampleDeployment (Unwritten sampleDeployment) emptyRepositories := ⟨_,_,.here⟩
  have path : Leads sampleDeployment (Unwritten sampleDeployment) afterFirst (afterBoth 11) :=
    .call sampleOwner (secondCall 11) 0 .here second rfl
  exact And.imp_right And.left (stored_run_kept reached firstRun_constructed first first_recorded path)

-- Under another key a different run may take the id of a stored one.
theorem stored_run_overwritten : ¬∀ r r₁ r₂ plan run found key scanId, Reached sampleDeployment Always r → run.Constructed →
    (r.drawing 0).perform sampleDeployment sampleOwner (.recordOrGetRun plan run key scanId) = .ok (.run found,r₁) →
    Leads sampleDeployment Always r₁ r₂ → r₂.stores.runsById found.strategyRunId = some found := by
  intro kept
  have seen := kept emptyRepositories afterFirst (afterBoth 10) samplePlan firstRun firstRun 1 none ⟨_,_,.here⟩
    firstRun_constructed first_recorded (.call sampleOwner (secondCall 10) 0 .here trivial rfl)
  have other : (afterBoth 10).stores.runsById 10 = some (secondRun 10) := rfl
  rw [show firstRun.strategyRunId = 10 from rfl,other] at seen
  have states := congrArg (fun run => run.map StrategyRun.stateTransition) seen
  exact absurd states (by decide)

end Repositories

end SwapMonitor
