import SwapMonitor.Domain.StrategyRuns
import SwapMonitor.Persistence.Changes
import SwapMonitor.Persistence.Atomicity

namespace SwapMonitor
open Function (update update_self update_of_ne)

namespace Stores
variable {d : Deployment} {access : AccessContext} {w w' w'' : Stores}

-- The run of a key that is linked to a scan is the scan's, and no other key is linked to it.
structure Linked (w : Stores) : Prop where
  exact : ∀ key scanId, w.logicalScanByKey key = some scanId → ∃ run scan, w.runsByKey key = some run ∧
    w.runsByLogicalScan scanId = some run ∧ w.scansById scanId = some scan ∧ scan.portfolioId = run.portfolioId
  single : ∀ key other scanId, w.logicalScanByKey key = some scanId → w.logicalScanByKey other = some scanId → other = key

-- Under its own id a stored run is found.
def Indexed (w : Stores) : Prop := ∀ key run, w.runsByKey key = some run → w.runsById run.strategyRunId = some run

-- What no later call takes back.
structure Kept (w w' : Stores) : Prop where
  runs : ∀ key run, w.runsByKey key = some run →
    w'.runsByKey key = some run ∧ w'.logicalScanByKey key = w.logicalScanByKey key
  scans : ∀ scanId scan, w.scansById scanId = some scan →
    ∃ later, w'.scansById scanId = some later ∧ later.portfolioId = scan.portfolioId

theorem kept_refl : Kept w w := ⟨fun _ _ stored => ⟨stored,rfl⟩,fun _ scan stored => ⟨scan,stored,rfl⟩⟩

theorem kept_trans (first : Kept w w') (second : Kept w' w'') : Kept w w'' := by
  refine ⟨?_,?_⟩
  · intro key run stored
    have between := first.runs key run stored
    have last := second.runs key run between.1
    exact ⟨last.1,last.2.trans between.2⟩
  · intro scanId scan stored
    obtain ⟨later,kept,portfolio⟩ := first.scans scanId scan stored
    obtain ⟨final,found,same⟩ := second.scans scanId later kept
    exact ⟨final,found,same.trans portfolio⟩

theorem open_scan {plan : RotationPlan} {scanId : UUID} (unlinked : w.requireOpenScan d access plan (some scanId) = .ok ()) :
    w.runsByLogicalScan scanId = none ∧
      ∃ scan, w.scansById scanId = some scan ∧ scan.rotationPlanId = plan.rotationPlanId ∧ scan.portfolioId = plan.portfolioId := by
  simp only [requireOpenScan,bind_ok,raiseIf_ok,decide_eq_false_iff_not,not_or,not_not,Option.isSome_eq_false_iff,
    Option.isNone_iff_eq_none] at unlinked
  obtain ⟨scan,read,_,⟨rotation,portfolio⟩,absent⟩ := unlinked
  exact ⟨absent,scan,(Repositories.scan_found read).1,rotation,portfolio⟩

theorem storing_linked {plan : RotationPlan} {run : StrategyRun} {key : Digest} {scanId : Option UUID} (linked : Linked w)
    (recorded : Repositories.Recorded d access w plan run key scanId) : Linked (w.storing plan run key scanId) := by
  have scans : (w.storing plan run key scanId).scansById = w.scansById := rfl
  have unscanned : w.logicalScanByKey (plan.rotationPlanId,key) = none := by
    cases stored : w.logicalScanByKey (plan.rotationPlanId,key) with
    | none => rfl
    | some other =>
      obtain ⟨_,_,known,_⟩ := linked.exact _ _ stored
      rw [recorded.free] at known
      cases known
  -- a scan that any key is linked to has a run, so the new run's scan is not one of them
  have apart : ∀ id other linkedId, scanId = some id → w.logicalScanByKey other = some linkedId → linkedId ≠ id := by
    intro id other linkedId same known equal
    subst same equal
    obtain ⟨_,_,_,stored,_⟩ := linked.exact _ _ known
    rw [(open_scan recorded.unlinked).1] at stored
    cases stored
  refine ⟨?_,?_⟩
  · intro other id known
    by_cases here : other = (plan.rotationPlanId,key)
    · subst here
      have named : scanId = some id := by simpa [storing] using known
      subst named
      obtain ⟨_,scan,found,_,portfolio⟩ := open_scan recorded.unlinked
      refine ⟨run,scan,by simp [storing],by simp [storing],found,?_⟩
      rw [portfolio,recorded.own.2]
    · have before : w.logicalScanByKey other = some id := by simpa [storing,update_of_ne here] using known
      obtain ⟨old,scan,stored,final,found,portfolio⟩ := linked.exact _ _ before
      refine ⟨old,scan,by simpa [storing,update_of_ne here] using stored,?_,found,portfolio⟩
      cases scanId with
      | none => exact final
      | some fresh => simpa [storing,update_of_ne (apart fresh other id rfl before)] using final
  · intro one other id first second
    by_cases here : one = (plan.rotationPlanId,key)
    · by_cases there : other = (plan.rotationPlanId,key)
      · rw [here,there]
      · have named : scanId = some id := by simpa [storing,here] using first
        have before : w.logicalScanByKey other = some id := by simpa [storing,update_of_ne there] using second
        exact absurd rfl (apart id other id named before)
    · have before : w.logicalScanByKey one = some id := by simpa [storing,update_of_ne here] using first
      by_cases there : other = (plan.rotationPlanId,key)
      · have named : scanId = some id := by simpa [storing,there] using second
        exact absurd rfl (apart id one id named before)
      · exact linked.single one other id before (by simpa [storing,update_of_ne there] using second)

theorem storing_kept {plan : RotationPlan} {run : StrategyRun} {key : Digest} {scanId : Option UUID}
    (free : w.runsByKey (plan.rotationPlanId,key) = none) : Kept w (w.storing plan run key scanId) := by
  refine ⟨?_,fun _ scan stored => ⟨scan,stored,rfl⟩⟩
  intro other old stored
  have apart : other ≠ (plan.rotationPlanId,key) := by
    intro same
    rw [same,free] at stored
    cases stored
  simp [storing,update_of_ne apart,stored]

end Stores

namespace Repositories
open Stores
variable {d : Deployment} {access : AccessContext} {r r' : Repositories} {operation : Operation}
  {permitted : Repositories → AccessContext → Operation → Prop}

-- A call that stores, under a free key, a run whose id a different stored run has.
def Overwrites (d : Deployment) (r : Repositories) (access : AccessContext) (operation : Operation) : Prop :=
  ∃ plan run key scanId other, operation = .recordOrGetRun plan run key scanId ∧ Recorded d access r.stores plan run key scanId ∧
    r.stores.runsById run.strategyRunId = some other ∧ other ≠ run

def Unwritten (d : Deployment) (r : Repositories) (access : AccessContext) (operation : Operation) : Prop :=
  ¬Overwrites d r access operation

theorem change_linked (linked : Linked r.stores) (fresh : r.stores.scansById r.stores.nextUuid = none)
    (change : Change d access r operation r') : Linked r'.stores ∧ Kept r.stores r'.stores := by
  cases change with
  | runStored plan run key scanId recorded => exact ⟨storing_linked linked recorded,storing_kept recorded.free⟩
  | scanCreated request createdAt =>
    have kept : ∀ scanId scan, r.stores.scansById scanId = some scan → update r.stores.scansById r.stores.nextUuid
        (some (r.stores.newScan d request createdAt)) scanId = some scan := by
      intro scanId scan stored
      rw [update_of_ne,stored]
      intro same
      rw [same,fresh] at stored
      cases stored
    refine ⟨⟨?_,linked.single⟩,fun _ _ stored => ⟨stored,rfl⟩,fun scanId scan stored => ⟨scan,kept _ _ stored,rfl⟩⟩
    intro key scanId known
    obtain ⟨run,scan,stored,final,found,portfolio⟩ := linked.exact key scanId known
    exact ⟨run,scan,stored,final,kept _ _ found,portfolio⟩
  | completed scanId runId plan completedAt scan completed attached =>
    have kept : ∀ id old, r.stores.scansById id = some old → ∃ later, update r.stores.scansById scanId (some completed) id =
        some later ∧ later.portfolioId = old.portfolioId := by
      intro id old stored
      by_cases here : id = scanId
      · subst here
        rw [attached.found] at stored
        cases stored
        exact ⟨completed,update_self ..,attached.same.2.2⟩
      · exact ⟨old,by rw [update_of_ne here,stored],rfl⟩
    refine ⟨⟨?_,linked.single⟩,fun _ _ stored => ⟨stored,rfl⟩,kept⟩
    intro key id known
    obtain ⟨run,old,stored,final,found,portfolio⟩ := linked.exact key id known
    obtain ⟨later,found,same⟩ := kept id old found
    exact ⟨run,later,stored,final,found,same.trans portfolio⟩
  | _ => exact ⟨⟨linked.exact,linked.single⟩,fun _ _ stored => ⟨stored,rfl⟩,fun _ scan stored => ⟨scan,stored,rfl⟩⟩

theorem change_indexed (indexed : Indexed r.stores) (clean : ¬Overwrites d r access operation)
    (change : Change d access r operation r') : Indexed r'.stores := by
  cases change with
  | runStored plan run key scanId recorded =>
    intro other old stored
    have unwritten : ∀ found, r.stores.runsById run.strategyRunId = some found → found = run := by
      intro found known
      by_contra different
      exact clean ⟨plan,run,key,scanId,found,rfl,recorded,known,different⟩
    by_cases here : other = (plan.rotationPlanId,key)
    · have same : run = old := by simpa [storing,here] using stored
      simp [storing,same]
    · have before : r.stores.runsByKey other = some old := by simpa [storing,update_of_ne here] using stored
      have known := indexed other old before
      by_cases named : old.strategyRunId = run.strategyRunId
      · rw [named] at known
        simp [storing,unwritten old known]
      · simpa [storing,update_of_ne named] using known
  | _ => exact indexed

theorem leads_kept (linked : Linked r.stores) (path : Leads d permitted r r') :
    Linked r'.stores ∧ Kept r.stores r'.stores := by
  induction path with
  | here => exact ⟨linked,kept_refl⟩
  | @call between access operation fresh _ _ unused ih =>
    have change : Change d access (between.drawing fresh) operation ((between.drawing fresh).after d access operation) :=
      after_changes operation
    have before : Linked (between.drawing fresh).stores := ⟨ih.1.exact,ih.1.single⟩
    have step := change_linked before unused change
    exact ⟨step.1,kept_trans ih.2 ⟨step.2.runs,step.2.scans⟩⟩

theorem leads_indexed (indexed : Indexed r.stores) (path : Leads d (Unwritten d) r r') : Indexed r'.stores := by
  induction path with
  | here => exact indexed
  | @call between access operation fresh _ clean _ ih =>
    exact change_indexed (r := between.drawing fresh) ih clean (after_changes operation)

theorem constructed_linked (groups positions : UUID → Option UUID) : Linked (constructed groups positions).stores := by
  refine ⟨?_,?_⟩
  · intro _ _ known
    cases known
  · intro _ _ _ known
    cases known

theorem constructed_indexed (groups positions : UUID → Option UUID) : Indexed (constructed groups positions).stores := by
  intro _ _ known
  cases known

end Repositories

end SwapMonitor
