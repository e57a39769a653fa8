import SwapMonitor.Guarantees.Schedules

namespace SwapMonitor
open Interleaving

-- The intents the store lists for a run.
def Stores.intentsOfRun (w : Stores) (runId : UUID) : List ChildIntent :=
  (w.intentKeysByStrategyRun runId).filterMap w.intentsByKey

section Intents
variable {c : Coordinator} {seed : UUID → Option RecommendationStateRecord} {j : Log} {key : Digest}

-- An intent is the one its scan's notifying run is entitled to.
theorem intent_owner {intent : ChildIntent} (lawful : Lawful (Legal c seed) j)
    (present : intent ∈ (ledger key j).intents) :
    ∃ s, (ledger key j).stored = some s ∧ s.notifies = true ∧ intent = intentOf c.deployment s := by
  rcases intents_exact lawful key with nothing | ⟨s,stored,notifies,single⟩
  · rw [nothing] at present
    cases present
  · rw [single] at present
    exact ⟨s,stored,notifies,List.mem_singleton.mp present⟩

-- An intent was stored for the notifying run of its scan, after that run's write.
theorem intent_sound {intent : ChildIntent} (unfenced : Unfenced seed) (lawful : Lawful (Legal c seed) j)
    (present : intent ∈ (ledger key j).intents) : ∃ s newer actor older, (ledger key j).stored = some s ∧
      s.notifies = true ∧ intent = intentOf c.deployment s ∧
      j = newer ++ ⟨actor,key,.intentStored intent⟩ :: older ∧ writesOf s.run.strategyRunId older ≠ [] := by
  obtain ⟨actor,stands⟩ := intent_origin present
  obtain ⟨newer,older,rfl,before,legal⟩ := entry_split lawful stands
  obtain ⟨_,⟨s,stored,notifies,rfl,owed⟩,_⟩ := legal.fact
  refine ⟨s,newer,actor,older,?_,notifies,rfl,rfl,owed_written unfenced before stored owed⟩
  exact stored_kept (older_suffix newer _ older) lawful stored

-- A run has no intent yet when one is stored for it.
theorem intents_once (lawful : Lawful (Legal c seed) j) (runId : UUID) : (intentsOf runId j).length ≤ 1 := by
  induction j with
  | nil => exact Nat.zero_le _
  | cons e older ih =>
    have rest := ih lawful.2
    cases known : e.fact with
    | intentStored intent =>
      by_cases own : intent.strategyRunId = runId
      · have fact := lawful.1.fact
        rw [known] at fact
        obtain ⟨_,⟨s,stored,_,rfl,_⟩,first⟩ := fact
        have none' : intentsOf runId older = [] := by
          by_contra some'
          obtain ⟨other,listed⟩ := List.exists_mem_of_ne_nil _ some'
          obtain ⟨e',present,known',own'⟩ := intent_exact'.mp listed
          have kept := intent_entry lawful.2 present known'
          obtain ⟨s',stored',_,rfl⟩ := intent_owner lawful.2 kept
          obtain ⟨same,_⟩ := run_unique lawful.2 stored stored' (own.trans own'.symm)
          rw [← same,first] at kept
          cases kept
        have newest : intentsOf runId (e :: older) = intentOf c.deployment s :: intentsOf runId older := by
          simp [intentsOf,known,own]
        rw [newest,none']
        exact Nat.le_refl _
      · simpa [intentsOf,known,own] using rest
    | _ => simpa [intentsOf,known] using rest

theorem scan_intents_once (lawful : Lawful (Legal c seed) j) (key : Digest) : (ledger key j).intents.length ≤ 1 := by
  rcases intents_exact lawful key with nothing | ⟨s,_,_,single⟩
  · simp [nothing]
  · simp [single]

-- An applied verdict on a notifying run comes with its intent.
theorem applied_intents {s : StoredRun} {a : ScanAttempt} (lawful : Lawful (Legal c seed) j)
    (stored : (ledger key j).stored = some s) (recorded : a ∈ (ledger key j).attempts)
    (applied : a.finalizationDisposition = some .applied) (notifies : s.notifies = true) :
    (ledger key j).intents = [intentOf c.deployment s] := by
  obtain ⟨actor,present⟩ := attempt_origin recorded
  obtain ⟨newer,older,rfl,_,legal⟩ := entry_split lawful present
  obtain ⟨s',stored',_,owes⟩ := legal.fact.2.applied applied
  have later := older_suffix newer ⟨actor,key,.attemptRecorded a⟩ older
  have same := stored_kept later lawful stored'
  rw [stored,Option.some.injEq] at same
  subst same
  obtain ⟨intent,stands⟩ := List.exists_mem_of_ne_nil _ (owes notifies)
  have kept := intent_kept later lawful stands
  rcases intents_exact lawful key with nothing | ⟨s',stored',_,single⟩
  · rw [nothing] at kept
    cases kept
  · rw [stored,Option.some.injEq] at stored'
    rw [single,stored']

end Intents

section Runs
variable {c : Coordinator} {nextUuid : UUID} {pool : Pool World Input PyError RunCoordinatorResult}

theorem stored_intent_sound (path : Reached c.run (Coordinator.opening unseeded nextUuid) pool) {key : Digest}
    {intent : ChildIntent} (found : pool.store.stores.intentsByKey key = some intent) :
    ∃ s newer actor scanKey older, (ledger scanKey pool.store.journal).stored = some s ∧
      pool.store.stores.runsById intent.strategyRunId = some s.run ∧
      s.previous.1 = .actionPending ∧ s.next.1 = .actionNotified ∧ s.notifies = true ∧
      pool.store.journal = newer ++ ⟨actor,scanKey,.intentStored intent⟩ :: older ∧
      writesOf intent.strategyRunId older ≠ [] := by
  have rep := reached_represents unseeded_seeded path
  obtain ⟨_,scanKey,present⟩ := rep.intents.owners key intent found
  obtain ⟨s,newer,actor,older,stored,notifies,rfl,split,written⟩ :=
    intent_sound unseeded_unfenced (reached_lawful unseeded_seeded path) present
  obtain ⟨pending,notified⟩ := s.notifies_exact.mp notifies
  exact ⟨s,newer,actor,scanKey,older,stored,rep.runs.byId scanKey s stored,pending,notified,notifies,split,written⟩

theorem completed_intent (path : Reached c.run (Coordinator.opening unseeded nextUuid) pool) {thread : Nat}
    {r : RunCoordinatorResult} (answer : returned thread pool = some r) (completed : r.disposition = .completed) :
    ∃ s, (ledger r.scanLockKey pool.store.journal).stored = some s ∧ r.strategyRun = some s.run ∧
      (s.notifies = true →
        pool.store.stores.intentsOfRun s.run.strategyRunId = [intentOf c.deployment s]) := by
  have lawful := reached_lawful unseeded_seeded path
  obtain ⟨j,later,answered⟩ := reached_answered unseeded_seeded path (returned_exact.mp answer)
  rcases answered with ⟨_,refused⟩ | ⟨_,_,_,reported,_⟩
  · rw [completed] at refused
    rcases refused with refused | refused <;> cases refused
  · obtain ⟨s,a,stored,run,recorded,applied⟩ := reported.verdict .applied (by rw [completed]; rfl)
    have stored' := stored_kept later.suffix lawful stored
    refine ⟨s,stored',run,?_⟩
    intro notifies
    rw [Stores.intentsOfRun,(reached_represents unseeded_seeded path).intents.ofRun _ s stored']
    exact applied_intents lawful stored' (attempt_kept later.suffix lawful recorded) applied notifies

-- Sound, at most one, and there when the call says the scan is completed.
theorem notification_intents (path : Reached c.run (Coordinator.opening unseeded nextUuid) pool) :
    (∀ key intent, pool.store.stores.intentsByKey key = some intent →
      ∃ s newer actor scanKey older, (ledger scanKey pool.store.journal).stored = some s ∧
        pool.store.stores.runsById intent.strategyRunId = some s.run ∧
        s.previous.1 = .actionPending ∧ s.next.1 = .actionNotified ∧ s.notifies = true ∧
        pool.store.journal = newer ++ ⟨actor,scanKey,.intentStored intent⟩ :: older ∧
        writesOf intent.strategyRunId older ≠ []) ∧
      (∀ runId, (intentsOf runId pool.store.journal).length ≤ 1) ∧
      (∀ scanKey, (ledger scanKey pool.store.journal).intents.length ≤ 1) ∧
      ∀ thread r, returned thread pool = some r → r.disposition = .completed →
        ∃ s, (ledger r.scanLockKey pool.store.journal).stored = some s ∧ r.strategyRun = some s.run ∧
          (s.notifies = true →
            pool.store.stores.intentsOfRun s.run.strategyRunId = [intentOf c.deployment s]) := by
  have lawful := reached_lawful unseeded_seeded path
  exact ⟨fun _ _ found => stored_intent_sound path found,intents_once lawful,scan_intents_once lawful,
    fun _ _ answer completed => completed_intent path answer completed⟩

-- A completed result with a run that says it notifies.
def notifiedResult (r : RunCoordinatorResult) : Bool :=
  decide (r.disposition = .completed) && r.strategyRun.any fun run => match finalizationEvidence run with
    | .ok effects => effects.notificationIntentRecorded
    | .error _ => false

set_option maxRecDepth 4000 in
theorem notified_intent : ∃ r s,
    returned 3 notifiedPool = some r ∧ r.strategyRun = some s.run ∧
      notifiedPool.store.stores.intentsOfRun s.run.strategyRunId =
        [intentOf sampleDeployment s] := by
  have found : (returned 3 notifiedPool).any notifiedResult = true := by
    decide +kernel
  obtain ⟨r,answer,test⟩ := (Option.any_eq_true _ _).mp found
  rw [notifiedResult,Bool.and_eq_true,decide_eq_true_eq] at test
  obtain ⟨_,_,_,completes⟩ := notification_intents notified_reached
  obtain ⟨s,_,run,lists⟩ := completes 3 r answer test.1
  have notifies := test.2
  simp only [run,Option.any_some,s.effects_read] at notifies
  exact ⟨r,s,answer,run,lists notifies⟩

end Runs
end SwapMonitor
