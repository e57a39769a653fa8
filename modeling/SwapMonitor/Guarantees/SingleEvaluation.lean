import SwapMonitor.Guarantees.Schedules

namespace SwapMonitor
open Interleaving

-- The leases of a scan that were handed out and not given back, by the calls they went to.
def outstanding (key : Digest) : Log → List (Option Nat × LockLease)
  | [] => []
  | e :: older =>
    if e.key = key then match e.fact with
      | .acquired lease => (e.actor,lease) :: outstanding key older
      | .released => (outstanding key older).filter fun held => held.1 != e.actor
      | _ => outstanding key older
    else outstanding key older

def Fact.provides : Fact → Bool
  | .providerCalled => true
  | _ => false

-- How often the provider was called for a scan.
def providerCalls (key : Digest) (j : Log) : Nat := j.countP fun e => e.key == key && e.fact.provides

-- The runs that were stored for a scan.
def runsOf (key : Digest) (j : Log) : List StoredRun :=
  j.filterMap fun e => match e.fact with
    | .runStored s => if e.key = key then some s else none
    | _ => none

section Books
variable {c : Coordinator} {seed : UUID → Option RecommendationStateRecord} {j : Log}

theorem provided_exact (key : Digest) (j : Log) : (ledger key j).provided = providerCalls key j := by
  induction j with
  | nil => rfl
  | cons e older ih =>
    rw [ledger_cons,providerCalls,List.countP_cons]
    by_cases here : e.key = key
    · rw [if_pos here,enter_provided,ih]
      cases e.fact <;> simp [here,Fact.provides,providerCalls]
    · simp [here,ih,providerCalls]

-- The lock hands out one lease of a scan at a time.
theorem outstanding_exact (lawful : Lawful (Legal c seed) j) (key : Digest) :
    outstanding key j = ((ledger key j).holder.map fun held => (some held.1,held.2)).toList := by
  induction j with
  | nil => rfl
  | cons e older ih =>
    have rest := ih lawful.2
    rw [cons_holder,outstanding]
    by_cases here : e.key = key
    · subst here
      have fact := lawful.1.fact
      rw [if_pos rfl]
      cases known : e.fact with
      | acquired lease =>
        rw [known] at fact
        obtain ⟨free,acting,_⟩ := fact
        obtain ⟨thread,acting⟩ := Option.isSome_iff_exists.mp acting
        simp [rest,free,acting]
      | released =>
        rw [known] at fact
        obtain ⟨⟨thread,lease,acting,held⟩,_⟩ := fact
        simp [rest,held,acting]
      | _ => exact rest
    · rw [if_neg here,rest]
      cases e.fact <;> simp [here]

theorem run_listed {key : Digest} {s : StoredRun} (listed : s ∈ runsOf key j) : ∃ actor, ⟨actor,key,.runStored s⟩ ∈ j := by
  obtain ⟨⟨actor,owner,fact⟩,present,found⟩ := List.mem_filterMap.mp listed
  cases fact with
  | runStored stored =>
    simp only at found
    split at found
    · rename_i here
      cases here
      cases found
      exact ⟨actor,present⟩
    · cases found
  | _ => cases found

theorem runs_once (lawful : Lawful (Legal c seed) j) (key : Digest) : (runsOf key j).length ≤ 1 := by
  induction j with
  | nil => exact Nat.zero_le _
  | cons e older ih =>
    have rest := ih lawful.2
    cases known : e.fact with
    | runStored s =>
      by_cases here : e.key = key
      · subst here
        have fact := lawful.1.fact
        rw [known] at fact
        have none' : runsOf e.key older = [] := by
          by_contra some'
          obtain ⟨s',listed⟩ := List.exists_mem_of_ne_nil _ some'
          obtain ⟨_,present⟩ := run_listed listed
          have stored := run_entry lawful.2 present
          rw [fact.2.unstored] at stored
          cases stored
        have newest : runsOf e.key (e :: older) = s :: runsOf e.key older := by simp [runsOf,known]
        rw [newest,none']
        exact Nat.le_refl _
      · simpa [runsOf,known,here] using rest
    | _ => simpa [runsOf,known] using rest

-- A provider call is the lease holder's, and comes before any run of the scan.
theorem provider_exclusive {newer older : Log} {actor : Option Nat} {key : Digest}
    (lawful : Lawful (Legal c seed) (newer ++ ⟨actor,key,.providerCalled⟩ :: older)) :
    (∃ lease, outstanding key older = [(actor,lease)]) ∧ runsOf key older = [] := by
  obtain ⟨⟨thread,lease,rfl,held⟩,unstored,_⟩ := (Lawful.entry lawful).fact
  have before := (Lawful.older lawful).2
  refine ⟨⟨lease,?_⟩,?_⟩
  · rw [outstanding_exact before,held]
    rfl
  · by_contra some'
    obtain ⟨s,listed⟩ := List.exists_mem_of_ne_nil _ some'
    obtain ⟨_,present⟩ := run_listed listed
    rw [run_entry before present] at unstored
    cases unstored

-- Nothing is fetched any more for a scan that has its run.
theorem provided_settled {before after : Log} {key : Digest} {s : StoredRun} (later : before <:+ after)
    (lawful : Lawful (Legal c seed) after) (stored : (ledger key before).stored = some s) :
    providerCalls key after = providerCalls key before := by
  have kept : (ledger key after).stored = some s ∧ (ledger key after).provided = (ledger key before).provided :=
    ledger_grows (P := fun L => L.stored = some s ∧ L.provided = (ledger key before).provided)
      (by
        intro e older legal holds
        have fact := legal.fact
        cases known : e.fact with
        | runStored => rw [known] at fact; rw [fact.2.unstored] at holds; cases holds.1
        | providerCalled => rw [known] at fact; rw [fact.2.1] at holds; cases holds.1
        | _ => simpa only [enter_stored,enter_provided] using holds) later lawful ⟨stored,rfl⟩
  rw [← provided_exact,← provided_exact,kept.2]

end Books

section Runs
variable {c : Coordinator} {seed : UUID → Option RecommendationStateRecord} {nextUuid : UUID}
  {pool last : Pool World Input PyError RunCoordinatorResult} {key : Digest} {scan : LogicalScanRun}

theorem completed_run (seeded : Seeded seed) (path : Reached c.run (Coordinator.opening seed nextUuid) pool)
    (found : pool.store.stores.scansByKey key = some scan) (done : scan.status = .completed) :
    (ledger key pool.store.journal).completed ∧ ∃ s, (ledger key pool.store.journal).stored = some s ∧
      runsOf key pool.store.journal = [s] ∧
      pool.store.stores.runsByLogicalScan scan.logicalScanRunId = some s.run := by
  have rep := reached_represents seeded path
  have lawful := reached_lawful seeded path
  rw [rep.scans.byKey] at found
  have completed : (ledger key pool.store.journal).completed := ⟨scan,found,done⟩
  obtain ⟨a,recorded,succeeded⟩ := completed_decided lawful completed
  obtain ⟨_,s,stored,_⟩ := verdict_stored lawful recorded succeeded
  refine ⟨completed,s,stored,?_,by rw [rep.runs.byScan key scan found,stored]; rfl⟩
  obtain ⟨actor,present⟩ := stored_origin stored
  have listed : s ∈ runsOf key pool.store.journal := List.mem_filterMap.mpr ⟨_,present,by simp⟩
  obtain ⟨only,single⟩ := List.length_eq_one_iff.mp
    (Nat.le_antisymm (runs_once lawful key) (List.length_pos_of_mem listed))
  rw [single] at listed ⊢
  rw [List.mem_singleton.mp listed]

-- A call that starts after the completion finds the completed scan, or does not get its lease.
theorem later_answer (seeded : Seeded seed) (path : Reached c.run (Coordinator.opening seed nextUuid) pool)
    (rest : Reached c.run pool last) (completed : (ledger key pool.store.journal).completed) {s : StoredRun}
    (stored : (ledger key pool.store.journal).stored = some s) {thread : Nat} {r : RunCoordinatorResult}
    (starts : pool.threads.length ≤ thread) (answer : returned thread last = some r) (own : r.scanLockKey = key) :
    Refused r ∨ r.strategyRun = some s.run := by
  have path' := Reached.trans path rest
  have lawful := reached_lawful seeded path'
  have grown := reached_grows seeded path rest
  obtain ⟨j,after,refused | ⟨lease,older,opened,reported,answers⟩⟩ :=
    reached_answered seeded path' (returned_exact.mp answer)
  · exact .inl refused
  subst own
  have acquired := opened.trans after.suffix
  have fresh := reached_fresh seeded path starts
  have before : pool.store.journal <:+ older := by
    rcases List.suffix_or_suffix_of_suffix grown acquired with inside | outside
    · rcases List.suffix_cons_iff.mp inside with same | inside
      · exact absurd rfl (fresh ⟨some thread,r.scanLockKey,.acquired lease⟩ (same ▸ List.mem_cons_self))
      · exact inside
    · exact absurd rfl (fresh _ (outside.subset List.mem_cons_self))
  have lawful' : Lawful (Legal c seed) older := by
    obtain ⟨newer,split⟩ := acquired
    rw [← split] at lawful
    exact (Lawful.older lawful).2
  obtain ⟨scan,found,done⟩ := completed
  obtain ⟨disposition,verdict⟩ := Option.isSome_iff_exists.mp
    (answers ⟨scan,completed_kept before lawful' found done,done⟩)
  obtain ⟨x,_,stored',run,_⟩ := reported.verdict disposition verdict
  have same := stored_kept after.suffix lawful stored'
  rw [stored_kept grown lawful stored,Option.some.injEq] at same
  exact .inr (same ▸ run)

-- The provider is called within the bound, by the holder of the only lease and before the
-- scan's one run; a completed scan is answered with that run wherever the lease is free.
theorem single_evaluation (seeded : Seeded seed) (path : Reached c.run (Coordinator.opening seed nextUuid) pool)
    (key : Digest) : providerCalls key pool.store.journal ≤ c.maxProviderAttempts ∧
      (∀ newer actor older, pool.store.journal = newer ++ ⟨actor,key,.providerCalled⟩ :: older →
        (∃ lease, outstanding key older = [(actor,lease)]) ∧ runsOf key older = []) ∧
      (runsOf key pool.store.journal).length ≤ 1 ∧
      ∀ scan, pool.store.stores.scansByKey key = some scan → scan.status = .completed →
        ∃ s, runsOf key pool.store.journal = [s] ∧
          pool.store.stores.runsByLogicalScan scan.logicalScanRunId = some s.run ∧
          ∀ last, Reached c.run pool last →
            providerCalls key last.store.journal = providerCalls key pool.store.journal ∧
            ∀ thread r, pool.threads.length ≤ thread → returned thread last = some r → r.scanLockKey = key →
              Refused r ∨ r.strategyRun = some s.run := by
  have lawful := reached_lawful seeded path
  refine ⟨?_,?_,runs_once lawful key,?_⟩
  · rw [← provided_exact]
    exact (provider_bounded lawful).1.trans (provider_bounded lawful).2
  · intro newer actor older split
    exact provider_exclusive (split ▸ lawful)
  · intro scan found done
    obtain ⟨completed,s,stored,single,held⟩ := completed_run seeded path found done
    refine ⟨s,single,held,?_⟩
    intro last rest
    refine ⟨?_,?_⟩
    · exact provided_settled (reached_grows seeded path rest) (reached_lawful seeded (Reached.trans path rest)) stored
    · intro thread r starts answer own
      exact later_answer seeded path rest completed stored starts answer own

-- One completed call, and then two more for the same scan: the first of them holds the lease
-- while the second asks for it.
def completedPool : Pool World Input PyError RunCoordinatorResult :=
  sampleCoordinator.replay emptyPool (.start (sampleRequest 0) :: turns 0 21 activating)

def contendedPool : Pool World Input PyError RunCoordinatorResult :=
  sampleCoordinator.replay completedPool
    (.start (sampleRequest 0) :: turns 1 3 activating ++ .start (sampleRequest 0) :: turns 2 3 activating)

theorem completed_reached : Reached sampleCoordinator.run (Coordinator.opening unseeded 100) completedPool :=
  replay_reached sampleCoordinator emptyPool _

theorem contended_reached : Reached sampleCoordinator.run completedPool contendedPool :=
  replay_reached sampleCoordinator completedPool _

set_option maxRecDepth 4000 in
theorem contended_single : ∃ s, runsOf 0 completedPool.store.journal = [s] ∧
    providerCalls 0 contendedPool.store.journal = providerCalls 0 completedPool.store.journal := by
  have found : (completedPool.store.stores.scansByKey 0).any (fun scan => scan.status == .completed) = true := by
    decide +kernel
  obtain ⟨scan,found,done⟩ := (Option.any_eq_true _ _).mp found
  obtain ⟨_,_,_,settles⟩ := single_evaluation unseeded_seeded completed_reached 0
  obtain ⟨s,single,_,later⟩ := settles scan found (by simpa using done)
  exact ⟨s,single,(later contendedPool contended_reached).1⟩

-- A call that finds the lease taken returns no run, completed or not.
set_option maxRecDepth 4000 in
theorem contended_without_run : ¬ ∀ pool, Reached sampleCoordinator.run (Coordinator.opening unseeded 100) pool →
    ∀ key scan, pool.store.stores.scansByKey key = some scan → scan.status = .completed →
      ∃ s, runsOf key pool.store.journal = [s] ∧ ∀ last, Reached sampleCoordinator.run pool last →
        ∀ thread r, pool.threads.length ≤ thread → returned thread last = some r → r.scanLockKey = key →
          r.strategyRun = some s.run := by
  intro answers
  have found : (completedPool.store.stores.scansByKey 0).any (fun scan => scan.status == .completed) = true := by
    decide +kernel
  have refused : (returned 2 contendedPool).any (fun r => r.scanLockKey == 0 && r.strategyRun.isNone) = true := by
    decide +kernel
  have started : completedPool.threads.length ≤ 2 := by decide +kernel
  obtain ⟨scan,found,done⟩ := (Option.any_eq_true _ _).mp found
  obtain ⟨r,answer,test⟩ := (Option.any_eq_true _ _).mp refused
  rw [Bool.and_eq_true,beq_iff_eq,Option.isNone_iff_eq_none] at test
  obtain ⟨s,_,later⟩ := answers completedPool completed_reached 0 scan found (by simpa using done)
  have run := later contendedPool contended_reached 2 r started answer test.1
  rw [test.2] at run
  cases run

end Runs
end SwapMonitor
