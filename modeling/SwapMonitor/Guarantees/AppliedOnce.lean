import SwapMonitor.Guarantees.Schedules

namespace SwapMonitor
open Interleaving

instance (s : StoredRun) (current : RecommendationStateRecord) : Decidable (Returned s current) :=
  inferInstanceAs (Decidable (_ ∧ _))

-- The adjudication compares the pair alone. It is sound where the record that is back at the
-- pair a run started from is still the revision the run was evaluated from.
def AtSource (e : Entry Digest Fact) (older : Log) : Prop :=
  match e.fact with
  | .adjudicated current => ∀ s ∈ (ledger e.key older).stored, Returned s current →
      current.revision = s.source.revision
  | _ => True

instance (e : Entry Digest Fact) (older : Log) : Decidable (AtSource e older) :=
  inferInstanceAs (Decidable (AskedOfAdjudicated
    (fun current => ∀ s ∈ (ledger e.key older).stored, Returned s current → current.revision = s.source.revision) e.fact))

-- A stored run is written at most once, and over the very record it was computed from.
def AppliedOnce (j : Log) : Prop := ∀ actor key s, ⟨actor,key,.runStored s⟩ ∈ j →
  (writesOf s.run.strategyRunId j).length ≤ 1 ∧ ∀ write ∈ writesOf s.run.strategyRunId j, write.1 = s.source

section Writes
variable {c : Coordinator} {seed : UUID → Option RecommendationStateRecord} {j : Log} {key : Digest}

theorem source_read {s : StoredRun} (lawful : Lawful (Legal c seed) j) (stored : (ledger key j).stored = some s) :
    ∃ before, before <:+ j ∧ recordOf seed s.candidate.plan.rotationPlanId before = some s.source := by
  obtain ⟨_,newer,between,before,_,split,read,_⟩ := source_origin lawful stored
  refine ⟨before,?_,read⟩
  rw [split]
  exact older_suffix _ _ before

-- A write of a stored run replaces the record the run was adjudicated against; where the
-- revision is the run's own, that is the record it was evaluated from.
theorem write_source {s : StoredRun} {e : Entry Digest Fact} {older : Log}
    {previous updated : RecommendationStateRecord} (unclaimed : Unclaimed seed)
    (lawful : Lawful (Legal c seed) (e :: older)) (atSource : Lawful AtSource older)
    (known : e.fact = .transitioned previous updated)
    (fence : updated.finalizationStrategyRunId = some s.run.strategyRunId)
    (stored : (ledger key older).stored = some s) : previous = s.source := by
  obtain ⟨s',stored',same,phase,taken⟩ := fenced_write lawful.1 known fence
  obtain ⟨rfl,rfl⟩ := run_unique lawful.2 stored stored' same.symm
  obtain ⟨_,newer,before,rfl,_⟩ := adjudication_origin lawful.2 phase
  obtain ⟨s',stored',current⟩ := (Lawful.entry lawful.2).fact.2.stored
  have same := stored_kept (older_suffix newer _ before) lawful.2 stored'
  rw [stored,Option.some.injEq] at same
  subst same
  have returned : Returned s previous := by
    rcases taken with returned | ⟨_,claimed⟩
    · exact returned
    · exact absurd claimed (record_unclaimed (Lawful.older lawful.2).2 unclaimed current)
  have revision : previous.revision = s.source.revision := Lawful.entry atSource s stored' returned
  obtain ⟨first,later,read⟩ := source_read (Lawful.older lawful.2).2 stored'
  obtain ⟨record,known',_,exact⟩ := record_grows later (Lawful.older lawful.2).2 read
  rw [current,Option.some.injEq] at known'
  subst known'
  exact exact revision

theorem writes_source {s : StoredRun} (unclaimed : Unclaimed seed) (lawful : Lawful (Legal c seed) j)
    (atSource : Lawful AtSource j) (stored : (ledger key j).stored = some s)
    {write : RecommendationStateRecord × RecommendationStateRecord} (listed : write ∈ writesOf s.run.strategyRunId j) :
    write.1 = s.source := by
  obtain ⟨e,present,known,fence⟩ := write_exact.mp listed
  obtain ⟨newer,older,rfl,before,legal⟩ := entry_split lawful present
  obtain ⟨s',stored',same,_⟩ := fenced_write legal known fence
  obtain ⟨rfl,rfl⟩ := run_unique lawful stored (stored_kept (older_suffix newer e older) lawful stored') same.symm
  exact write_source unclaimed lawful.older (Lawful.older atSource).2 known fence stored'

-- After a write the revision has moved on for good, so no second write finds the source.
theorem writes_once (unclaimed : Unclaimed seed) (lawful : Lawful (Legal c seed) j) (atSource : Lawful AtSource j)
    (runId : UUID) : (writesOf runId j).length ≤ 1 := by
  induction j with
  | nil => exact Nat.zero_le _
  | cons e older ih =>
    have rest := ih lawful.2 atSource.2
    rw [writes_cons]
    cases known : e.fact with
    | transitioned previous updated =>
      dsimp only
      split
      · rename_i fence
        obtain ⟨s,stored,rfl,_⟩ := fenced_write lawful.1 known fence
        have source := write_source unclaimed lawful atSource.2 known fence stored
        have none' : writesOf s.run.strategyRunId older = [] := by
          by_contra some'
          obtain ⟨⟨previous',updated'⟩,listed⟩ := List.exists_mem_of_ne_nil _ some'
          have source' : previous' = s.source := writes_source unclaimed lawful.2 atSource.2 stored listed
          obtain ⟨e',present,known',_⟩ := write_exact.mp listed
          obtain ⟨newer,older',rfl,_,legal⟩ := entry_split lawful.2 present
          have fact := legal.fact
          rw [known'] at fact
          have wrote : recordOf seed updated'.rotationPlanId (e' :: older') = some updated' := by
            rw [record_cons,known']
            simp [Fact.record]
          obtain ⟨record,found,grown,_⟩ := record_grows (List.suffix_append newer _) lawful.2 wrote
          have fact' := lawful.1.fact
          rw [known] at fact'
          have plan : updated'.rotationPlanId = updated.rotationPlanId := by
            rw [← fact.2.plan,← fact'.2.plan,source,source']
          rw [plan,fact'.2.current,Option.some.injEq] at found
          rw [← found,fact.2.revision,source,source'] at grown
          omega
        rw [none']
        exact Nat.le_refl _
      · exact rest
    | _ => exact rest

end Writes

section Runs
variable {c : Coordinator} {nextUuid : UUID} {pool : Pool World Input PyError RunCoordinatorResult}

-- In every run whose adjudications all find a returned pair at its own revision, every stored
-- decision is applied at most once and never stale.
theorem applied_once (path : Reached c.run (Coordinator.opening unseeded nextUuid) pool)
    (atSource : Lawful AtSource pool.store.journal) : AppliedOnce pool.store.journal := by
  have lawful := reached_lawful unseeded_seeded path
  intro actor key s present
  refine ⟨writes_once unseeded_unclaimed lawful atSource _,?_⟩
  intro write listed
  exact writes_source unseeded_unclaimed lawful atSource (run_entry lawful present) listed

set_option maxRecDepth 4000 in
theorem notified_applied_once : AppliedOnce notifiedPool.store.journal :=
  applied_once notified_reached (by decide +kernel)

-- The near signal of the second call is written, the call is abandoned, adverse data and a
-- recovery bring the pair back, and the retry writes it again.
def writtenTwicePool : Pool World Input PyError RunCoordinatorResult :=
  sampleCoordinator.replay emptyPool
    (.start (sampleRequest 0) :: turns 0 21 activating ++
      .start (sampleRequest 1) :: turns 1 16 nearing ++ [.step 1 (abandoning nearing),.step 1 nearing] ++
      .start (sampleRequest 2) :: turns 2 16 degrading ++
      .start (sampleRequest 3) :: turns 3 21 recovering ++
      .start (sampleRequest 1) :: turns 4 8 nearing)

set_option maxRecDepth 4000 in
theorem written_twice : Reached sampleCoordinator.run (Coordinator.opening unseeded 100) writtenTwicePool ∧
    ¬ AppliedOnce writtenTwicePool.store.journal := by
  refine ⟨replay_reached sampleCoordinator emptyPool _,?_⟩
  intro once
  have found : writtenTwicePool.store.journal.any (fun e => e.fact.storesRun fun s =>
      decide (1 < (writesOf s.run.strategyRunId writtenTwicePool.store.journal).length)) = true := by decide +kernel
  obtain ⟨newer,actor,key,fact,older,split,stores⟩ := entered found
  obtain ⟨s,rfl,test⟩ := stores_run stores
  have twice := of_decide_eq_true test
  have most := (once actor key s (by rw [split]; simp)).1
  omega

end Runs
end SwapMonitor
