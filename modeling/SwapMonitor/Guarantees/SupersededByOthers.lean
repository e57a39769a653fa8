import SwapMonitor.Guarantees.Verdicts

namespace SwapMonitor
open Interleaving

-- After the record a run was evaluated from was read, the plan's record was written without
-- the run's fence.
def Overwritten (s : StoredRun) (j : Log) : Prop :=
  ∃ newer e between reader key before previous updated,
    j = newer ++ e :: between ++ ⟨some reader,key,.evaluatedFrom s.source⟩ :: before ∧
    e.fact = .transitioned previous updated ∧ updated.rotationPlanId = s.candidate.plan.rotationPlanId ∧
    updated.finalizationStrategyRunId ≠ some s.run.strategyRunId

theorem Overwritten.later {s : StoredRun} {before after : Log} (overwritten : Overwritten s before)
    (later : before <:+ after) : Overwritten s after := by
  obtain ⟨new,rfl⟩ := later
  obtain ⟨newer,e,between,reader,key,older,previous,updated,rfl,known,own,other⟩ := overwritten
  exact ⟨new ++ newer,e,between,reader,key,older,previous,updated,by simp,known,own,other⟩

section Books
variable {c : Coordinator} {seed : UUID → Option RecommendationStateRecord} {j : Log} {key : Digest} {s : StoredRun}

-- While only the run itself writes, the record is the one it was evaluated from or its own.
theorem record_followed {between before : Log} (seeded : Seeded seed) (later : between ++ before <:+ j) (lawful : Lawful (Legal c seed) j)
    (stored : (ledger key j).stored = some s)
    (read : recordOf seed s.candidate.plan.rotationPlanId before = some s.source)
    (own : ∀ e ∈ between, ∀ previous updated, e.fact = .transitioned previous updated →
      updated.rotationPlanId = s.candidate.plan.rotationPlanId →
      updated.finalizationStrategyRunId = some s.run.strategyRunId) :
    ∃ current, recordOf seed s.candidate.plan.rotationPlanId (between ++ before) = some current ∧
      (current = s.source ∨ Fenced s current) := by
  induction between with
  | nil => exact ⟨s.source,read,.inl rfl⟩
  | cons e between ih =>
    have inside := (List.suffix_cons e (between ++ before)).trans later
    obtain ⟨current,found,stands⟩ := ih inside fun e' present => own e' (List.mem_cons_of_mem e present)
    obtain ⟨newer,rfl⟩ := later
    rcases record_step (Lawful.older lawful).1 found with same | ⟨updated,known,replaced,_⟩
    · exact ⟨current,same,stands⟩
    · refine ⟨updated,replaced,.inr ?_⟩
      have fact := (Lawful.older lawful).1.fact
      rw [known] at fact
      have plan := record_plan (Lawful.older lawful) seeded replaced
      have fence := own e List.mem_cons_self current updated known plan
      rcases fact.2.move with ⟨_,_,none',_⟩ | ⟨s',stored',_,_,pair,run,finalKey,_⟩
      · rw [none'] at fence
        cases fence
      · rw [run,Option.some.injEq] at fence
        obtain ⟨_,rfl⟩ := run_unique lawful stored (stored_kept inside lawful stored') fence.symm
        exact ⟨pair,run,finalKey⟩

-- A run that moves the pair and is lost was overtaken: somebody wrote the record between the
-- reading of its source and its adjudication.
theorem lost_written {current : RecommendationStateRecord} (seeded : Seeded seed) (lawful : Lawful (Legal c seed) j)
    (stored : (ledger key j).stored = some s)
    (found : recordOf seed s.candidate.plan.rotationPlanId j = some current) (moves : s.previous ≠ s.next)
    (lost : Lost s current) : ∃ reader newer between before, (ledger key j).author = some reader ∧
      j = newer ++ ⟨some reader,key,.runStored s⟩ :: between ++ ⟨some reader,key,.evaluatedFrom s.source⟩ :: before ∧
      (∀ late early, between = late ++ early →
        (ledger key (early ++ ⟨some reader,key,.evaluatedFrom s.source⟩ :: before)).phase = .evaluated s.source) ∧
      ∃ e ∈ newer ++ ⟨some reader,key,.runStored s⟩ :: between, ∃ previous updated,
        e.fact = .transitioned previous updated ∧ updated.rotationPlanId = s.candidate.plan.rotationPlanId ∧
        updated.finalizationStrategyRunId ≠ some s.run.strategyRunId := by
  obtain ⟨reader,newer,between,before,author,split,read,lasts⟩ := source_origin lawful stored
  refine ⟨reader,newer,between,before,author,split,lasts,?_⟩
  by_contra alone
  have own : ∀ e ∈ newer ++ ⟨some reader,key,.runStored s⟩ :: between ++ [⟨some reader,key,.evaluatedFrom s.source⟩],
      ∀ previous updated, e.fact = .transitioned previous updated →
        updated.rotationPlanId = s.candidate.plan.rotationPlanId →
        updated.finalizationStrategyRunId = some s.run.strategyRunId := by
    intro e present previous updated known plan
    by_contra other
    rcases List.mem_append.mp present with present | reading
    · exact alone ⟨e,present,previous,updated,known,plan,other⟩
    · cases List.mem_singleton.mp reading
      cases known
  have whole : newer ++ ⟨some reader,key,.runStored s⟩ :: between ++ [⟨some reader,key,.evaluatedFrom s.source⟩] ++
      before = j := by rw [split]; simp
  obtain ⟨record,known,stands⟩ := record_followed seeded (whole ▸ List.suffix_refl _) lawful stored read own
  rw [whole,found,Option.some.injEq] at known
  subst known
  rcases stands with rfl | fenced
  · exact lost.2 ⟨rfl,moves⟩
  · exact lost.1 fenced

theorem unbroken (works : ∀ e ∈ j, ∀ error, e.fact ≠ .failed error) (key : Digest) : (ledger key j).broken = false := by
  induction j with
  | nil => rfl
  | cons e older ih =>
    have rest := ih fun e' present => works e' (List.mem_cons_of_mem e present)
    rw [ledger_cons]
    split
    · cases known : e.fact with
      | failed error => exact absurd known (works e List.mem_cons_self error)
      | transitioned => simp only [ScanLedger.enter]; split <;> exact rest
      | _ => exact rest
    · exact rest

-- Where no operation fails, a run is judged under the lease it was stored under.
theorem judged_by_author {thread : Nat} {lease : LockLease} (unclaimed : Unclaimed seed)
    (lawful : Lawful (Legal c seed) j) (works : ∀ e ∈ j, ∀ error, e.fact ≠ .failed error)
    (stored : (ledger key j).stored = some s) (held : (ledger key j).holder = some (thread,lease))
    (running : ¬ (ledger key j).completed) : (ledger key j).author = some thread := by
  induction j with
  | nil => cases stored
  | cons e older ih =>
    have works' := fun e' present => works e' (List.mem_cons_of_mem e present)
    have rest := ih lawful.2 works'
    by_cases here : e.key = key
    · subst here
      have fact := lawful.1.fact
      rw [ledger_cons,if_pos rfl] at stored held running ⊢
      rw [enter_author]
      cases known : e.fact with
      | acquired lease' =>
        rw [known] at fact running
        simp only [known,enter_stored] at stored
        refine absurd (free_settled lawful.2 unclaimed fact.1) ?_
        intro settled
        rcases settled (by rw [stored]; rfl) with completed | broke
        · exact running completed
        · rw [unbroken works'] at broke; cases broke
      | runStored new =>
        rw [known] at fact
        rw [known,enter_holder] at held
        obtain ⟨⟨thread',lease',acting,held'⟩,_⟩ := fact
        rw [held',Option.some.injEq,Prod.mk.injEq] at held
        rw [acting,held.1]
      | scanCreated scan =>
        rw [known] at fact
        rw [known,enter_stored] at stored
        rw [(unscanned lawful.2 fact.2.1).2] at stored
        cases stored
      | completed scan =>
        rw [known] at fact running
        obtain ⟨_,_,_,_,_,_,_,_,_,done,_⟩ := fact
        exact absurd ⟨scan,rfl,done⟩ running
      | released => rw [known] at held; cases held
      | failed error => exact absurd known (works e List.mem_cons_self error)
      | _ =>
        rw [known,enter_stored] at stored
        rw [known,enter_holder] at held
        rw [known,ScanLedger.completed,enter_scan] at running
        exact rest stored held running
    · rw [ledger_other older here] at stored held running ⊢
      exact rest stored held running

-- One at a time and without failures, whoever wrote after the source was read is the author.
theorem nobody_between {reader : Nat} {newer between before : Log} {e : Entry Digest Fact}
    {previous updated current : RecommendationStateRecord} {rest : Log}
    (split : j = newer ++ ⟨some reader,key,.runStored s⟩ :: between ++ ⟨some reader,key,.evaluatedFrom s.source⟩ :: before)
    (lawful : Lawful (Legal c seed) j) (stored : (ledger key j).stored = some s)
    (lasts : ∀ late early, between = late ++ early →
      (ledger key (early ++ ⟨some reader,key,.evaluatedFrom s.source⟩ :: before)).phase = .evaluated s.source)
    (ordered : (rest ++ ⟨some reader,key,.adjudicated current⟩ :: j).Pairwise
      fun newer older => ∀ a b, newer.actor = some a → older.actor = some b → b ≤ a)
    (present : e ∈ newer ++ ⟨some reader,key,.runStored s⟩ :: between)
    (known : e.fact = .transitioned previous updated) :
    updated.finalizationStrategyRunId = some s.run.strategyRunId := by
  have placed : ∃ n older, j = n ++ e :: older ∧ ⟨some reader,key,.evaluatedFrom s.source⟩ ∈ older ∧
      ¬ ((ledger key older).stored = none ∧ (ledger key older).phase = .idle) := by
    rcases List.mem_append.mp present with inside | inside
    · obtain ⟨n,older,rfl⟩ := List.append_of_mem inside
      refine ⟨n,older ++ ⟨some reader,key,.runStored s⟩ :: between ++ ⟨some reader,key,.evaluatedFrom s.source⟩ :: before,
        by rw [split]; simp,by simp,?_⟩
      rintro ⟨unstored,_⟩
      have whole : j = (n ++ [e]) ++ (older ++ ⟨some reader,key,.runStored s⟩ :: between ++
          ⟨some reader,key,.evaluatedFrom s.source⟩ :: before) := by rw [split]; simp
      rw [whole] at lawful
      have kept := run_entry (Lawful.older lawful)
        (show (⟨some reader,key,.runStored s⟩ : Entry Digest Fact) ∈ _ by simp)
      rw [unstored] at kept
      cases kept
    · rcases List.mem_cons.mp inside with rfl | inside
      · cases known
      · obtain ⟨late,early,rfl⟩ := List.append_of_mem inside
        refine ⟨newer ++ ⟨some reader,key,.runStored s⟩ :: late,early ++ ⟨some reader,key,.evaluatedFrom s.source⟩ :: before,
          by rw [split]; simp,by simp,?_⟩
        rintro ⟨_,idle⟩
        rw [lasts (late ++ [e]) early (by simp)] at idle
        cases idle
  obtain ⟨n,older,split',read,busy⟩ := placed
  rw [split'] at lawful stored ordered
  have legal := Lawful.entry lawful
  have fact := legal.fact
  rw [known] at fact
  obtain ⟨⟨writer,lease,acting,_⟩,written⟩ := fact
  have bounds := (List.pairwise_append.mp ordered).2.1
  rw [List.pairwise_cons] at bounds
  have below : writer ≤ reader := bounds.1 e (by simp) reader writer rfl acting
  have above : reader ≤ writer :=
    (List.pairwise_cons.mp (List.pairwise_append.mp bounds.2).2.1).1 _ read writer reader acting rfl
  obtain rfl : reader = writer := Nat.le_antisymm above below
  have here : key = e.key := legal.single _ read acting.symm
  subst here
  rcases written.move with ⟨unstored,idle,_⟩ | ⟨s',stored',_,_,_,run,_⟩
  · exact absurd ⟨unstored,idle⟩ busy
  · have same := stored_kept (older_suffix n e older) lawful stored'
    rw [stored,Option.some.injEq] at same
    rw [run,same]

-- What a SUPERSEDED verdict goes back to: an adjudication that found the run lost.
theorem superseded_origin (lawful : Lawful (Legal c seed) j) (stored : (ledger key j).stored = some s)
    (said : (ledger key j).tells .superseded) : ∃ judge current newer older,
      j = newer ++ ⟨some judge,key,.adjudicated current⟩ :: older ∧ (ledger key older).stored = some s ∧
      recordOf seed s.candidate.plan.rotationPlanId older = some current ∧ Lost s current ∧
      ¬ (ledger key older).completed ∧ ∃ lease, (ledger key older).holder = some (judge,lease) := by
  obtain ⟨a,recorded,superseded⟩ := said
  obtain ⟨actor,present⟩ := attempt_origin recorded
  obtain ⟨newer,before,rfl,lawful',legal⟩ := entry_split lawful present
  obtain ⟨s',current,stored',phase,lost⟩ := legal.fact.2.superseded superseded
  have same := stored_kept (older_suffix newer _ before) lawful stored'
  rw [stored,Option.some.injEq] at same
  subst same
  obtain ⟨judge,middle,older,rfl,_⟩ := adjudication_origin lawful' phase
  obtain ⟨⟨judge',lease,acting,held⟩,adjudication⟩ := (Lawful.entry lawful').fact
  cases acting
  obtain ⟨s',before',found⟩ := adjudication.stored
  have same := stored_kept (older_suffix middle _ older) lawful' before'
  rw [stored',Option.some.injEq] at same
  subst same
  exact ⟨judge,current,newer ++ ⟨actor,key,.attemptRecorded a⟩ :: middle,older,by simp,before',found,lost,
    adjudication.unfinished,lease,held⟩

-- Whatever was written after the source was read is of a later revision.
theorem overwritten_grows (lawful : Lawful (Legal c seed) j) (overwritten : Overwritten s j) :
    ∃ e ∈ j, ∃ previous updated, e.fact = .transitioned previous updated ∧ s.source.revision < updated.revision := by
  obtain ⟨newer,e,between,reader,owner,before,previous,updated,rfl,known,own,_⟩ := overwritten
  refine ⟨e,by simp,previous,updated,known,?_⟩
  rw [List.append_assoc,List.cons_append] at lawful
  have fact := (Lawful.entry lawful).fact
  rw [known] at fact
  have rest := (Lawful.older lawful).2
  have read := (Lawful.entry rest).fact.2.2.2
  obtain ⟨record,found,grown,_⟩ := record_grows (older_suffix between _ before) rest read
  rw [s.source_plan,← own,fact.2.current,Option.some.injEq] at found
  rw [fact.2.revision,found]
  omega

end Books

section Runs
variable {c : Coordinator} {nextUuid : UUID} {pool : Pool World Input PyError RunCoordinatorResult}

theorem superseded_tells (path : Reached c.run (Coordinator.opening unseeded nextUuid) pool) {key : Digest} {s : StoredRun}
    (stored : (ledger key pool.store.journal).stored = some s) (superseded : Superseded pool key s) :
    (ledger key pool.store.journal).tells .superseded := by
  rcases superseded with said | ⟨thread,r,answer,disposition,run⟩
  · exact said
  · exact reported_recorded path stored answer (by rw [disposition]; rfl) run

-- A verdict is reported with the scan's run.
theorem answered_run (path : Reached c.run (Coordinator.opening unseeded nextUuid) pool) {thread : Nat}
    {r : RunCoordinatorResult} {s : StoredRun} {disposition : FinalizationDisposition}
    (answer : returned thread pool = some r) (verdict : r.disposition.verdict = some disposition)
    (stored : (ledger r.scanLockKey pool.store.journal).stored = some s) : r.strategyRun = some s.run := by
  obtain ⟨j,later,⟨_,refused⟩ | ⟨_,_,_,reported,_⟩⟩ :=
    reached_answered unseeded_seeded path (returned_exact.mp answer)
  · rcases refused with refused | refused <;> rw [refused] at verdict <;> cases verdict
  · obtain ⟨x,_,stored',run,_⟩ := reported.verdict disposition verdict
    have same := stored_kept later.suffix (reached_lawful unseeded_seeded path) stored'
    rw [stored,Option.some.injEq] at same
    rw [run,same]

-- A run that moves the pair is superseded only by somebody else's write; one call at a time
-- and without failures, no such run is superseded.
theorem superseded_by_others (path : Reached c.run (Coordinator.opening unseeded nextUuid) pool) {key : Digest}
    {s : StoredRun} (stored : (ledger key pool.store.journal).stored = some s) (superseded : Superseded pool key s)
    (moves : s.previous ≠ s.next) : Overwritten s pool.store.journal ∧
      ¬ (Alone c.run (Coordinator.opening unseeded nextUuid) pool ∧
        ∀ e ∈ pool.store.journal, ∀ error, e.fact ≠ .failed error) := by
  have lawful := reached_lawful unseeded_seeded path
  obtain ⟨judge,current,rest,older,split,stored',found,lost,running,lease,held⟩ :=
    superseded_origin lawful stored (superseded_tells path stored superseded)
  have lawful' : Lawful (Legal c unseeded) older := by
    rw [split] at lawful
    exact (Lawful.older lawful).2
  obtain ⟨reader,newer,between,before,author,split',lasts,e,present,previous,updated,known,own,other⟩ :=
    lost_written unseeded_seeded lawful' stored' found moves lost
  refine ⟨?_,?_⟩
  · obtain ⟨late,early,inside⟩ := List.append_of_mem present
    have overwritten : Overwritten s older := by
      refine ⟨late,e,early,reader,key,before,previous,updated,?_,known,own,other⟩
      rw [split',inside]
    exact overwritten.later (split ▸ older_suffix rest _ older)
  · rintro ⟨alone,works⟩
    have same := judged_by_author unseeded_unclaimed lawful'
      (fun e inside => works e (by rw [split]; simp [inside])) stored' held running
    rw [author,Option.some.injEq] at same
    subst same
    have ordered := alone_ordered unseeded_seeded alone
    rw [split] at ordered
    exact other (nobody_between split' lawful' stored' lasts ordered present known)

-- A near signal overtaken by adverse data, and judged by the retry.
def overtakenCalls : List (Move RunCoordinatorRequest Input) :=
  .start (sampleRequest 0) :: turns 0 21 activating ++
    .start (sampleRequest 1) :: turns 1 14 nearing ++ [.step 1 (abandoning nearing),.step 1 nearing] ++
    .start (sampleRequest 2) :: turns 2 16 degrading ++ .start (sampleRequest 1) :: turns 3 12 nearing

def overtakenPool : Pool World Input PyError RunCoordinatorResult := sampleCoordinator.replay emptyPool overtakenCalls

theorem overtaken_reached : Reached sampleCoordinator.run (Coordinator.opening unseeded 100) overtakenPool :=
  replay_reached sampleCoordinator emptyPool overtakenCalls

set_option maxRecDepth 4000 in
theorem overtaken_by_others : ∃ s, (ledger 3 overtakenPool.store.journal).stored = some s ∧
    Superseded overtakenPool 3 s ∧ Overwritten s overtakenPool.store.journal := by
  have moves : (ledger 3 overtakenPool.store.journal).stored.any (fun s => decide (s.previous ≠ s.next)) = true := by
    decide +kernel
  have said : (ledger 3 overtakenPool.store.journal).tells .superseded := by decide +kernel
  obtain ⟨s,stored,test⟩ := (Option.any_eq_true _ _).mp moves
  exact ⟨s,stored,.inl said,(superseded_by_others overtaken_reached stored (.inl said) (of_decide_eq_true test)).1⟩

-- The plan is activated twice, one call after the other: the second activation changes
-- nothing, finds the fence of the first, and is superseded.
def repeatedCalls : List (Move RunCoordinatorRequest Input) :=
  .start (sampleRequest 0) :: turns 0 21 activating ++ .start (sampleRequest 1) :: turns 1 20 activating

def repeatedPool : Pool World Input PyError RunCoordinatorResult := sampleCoordinator.replay emptyPool repeatedCalls

set_option maxRecDepth 4000 in
theorem repeated_alone : Alone sampleCoordinator.run (Coordinator.opening unseeded 100) repeatedPool := by
  have orderly : sequential sampleCoordinator.run emptyPool repeatedCalls = true := by decide +kernel
  have ran : (schedule sampleCoordinator.run emptyPool repeatedCalls).isSome = true := by decide +kernel
  obtain ⟨last,ran⟩ := Option.isSome_iff_exists.mp ran
  rw [repeatedPool,Coordinator.replay,ran,Option.getD_some]
  exact sequential_alone .initial orderly ran

theorem repeated_reached : Reached sampleCoordinator.run (Coordinator.opening unseeded 100) repeatedPool :=
  repeated_alone.reached

def Fact.fails : Fact → Bool
  | .failed _ => true
  | _ => false

theorem none_fails {j : Log} (works : j.all (fun e => !e.fact.fails) = true) :
    ∀ e ∈ j, ∀ error, e.fact ≠ .failed error := by
  intro e present error known
  have fails := List.all_eq_true.mp works e present
  simp [known,Fact.fails] at fails

theorem not_overwritten (path : Reached c.run (Coordinator.opening unseeded nextUuid) pool) {s : StoredRun}
    (early : pool.store.journal.all (fun e => !e.fact.writes fun updated =>
      decide (s.source.revision < updated.revision)) = true) : ¬ Overwritten s pool.store.journal := by
  intro overwritten
  obtain ⟨e,present,previous,updated,known,grown⟩ :=
    overwritten_grows (reached_lawful unseeded_seeded path) overwritten
  have stays := List.all_eq_true.mp early e present
  simp [known,Fact.writes,grown] at stays

set_option maxRecDepth 4000 in
theorem repeated_superseded : ∃ r s, Alone sampleCoordinator.run (Coordinator.opening unseeded 100) repeatedPool ∧
    (∀ e ∈ repeatedPool.store.journal, ∀ error, e.fact ≠ .failed error) ∧ returned 1 repeatedPool = some r ∧
    r.disposition = .superseded ∧ r.strategyRun = some s.run ∧ Superseded repeatedPool 3 s ∧
    ¬ Overwritten s repeatedPool.store.journal := by
  have works : repeatedPool.store.journal.all (fun e => !e.fact.fails) = true := by decide +kernel
  have answered : (returned 1 repeatedPool).any (fun r => decide (r.disposition = .superseded) &&
      r.scanLockKey == 3) = true := by decide +kernel
  have early : (ledger 3 repeatedPool.store.journal).stored.any (fun s => repeatedPool.store.journal.all fun e =>
      !e.fact.writes fun updated => decide (s.source.revision < updated.revision)) = true := by decide +kernel
  obtain ⟨r,answer,test⟩ := (Option.any_eq_true _ _).mp answered
  rw [Bool.and_eq_true,decide_eq_true_eq,beq_iff_eq] at test
  obtain ⟨s,stored,revisions⟩ := (Option.any_eq_true _ _).mp early
  have run : r.strategyRun = some s.run :=
    answered_run repeated_reached answer (by rw [test.1]; rfl : _ = some .superseded) (test.2 ▸ stored)
  exact ⟨r,s,repeated_alone,none_fails works,answer,test.1,run,.inr ⟨1,r,answer,test.1,run⟩,
    not_overwritten repeated_reached revisions⟩

end Runs
end SwapMonitor
