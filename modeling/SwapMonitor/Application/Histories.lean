import SwapMonitor.Application.Reachable

namespace SwapMonitor
open Interleaving

-- The accepted writes that carry a run's fence, newest first.
def writesOf (runId : UUID) (j : Log) : List (RecommendationStateRecord × RecommendationStateRecord) :=
  j.filterMap fun e => match e.fact with
    | .transitioned previous updated =>
      if updated.finalizationStrategyRunId = some runId then some (previous,updated) else none
    | _ => none

-- The intents stored for a run, and those stored by the calls of one scan.
def intentsOf (runId : UUID) (j : Log) : List ChildIntent :=
  j.filterMap fun e => match e.fact with
    | .intentStored intent => if intent.strategyRunId = runId then some intent else none
    | _ => none

section Lists
variable {runId : UUID} {j : Log}

theorem writes_cons (runId : UUID) (e : Entry Digest Fact) (j : Log) : writesOf runId (e :: j) =
    (match e.fact with
      | .transitioned previous updated =>
        if updated.finalizationStrategyRunId = some runId then [(previous,updated)] else []
      | _ => []) ++ writesOf runId j := by
  unfold writesOf
  rw [List.filterMap_cons]
  cases e.fact <;> simp
  split <;> simp_all

theorem writes_kept {before after : Log} (later : before <:+ after) (some' : writesOf runId before ≠ []) :
    writesOf runId after ≠ [] := by
  obtain ⟨new,rfl⟩ := later
  rw [writesOf,List.filterMap_append]
  exact List.append_ne_nil_of_right_ne_nil _ some'

theorem write_exact {previous updated : RecommendationStateRecord} : (previous,updated) ∈ writesOf runId j ↔
    ∃ e ∈ j, e.fact = .transitioned previous updated ∧ updated.finalizationStrategyRunId = some runId := by
  unfold writesOf
  rw [List.mem_filterMap]
  constructor
  · rintro ⟨e,present,found⟩
    refine ⟨e,present,?_⟩
    cases known : e.fact with
    | transitioned previous' updated' =>
      simp only [known] at found
      split at found
      · cases found; exact ⟨rfl,by assumption⟩
      · cases found
    | _ => simp [known] at found
  · rintro ⟨e,present,known,fence⟩
    exact ⟨e,present,by simp [known,fence]⟩

theorem intent_exact' {intent : ChildIntent} : intent ∈ intentsOf runId j ↔
    ∃ e ∈ j, e.fact = .intentStored intent ∧ intent.strategyRunId = runId := by
  unfold intentsOf
  rw [List.mem_filterMap]
  constructor
  · rintro ⟨e,present,found⟩
    refine ⟨e,present,?_⟩
    cases known : e.fact with
    | intentStored stored =>
      simp only [known] at found
      split at found
      · cases found; exact ⟨rfl,by assumption⟩
      · cases found
    | _ => simp [known] at found
  · rintro ⟨e,present,known,own⟩
    exact ⟨e,present,by simp [known,own]⟩

end Lists

section Histories
variable {c : Coordinator} {seed : UUID → Option RecommendationStateRecord} {j : Log} {key : Digest}

-- A present entry was lawful in the journal it was made in.
theorem entry_split {e : Entry Digest Fact} (lawful : Lawful (Legal c seed) j) (present : e ∈ j) :
    ∃ newer older, j = newer ++ e :: older ∧ Lawful (Legal c seed) older ∧ Legal c seed e older := by
  obtain ⟨newer,older,rfl⟩ := List.append_of_mem present
  exact ⟨newer,older,rfl,(Lawful.older lawful).2,lawful.entry⟩

theorem run_entry {actor : Option Nat} {s : StoredRun} (lawful : Lawful (Legal c seed) j)
    (present : ⟨actor,key,.runStored s⟩ ∈ j) : (ledger key j).stored = some s := by
  obtain ⟨newer,older,rfl,_,_⟩ := entry_split lawful present
  refine stored_kept (List.suffix_append newer _) lawful ?_
  rw [ledger_same]
  rfl

-- What the books of a scan name was entered once.
theorem stored_origin {s : StoredRun} (stored : (ledger key j).stored = some s) :
    ∃ actor, ⟨actor,key,.runStored s⟩ ∈ j := by
  induction j with
  | nil => cases stored
  | cons e older ih =>
    rw [cons_stored] at stored
    split at stored
    · rename_i new known
      split at stored
      · rename_i here
        cases stored
        obtain ⟨actor,_,_⟩ := e
        cases here
        cases known
        exact ⟨actor,List.mem_cons_self⟩
      · obtain ⟨actor,present⟩ := ih stored
        exact ⟨actor,List.mem_cons_of_mem _ present⟩
    · obtain ⟨actor,present⟩ := ih stored
      exact ⟨actor,List.mem_cons_of_mem _ present⟩

theorem attempt_origin {a : ScanAttempt} (present : a ∈ (ledger key j).attempts) :
    ∃ actor, ⟨actor,key,.attemptRecorded a⟩ ∈ j := by
  induction j with
  | nil => cases present
  | cons e older ih =>
    rw [cons_attempts] at present
    split at present
    · rename_i new known
      split at present
      · rename_i here
        rcases List.mem_append.mp present with old | added
        · obtain ⟨actor,found⟩ := ih old
          exact ⟨actor,List.mem_cons_of_mem _ found⟩
        · cases List.mem_singleton.mp added
          obtain ⟨actor,_,_⟩ := e
          cases here
          cases known
          exact ⟨actor,List.mem_cons_self⟩
      · obtain ⟨actor,found⟩ := ih present
        exact ⟨actor,List.mem_cons_of_mem _ found⟩
    · obtain ⟨actor,found⟩ := ih present
      exact ⟨actor,List.mem_cons_of_mem _ found⟩

theorem intent_entry {e : Entry Digest Fact} {intent : ChildIntent} (lawful : Lawful (Legal c seed) j) (present : e ∈ j)
    (known : e.fact = .intentStored intent) : intent ∈ (ledger e.key j).intents := by
  obtain ⟨newer,older,rfl,_,_⟩ := entry_split lawful present
  refine intent_kept (List.suffix_append newer _) lawful ?_
  rw [show ledger e.key (e :: older) = (ledger e.key older).enter e.actor e.fact from ledger_same _ _ _ _,known]
  exact List.mem_append_right _ (List.mem_singleton.mpr rfl)

theorem intent_origin {intent : ChildIntent} (present : intent ∈ (ledger key j).intents) :
    ∃ actor, ⟨actor,key,.intentStored intent⟩ ∈ j := by
  induction j with
  | nil => cases present
  | cons e older ih =>
    rw [cons_intents] at present
    split at present
    · rename_i new known
      split at present
      · rename_i here
        rcases List.mem_append.mp present with old | added
        · obtain ⟨actor,found⟩ := ih old
          exact ⟨actor,List.mem_cons_of_mem _ found⟩
        · cases List.mem_singleton.mp added
          obtain ⟨actor,_,_⟩ := e
          cases here
          cases known
          exact ⟨actor,List.mem_cons_self⟩
      · obtain ⟨actor,found⟩ := ih present
        exact ⟨actor,List.mem_cons_of_mem _ found⟩
    · obtain ⟨actor,found⟩ := ih present
      exact ⟨actor,List.mem_cons_of_mem _ found⟩

-- A record is the seed's, or some entry left it.
theorem record_origin {planId : UUID} {record : RecommendationStateRecord}
    (found : recordOf seed planId j = some record) :
    seed planId = some record ∨ ∃ e ∈ j, e.fact.record = some record ∧ record.rotationPlanId = planId := by
  induction j with
  | nil => exact .inl found
  | cons e older ih =>
    have earlier : recordOf seed planId older = some record → seed planId = some record ∨
        ∃ e' ∈ e :: older, e'.fact.record = some record ∧ record.rotationPlanId = planId := by
      intro before
      rcases ih before with seeded | ⟨e',present,left⟩
      · exact .inl seeded
      · exact .inr ⟨e',List.mem_cons_of_mem _ present,left⟩
    rw [record_cons] at found
    split at found
    · rename_i written known
      split at found
      · rename_i own
        cases found
        exact .inr ⟨e,List.mem_cons_self,known,own⟩
      · exact earlier found
    · exact earlier found

-- One entry leaves the plan's record, or replaces it by one of the next revision.
theorem record_step {e : Entry Digest Fact} {planId : UUID} {record : RecommendationStateRecord}
    (legal : Legal c seed e j) (found : recordOf seed planId j = some record) :
    recordOf seed planId (e :: j) = some record ∨ ∃ updated, e.fact = .transitioned record updated ∧
      recordOf seed planId (e :: j) = some updated ∧ updated.revision = record.revision + 1 := by
  have fact := legal.fact
  rw [record_cons]
  cases known : e.fact with
  | stateCreated created =>
    rw [known] at fact
    simp only [Fact.record]
    split
    · rename_i own
      rw [← own,fact.2.1] at found
      cases found
    · exact .inl found
  | transitioned previous updated =>
    rw [known] at fact
    simp only [Fact.record]
    split
    · rename_i own
      have current := fact.2.current
      rw [own,found,Option.some.injEq] at current
      subst current
      exact .inr ⟨updated,rfl,rfl,fact.2.revision⟩
    · exact .inl found
  | _ => exact .inl found

-- Revisions only grow, and two records of one revision are the same record.
theorem record_grows {before after : Log} {planId : UUID} {record : RecommendationStateRecord}
    (later : before <:+ after) (lawful : Lawful (Legal c seed) after)
    (found : recordOf seed planId before = some record) : ∃ current, recordOf seed planId after = some current ∧
      record.revision ≤ current.revision ∧ (current.revision = record.revision → current = record) := by
  obtain ⟨new,rfl⟩ := later
  induction new with
  | nil => exact ⟨record,found,Nat.le_refl _,fun _ => rfl⟩
  | cons e new ih =>
    obtain ⟨current,known,grown,exact⟩ := ih lawful.2
    rcases record_step lawful.1 known with same | ⟨updated,_,replaced,revision⟩
    · exact ⟨current,same,grown,exact⟩
    · refine ⟨updated,replaced,by omega,?_⟩
      intro equal
      omega

-- The fact that opened a phase.
def Phase.opener : Phase → Option Fact
  | .evaluated record => some (.evaluatedFrom record)
  | .adjudicated current => some (.adjudicated current)
  | _ => none

theorem evaluated_opener {phase : Phase} {record : RecommendationStateRecord}
    (opened : phase.opener = some (.evaluatedFrom record)) : phase = .evaluated record := by
  cases phase <;> simp_all [Phase.opener]

-- A phase was opened by the call that still holds the lease, and lasted since.
theorem phase_origin {fact : Fact} (lawful : Lawful (Legal c seed) j) (opened : (ledger key j).phase.opener = some fact) :
    ∃ thread newer older, j = newer ++ ⟨some thread,key,fact⟩ :: older ∧
      (ledger key j).holder.map Prod.fst = some thread ∧
      ∀ late early, newer = late ++ early →
        (ledger key (early ++ ⟨some thread,key,fact⟩ :: older)).phase.opener = some fact := by
  induction j with
  | nil => cases opened
  | cons e older ih =>
    have still := opened
    have earlier : (ledger key older).phase.opener = some fact → (ledger key (e :: older)).holder = (ledger key older).holder →
        ∃ thread newer older', e :: older = newer ++ ⟨some thread,key,fact⟩ :: older' ∧
          (ledger key (e :: older)).holder.map Prod.fst = some thread ∧
          ∀ late early, newer = late ++ early →
            (ledger key (early ++ ⟨some thread,key,fact⟩ :: older')).phase.opener = some fact := by
      intro before same
      obtain ⟨thread,newer,older',rfl,holder,lasts⟩ := ih lawful.2 before
      refine ⟨thread,e :: newer,older',rfl,by rw [same]; exact holder,?_⟩
      intro late early split
      cases late with
      | nil =>
        cases split
        exact still
      | cons first late =>
        cases split
        exact lasts late early rfl
    rw [cons_phase] at opened
    by_cases here : e.key = key
    · rw [if_pos here] at opened
      have newest : ∀ thread lease, e.actor = some thread → (ledger e.key older).holder = some (thread,lease) →
          e.fact = fact → (ledger key (e :: older)).holder = (ledger key older).holder →
          ∃ thread newer older', e :: older = newer ++ ⟨some thread,key,fact⟩ :: older' ∧
            (ledger key (e :: older)).holder.map Prod.fst = some thread ∧
            ∀ late early, newer = late ++ early →
              (ledger key (early ++ ⟨some thread,key,fact⟩ :: older')).phase.opener = some fact := by
        rintro thread lease acting held rfl same
        have newest : e :: older = ⟨some thread,key,e.fact⟩ :: older := by rw [← acting,← here]
        refine ⟨thread,[],older,newest,?_,?_⟩
        · rw [same,← here,held]; rfl
        · intro late early split
          obtain ⟨rfl,rfl⟩ := List.append_eq_nil_iff.mp split.symm
          rw [List.nil_append,← newest]
          exact still
      have legal := lawful.1.fact
      cases known : e.fact with
      | acquired => rw [known] at opened; cases opened
      | released => rw [known] at opened; cases opened
      | evaluatedFrom record =>
        rw [known] at opened legal
        cases opened
        obtain ⟨thread,lease,acting,held⟩ := legal.1
        exact newest thread lease acting held known (by rw [cons_holder,known])
      | adjudicated current =>
        rw [known] at opened legal
        cases opened
        obtain ⟨thread,lease,acting,held⟩ := legal.1
        exact newest thread lease acting held known (by rw [cons_holder,known])
      | transitioned previous updated =>
        rw [known] at opened
        dsimp only at opened
        split at opened
        · cases opened
        · exact earlier opened (by rw [cons_holder,known])
      | _ => rw [known] at opened; exact earlier opened (by rw [cons_holder,known])
    · rw [if_neg here] at opened
      refine earlier opened ?_
      rw [ledger_other older here]

-- The record of an adjudication was read by the call that still holds the lease.
theorem adjudication_origin {current : RecommendationStateRecord} (lawful : Lawful (Legal c seed) j)
    (phase : (ledger key j).phase = .adjudicated current) :
    ∃ thread newer older, j = newer ++ ⟨some thread,key,.adjudicated current⟩ :: older ∧
      (ledger key j).holder.map Prod.fst = some thread ∧
      ∀ late early, newer = late ++ early →
        (ledger key (early ++ ⟨some thread,key,.adjudicated current⟩ :: older)).phase.opener =
          some (.adjudicated current) :=
  phase_origin lawful (by rw [phase]; rfl)

-- The source of a stored run was read, as the record of its plan, by the call that stored it;
-- until then nothing else was done about the recommendation under that lease.
theorem source_origin {s : StoredRun} (lawful : Lawful (Legal c seed) j) (stored : (ledger key j).stored = some s) :
    ∃ thread newer between before, (ledger key j).author = some thread ∧
      j = newer ++ ⟨some thread,key,.runStored s⟩ :: between ++ ⟨some thread,key,.evaluatedFrom s.source⟩ :: before ∧
      recordOf seed s.candidate.plan.rotationPlanId before = some s.source ∧
      ∀ late early, between = late ++ early →
        (ledger key (early ++ ⟨some thread,key,.evaluatedFrom s.source⟩ :: before)).phase = .evaluated s.source := by
  induction j with
  | nil => cases stored
  | cons e older ih =>
    by_cases before : (ledger key older).stored = some s
    · obtain ⟨thread,newer,between,before',author,rfl,read,lasts⟩ := ih lawful.2 before
      refine ⟨thread,e :: newer,between,before',?_,rfl,read,lasts⟩
      rw [author_kept (List.suffix_cons e _) lawful before,author]
    · obtain ⟨actor,owner,fact⟩ := e
      rw [cons_stored] at stored
      split at stored
      · rename_i new known
        cases known
        split at stored
        · rename_i here
          cases stored
          cases here
          have legal := lawful.1.fact
          have opened : (ledger owner older).phase.opener = some (.evaluatedFrom s.source) := by
            rw [legal.2.phase]; rfl
          obtain ⟨thread,between,before',rfl,holder,lasts⟩ := phase_origin lawful.2 opened
          obtain ⟨thread',lease,rfl,held⟩ := legal.1
          rw [held,Option.map_some,Option.some.injEq] at holder
          cases holder
          have read := (Lawful.entry lawful.2).fact.2.2.2
          refine ⟨_,[],between,before',?_,rfl,?_,?_⟩
          · rw [ledger_same]; rfl
          · rw [← s.source_plan]; exact read
          · intro late early split
            exact evaluated_opener (lasts late early split)
        · exact absurd stored before
      · exact absurd stored before

-- A phase in which a run's write stands comes with that write.
theorem written_origin (lawful : Lawful (Legal c seed) j) (written : (ledger key j).phase = .written) :
    ∃ s, (ledger key j).stored = some s ∧ writesOf s.run.strategyRunId j ≠ [] := by
  induction j with
  | nil => cases written
  | cons e older ih =>
    have earlier : (ledger key older).phase = .written →
        ∃ s, (ledger key (e :: older)).stored = some s ∧ writesOf s.run.strategyRunId (e :: older) ≠ [] := by
      intro before
      obtain ⟨s,stored,some'⟩ := ih lawful.2 before
      refine ⟨s,stored_kept (List.suffix_cons e older) lawful stored,?_⟩
      rw [writes_cons]
      exact List.append_ne_nil_of_right_ne_nil _ some'
    rw [cons_phase] at written
    split at written
    · rename_i here
      split at written
      · cases written
      · cases written
      · cases written
      · cases written
      · rename_i previous updated known
        split at written
        · rename_i fence
          have legal := lawful.1.fact
          rw [known] at legal
          rcases legal.2.move with ⟨_,_,none',_⟩ | ⟨s,stored,_,_,_,run,_⟩
          · rw [none'] at fence; cases fence
          · subst here
            refine ⟨s,stored_kept (List.suffix_cons e older) lawful stored,?_⟩
            rw [writes_cons,known]
            simp [run]
        · exact earlier written
      · exact earlier written
    · exact earlier written

-- Nothing an earlier process fenced is in the store to begin with.
def Unfenced (seed : UUID → Option RecommendationStateRecord) : Prop :=
  ∀ planId record, seed planId = some record → record.finalizationStrategyRunId = none

-- A fence on the record is the fence of an accepted write.
theorem fence_origin {planId runId : UUID} {record : RecommendationStateRecord} (unfenced : Unfenced seed)
    (lawful : Lawful (Legal c seed) j) (found : recordOf seed planId j = some record)
    (fence : record.finalizationStrategyRunId = some runId) : writesOf runId j ≠ [] := by
  rcases record_origin found with seeded | ⟨e,present,left,_⟩
  · rw [unfenced planId record seeded] at fence; cases fence
  · obtain ⟨_,_,_,_,legal⟩ := entry_split lawful present
    have fact := legal.fact
    cases known : e.fact with
    | stateCreated created =>
      rw [known] at fact left
      cases left
      rw [fact.2.2.2] at fence
      cases fence
    | transitioned previous updated =>
      rw [known] at left
      cases left
      exact List.ne_nil_of_mem (write_exact.mpr ⟨e,present,known,fence⟩)
    | _ => rw [known] at left; cases left

-- Where an applied verdict and an intent are in order, the run's write was accepted.
theorem owed_written {s : StoredRun} (unfenced : Unfenced seed) (lawful : Lawful (Legal c seed) j)
    (stored : (ledger key j).stored = some s) (owed : (ledger key j).phase = .written ∨
      ∃ current, (ledger key j).phase = .adjudicated current ∧ Fenced s current) :
    writesOf s.run.strategyRunId j ≠ [] := by
  rcases owed with written | ⟨current,phase,_,fence,_⟩
  · obtain ⟨s',stored',some'⟩ := written_origin lawful written
    rw [stored,Option.some.injEq] at stored'
    exact stored' ▸ some'
  · obtain ⟨_,newer,older,rfl,_⟩ := adjudication_origin lawful phase
    obtain ⟨_,_,found⟩ := (Lawful.entry lawful).fact.2.stored
    exact writes_kept (older_suffix newer _ older) (fence_origin unfenced (Lawful.older lawful).2 found fence)

-- A fenced write is the write of the run its scan stored.
theorem fenced_write {e : Entry Digest Fact} {older : Log} {previous updated : RecommendationStateRecord}
    {runId : UUID} (legal : Legal c seed e older) (known : e.fact = .transitioned previous updated)
    (fence : updated.finalizationStrategyRunId = some runId) : ∃ s, (ledger e.key older).stored = some s ∧
      s.run.strategyRunId = runId ∧ (ledger e.key older).phase = .adjudicated previous ∧
      (Returned s previous ∨ previous.pair = s.next ∧ Claimed previous) := by
  have fact := legal.fact
  rw [known] at fact
  rcases fact.2.move with ⟨_,_,none',_⟩ | ⟨s,stored,phase,_,_,run,_,taken⟩
  · rw [none'] at fence; cases fence
  · rw [run,Option.some.injEq] at fence
    exact ⟨s,stored,fence,phase,taken⟩

-- One entry leaves the writes of a stored run as they are, or is its holder's own write.
theorem writes_step {e : Entry Digest Fact} {older : Log} {s : StoredRun} (lawful : Lawful (Legal c seed) (e :: older))
    (stored : (ledger key older).stored = some s) :
    writesOf s.run.strategyRunId (e :: older) = writesOf s.run.strategyRunId older ∨
      ∃ previous updated, e.key = key ∧ e.fact = .transitioned previous updated ∧
        updated.finalizationStrategyRunId = some s.run.strategyRunId ∧
        (ledger key older).phase = .adjudicated previous ∧
        (Returned s previous ∨ previous.pair = s.next ∧ Claimed previous) := by
  rw [writes_cons]
  cases known : e.fact with
  | transitioned previous updated =>
    dsimp only
    split
    · rename_i fence
      obtain ⟨s',stored',same,phase,taken⟩ := fenced_write lawful.1 known fence
      obtain ⟨rfl,rfl⟩ := run_unique lawful.2 stored stored' same.symm
      exact .inr ⟨previous,updated,rfl,rfl,fence,phase,taken⟩
    · exact .inl rfl
  | _ => exact .inl rfl

end Histories
end SwapMonitor
