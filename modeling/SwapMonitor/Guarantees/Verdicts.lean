import SwapMonitor.Guarantees.Notifications

namespace SwapMonitor
open Interleaving

instance (s : StoredRun) (current : RecommendationStateRecord) : Decidable (Lost s current) := by
  unfold Lost Fenced Returned
  infer_instance

def ScanLedger.tells (L : ScanLedger) (disposition : FinalizationDisposition) : Prop :=
  ∃ a ∈ L.attempts, a.finalizationDisposition = some disposition

instance (L : ScanLedger) (disposition : FinalizationDisposition) : Decidable (L.tells disposition) := by
  unfold ScanLedger.tells
  infer_instance

-- A run that was recorded as superseded is judged again where its scan was not completed. It
-- is judged alike unless the record came back to the pair the run started from.
def StaysLost (e : Entry Digest Fact) (older : Log) : Prop :=
  match e.fact with
  | .adjudicated current => ∀ s ∈ (ledger e.key older).stored, (ledger e.key older).tells .superseded → Lost s current
  | _ => True

-- A run that was written and not yet recorded as applied is judged by the record that is
-- there by then, which may be another's.
def LosesUnwritten (e : Entry Digest Fact) (older : Log) : Prop :=
  match e.fact with
  | .adjudicated current => ∀ s ∈ (ledger e.key older).stored, Lost s current → writesOf s.run.strategyRunId older = []
  | _ => True

instance (e : Entry Digest Fact) (older : Log) : Decidable (StaysLost e older) :=
  inferInstanceAs (Decidable (AskedOfAdjudicated
    (fun current => ∀ s ∈ (ledger e.key older).stored, (ledger e.key older).tells .superseded → Lost s current) e.fact))

instance (list : List (RecommendationStateRecord × RecommendationStateRecord)) : Decidable (list = []) :=
  decidable_of_iff (list.isEmpty = true) List.isEmpty_iff

instance (e : Entry Digest Fact) (older : Log) : Decidable (LosesUnwritten e older) :=
  inferInstanceAs (Decidable (AskedOfAdjudicated
    (fun current => ∀ s ∈ (ledger e.key older).stored, Lost s current → writesOf s.run.strategyRunId older = []) e.fact))

-- What a recorded verdict says about the rest of the call.
structure Judged (s : StoredRun) (L : ScanLedger) : Prop where
  applied : L.tells .applied → ∀ current, L.phase = .adjudicated current → Fenced s current
  superseded : L.tells .superseded → L.phase ≠ .written ∧ ∀ current, L.phase = .adjudicated current → Lost s current

section Books
variable {c : Coordinator} {seed : UUID → Option RecommendationStateRecord} {j : Log} {key : Digest} {s : StoredRun}

-- Without an adjudication at hand the verdicts on the record ask for nothing.
theorem judged_otherwise {L : ScanLedger} (written : L.phase ≠ .written)
    (judges : ∀ current, L.phase ≠ .adjudicated current) : Judged s L :=
  ⟨fun _ current phase => absurd phase (judges current),
    fun _ => ⟨written,fun current phase => absurd phase (judges current)⟩⟩

theorem attempt_judged {L : ScanLedger} {a : ScanAttempt} (legal : LegalAttempt c L a) (stored : L.stored = some s)
    (judged : Judged s L) : Judged s {L with attempts := L.attempts ++ [a]} := by
  refine ⟨?_,?_⟩
  · rintro ⟨b,recorded,applied⟩ current phase
    rcases List.mem_append.mp recorded with old | new
    · exact judged.applied ⟨b,old,applied⟩ current phase
    · cases List.mem_singleton.mp new
      obtain ⟨s',stored',owed,_⟩ := legal.applied applied
      rw [stored,Option.some.injEq] at stored'
      subst stored'
      rcases owed with written | ⟨current',phase',fenced⟩
      · rw [written] at phase; cases phase
      · rw [phase'] at phase; cases phase; exact fenced
  · rintro ⟨b,recorded,superseded⟩
    rcases List.mem_append.mp recorded with old | new
    · exact judged.superseded ⟨b,old,superseded⟩
    · cases List.mem_singleton.mp new
      obtain ⟨s',current',stored',phase',lost⟩ := legal.superseded superseded
      rw [stored,Option.some.injEq] at stored'
      subst stored'
      dsimp only
      rw [phase']
      refine ⟨(by intro h; cases h),?_⟩
      rintro _ ⟨⟩
      exact lost

-- Each entry keeps what the recorded verdicts say; only the adjudications need the condition.
theorem enter_judged {e : Entry Digest Fact} {older : Log} (unclaimed : Unclaimed seed)
    (lawful : Lawful (Legal c seed) older) (legal : Legal c seed e older) (stays : StaysLost e older)
    (holds : ∀ s, (ledger e.key older).stored = some s → Judged s (ledger e.key older)) :
    ∀ s, ((ledger e.key older).enter e.actor e.fact).stored = some s →
      Judged s ((ledger e.key older).enter e.actor e.fact) := by
  intro s stored
  have fact := legal.fact
  cases known : e.fact with
  | acquired | released | evaluatedFrom => exact judged_otherwise (by intro h; cases h) (by intro _ h; cases h)
  | runStored new =>
    rw [known] at fact
    refine judged_otherwise ?_ ?_ <;> simp [enter_phase,fact.2.phase]
  | adjudicated current =>
    rw [known] at fact stored
    unfold StaysLost at stays
    rw [known] at stays
    refine ⟨?_,?_⟩
    · rintro ⟨a,recorded,applied⟩
      exact absurd applied (fact.2.undecided a recorded)
    · intro said
      refine ⟨(by intro h; cases h),?_⟩
      rintro _ ⟨⟩
      exact stays s stored said
  | transitioned previous updated =>
    rw [known] at fact
    simp only [known,enter_stored] at stored
    rcases fact.2.move with ⟨unstored,_⟩ | ⟨s',stored',phase,_,_,run,_,taken⟩
    · rw [unstored] at stored
      cases stored
    · rw [stored,Option.some.injEq] at stored'
      subst stored'
      have wrote : ((ledger e.key older).enter e.actor (.transitioned previous updated)).phase = .written := by
        simp [enter_phase,run]
      refine ⟨(by intro _ current phase; rw [wrote] at phase; cases phase),?_⟩
      rintro ⟨a,recorded,superseded⟩
      have lost := ((holds s stored).superseded ⟨a,by simpa only [enter_attempts] using recorded,superseded⟩).2 _ phase
      rcases taken with returned | ⟨_,claimed⟩
      · exact absurd returned lost.2
      · obtain ⟨_,newer,before,rfl,_⟩ := adjudication_origin lawful phase
        obtain ⟨_,_,current⟩ := (Lawful.entry lawful).fact.2.stored
        exact absurd claimed (record_unclaimed (Lawful.older lawful).2 unclaimed current)
  | attemptRecorded a =>
    rw [known] at fact
    simp only [known,enter_stored] at stored
    exact attempt_judged fact.2 stored (holds s stored)
  | failed error =>
    simp only [known,enter_stored] at stored
    obtain ⟨applied,superseded⟩ := holds s stored
    exact ⟨by simpa only [ScanLedger.tells,enter_attempts,enter_phase] using applied,
      by simpa only [ScanLedger.tells,enter_attempts,enter_phase] using superseded⟩
  | _ =>
    simp only [known,enter_stored] at stored
    obtain ⟨applied,superseded⟩ := holds s stored
    exact ⟨applied,superseded⟩

theorem run_judged (unclaimed : Unclaimed seed) (lawful : Lawful (Legal c seed) j) (stays : Lawful StaysLost j)
    (stored : (ledger key j).stored = some s) : Judged s (ledger key j) := by
  refine ledger_invariant (P := fun _ L => ∀ s, L.stored = some s → Judged s L) (by intro _ _ h; cases h) ?_
    (Lawful.both lawful stays) key s stored
  intro e older laws law holds
  exact enter_judged unclaimed (laws.mono fun _ _ both => both.1) law.1 law.2 holds

-- A claim is never what a run is taken by: nothing in the store was claimed.
theorem taken_returned {current : RecommendationStateRecord}
    (unclaimed : Unclaimed seed) (lawful : Lawful (Legal c seed) j) (phase : (ledger key j).phase = .adjudicated current)
    (taken : Returned s current ∨ current.pair = s.next ∧ Claimed current) : Returned s current := by
  rcases taken with returned | ⟨_,claimed⟩
  · exact returned
  · obtain ⟨_,newer,before,rfl,_⟩ := adjudication_origin lawful phase
    obtain ⟨_,_,found⟩ := (Lawful.entry lawful).fact.2.stored
    exact absurd claimed (record_unclaimed (Lawful.older lawful).2 unclaimed found)

-- The attempts of a scan that are final.
def verdictsOn (L : ScanLedger) : List ScanAttempt :=
  L.attempts.filter fun a => a.status == .succeeded && a.finalStrategyRunId.isSome

-- A second final attempt would have to contradict the first.
theorem one_final (unclaimed : Unclaimed seed) (lawful : Lawful (Legal c seed) j) (stays : Lawful StaysLost j)
    (key : Digest) : (verdictsOn (ledger key j)).length ≤ 1 := by
  refine ledger_invariant (P := fun _ L => (verdictsOn L).length ≤ 1) (fun _ => Nat.zero_le _) ?_
    (Lawful.both lawful stays) key
  intro e older laws law holds
  have before : Lawful (Legal c seed) older := laws.mono fun _ _ both => both.1
  have before' : Lawful StaysLost older := laws.mono fun _ _ both => both.2
  have fact := law.1.fact
  cases known : e.fact with
  | attemptRecorded a =>
    rw [known] at fact
    simp only [verdictsOn,enter_attempts,List.filter_append,List.length_append]
    by_cases final : (a.status == .succeeded && a.finalStrategyRunId.isSome) = true
    · have none' : (ledger e.key older).attempts.filter
          (fun a => a.status == .succeeded && a.finalStrategyRunId.isSome) = [] := by
        by_contra some'
        obtain ⟨b,listed⟩ := List.exists_mem_of_ne_nil _ some'
        obtain ⟨recorded,final'⟩ := List.mem_filter.mp listed
        rw [Bool.and_eq_true,beq_iff_eq] at final final'
        obtain ⟨disposition,verdict⟩ := Option.isSome_iff_exists.mp (fact.2.decided final.1).1
        obtain ⟨b',recorded',succeeded',other⟩ := fact.2.once disposition verdict ⟨b,recorded,final'.1⟩
        obtain ⟨decided,s,stored,_⟩ := verdict_stored before recorded' succeeded'
        have judged := run_judged unclaimed before before' stored
        cases disposition with
        | applied =>
          have superseded : b'.finalizationDisposition = some .superseded := by
            cases said : b'.finalizationDisposition with
            | none => rw [said] at decided; cases decided
            | some verdict' => cases verdict' <;> simp_all
          obtain ⟨s',stored',owed,_⟩ := fact.2.applied verdict
          rw [stored,Option.some.injEq] at stored'
          subst stored'
          obtain ⟨unwritten,lost⟩ := judged.superseded ⟨b',recorded',superseded⟩
          rcases owed with written | ⟨current,phase,fenced⟩
          · exact unwritten written
          · exact (lost current phase).1 fenced
        | superseded =>
          have applied : b'.finalizationDisposition = some .applied := by
            cases said : b'.finalizationDisposition with
            | none => rw [said] at decided; cases decided
            | some verdict' => cases verdict' <;> simp_all
          obtain ⟨s',current,stored',phase,lost⟩ := fact.2.superseded verdict
          rw [stored,Option.some.injEq] at stored'
          subst stored'
          exact lost.1 (judged.applied ⟨b',recorded',applied⟩ current phase)
      rw [none']
      simp [final]
    · simpa [verdictsOn,final] using holds
  | _ => simpa only [verdictsOn,enter_attempts] using holds

-- The verdicts on one scan agree.
theorem verdicts_agree {a b : ScanAttempt} {one two : FinalizationDisposition} (unclaimed : Unclaimed seed)
    (lawful : Lawful (Legal c seed) j) (stays : Lawful StaysLost j) (first : a ∈ (ledger key j).attempts)
    (second : b ∈ (ledger key j).attempts) (said : a.finalizationDisposition = some one)
    (said' : b.finalizationDisposition = some two) : one = two := by
  have listed : ∀ a ∈ (ledger key j).attempts, a.finalizationDisposition.isSome → a ∈ verdictsOn (ledger key j) := by
    intro a recorded decided
    obtain ⟨_,final,succeeds⟩ := attempt_decided lawful recorded
    exact List.mem_filter.mpr ⟨recorded,by simp [succeeds decided,(final (succeeds decided)).2]⟩
  have one' := listed a first (by rw [said]; rfl)
  have two' := listed b second (by rw [said']; rfl)
  obtain ⟨only,single⟩ := List.length_eq_one_iff.mp
    (Nat.le_antisymm (one_final unclaimed lawful stays key) (List.length_pos_of_mem one'))
  rw [single,List.mem_singleton] at one' two'
  rw [one',← two',said',Option.some.injEq] at said
  exact said.symm

-- The last adjudication of a phase, and what it was made on.
theorem adjudicated_step {e : Entry Digest Fact} {older : Log} {current : RecommendationStateRecord}
    (phase : (ledger key (e :: older)).phase = .adjudicated current) :
    (e.key = key ∧ e.fact = .adjudicated current) ∨ (ledger key older).phase = .adjudicated current := by
  rw [cons_phase] at phase
  by_cases here : e.key = key
  · rw [if_pos here] at phase
    cases known : e.fact with
    | adjudicated current' =>
      rw [known] at phase
      cases phase
      exact .inl ⟨here,rfl⟩
    | transitioned previous updated =>
      rw [known] at phase
      dsimp only at phase
      split at phase
      · cases phase
      · exact .inr phase
    | acquired | released | evaluatedFrom => rw [known] at phase; cases phase
    | _ => rw [known] at phase; exact .inr phase
  · rw [if_neg here] at phase
    exact .inr phase

-- A run that is not on the books yet has no phase of its own.
theorem stored_step {e : Entry Digest Fact} {older : Log} (stored : (ledger key (e :: older)).stored = some s)
    (fresh : (ledger key older).stored ≠ some s) : e.key = key ∧ e.fact = .runStored s := by
  rw [cons_stored] at stored
  cases known : e.fact with
  | runStored new =>
    rw [known] at stored
    dsimp only at stored
    split at stored
    · rename_i here
      cases stored
      exact ⟨here,rfl⟩
    · exact absurd stored fresh
  | _ => rw [known] at stored; exact absurd stored fresh

theorem lost_unwritten {current : RecommendationStateRecord} (lawful : Lawful (Legal c seed) j)
    (loses : Lawful LosesUnwritten j) (stored : (ledger key j).stored = some s)
    (phase : (ledger key j).phase = .adjudicated current) (lost : Lost s current) :
    writesOf s.run.strategyRunId j = [] := by
  induction j with
  | nil => rfl
  | cons e older ih =>
    by_cases before : (ledger key older).stored = some s
    · rcases writes_step lawful before with same | ⟨previous,updated,here,known,fence,_⟩
      · rw [same]
        rcases adjudicated_step phase with ⟨rfl,known⟩ | phase
        · have loses := loses.1
          unfold LosesUnwritten at loses
          rw [known] at loses
          exact loses s before lost
        · exact ih lawful.2 loses.2 before phase
      · rw [cons_phase,if_pos here,known] at phase
        simp [fence] at phase
    · obtain ⟨rfl,known⟩ := stored_step stored before
      have fact := lawful.1.fact
      rw [known] at fact
      rcases adjudicated_step phase with ⟨_,known'⟩ | phase
      · rw [known] at known'
        cases known'
      · rw [fact.2.phase] at phase
        cases phase

theorem superseded_unwritten (unclaimed : Unclaimed seed) (lawful : Lawful (Legal c seed) j)
    (stays : Lawful StaysLost j) (loses : Lawful LosesUnwritten j) (stored : (ledger key j).stored = some s)
    (said : (ledger key j).tells .superseded) : writesOf s.run.strategyRunId j = [] := by
  induction j with
  | nil => rfl
  | cons e older ih =>
    obtain ⟨a,recorded,superseded⟩ := said
    by_cases before : (ledger key older).stored = some s
    · by_cases old : (ledger key older).tells .superseded
      · have unwritten := ih lawful.2 stays.2 loses.2 before old
        rcases writes_step lawful before with same | ⟨previous,updated,_,_,_,phase,taken⟩
        · rw [same,unwritten]
        · have lost := ((run_judged unclaimed lawful.2 stays.2 before).superseded old).2 previous phase
          exact absurd (taken_returned unclaimed lawful.2 phase taken) lost.2
      · rw [cons_attempts] at recorded
        cases known : e.fact with
        | attemptRecorded new =>
          rw [known] at recorded
          dsimp only at recorded
          split at recorded
          · rename_i here
            subst here
            rcases List.mem_append.mp recorded with earlier | newest
            · exact absurd ⟨a,earlier,superseded⟩ old
            · cases List.mem_singleton.mp newest
              have fact := lawful.1.fact
              rw [known] at fact
              obtain ⟨s',current,stored',phase,lost⟩ := fact.2.superseded superseded
              rw [before,Option.some.injEq] at stored'
              subst stored'
              rw [writes_cons,known]
              exact lost_unwritten lawful.2 loses.2 before phase lost
          · exact absurd ⟨a,recorded,superseded⟩ old
        | _ => rw [known] at recorded; exact absurd ⟨a,recorded,superseded⟩ old
    · obtain ⟨rfl,known⟩ := stored_step stored before
      have fact := lawful.1.fact
      rw [known] at fact
      rw [cons_attempts,known] at recorded
      obtain ⟨_,_,stored',_⟩ := verdict_stored lawful.2 recorded
        ((attempt_decided lawful.2 recorded).2.2 (by rw [superseded]; rfl))
      rw [fact.2.unstored] at stored'
      cases stored'

-- An intent comes after a write of its run.
theorem unwritten_unintended (unfenced : Unfenced seed) (lawful : Lawful (Legal c seed) j) {runId : UUID}
    (unwritten : writesOf runId j = []) : intentsOf runId j = [] := by
  by_contra some'
  obtain ⟨intent,listed⟩ := List.exists_mem_of_ne_nil _ some'
  obtain ⟨e,present,known,rfl⟩ := intent_exact'.mp listed
  obtain ⟨s,newer,_,older,_,_,rfl,split,written⟩ := intent_sound unfenced lawful (intent_entry lawful present known)
  refine absurd unwritten (writes_kept ?_ written)
  rw [split]
  exact older_suffix newer _ older

end Books

section Runs
variable {c : Coordinator} {nextUuid : UUID} {pool : Pool World Input PyError RunCoordinatorResult}

-- A verdict on the record, or in a returned result, that the run is superseded.
def Superseded (pool : Pool World Input PyError RunCoordinatorResult) (key : Digest) (s : StoredRun) : Prop :=
  (ledger key pool.store.journal).tells .superseded ∨ ∃ thread r, returned thread pool = some r ∧
    r.disposition = .superseded ∧ r.strategyRun = some s.run

def SupersededAlone (pool : Pool World Input PyError RunCoordinatorResult) : Prop :=
  ∀ key s, (ledger key pool.store.journal).stored = some s → Superseded pool key s →
    writesOf s.run.strategyRunId pool.store.journal = [] ∧ intentsOf s.run.strategyRunId pool.store.journal = []

-- A reported verdict is one on the record of the run's scan.
theorem reported_recorded (path : Reached c.run (Coordinator.opening unseeded nextUuid) pool) {key : Digest}
    {s : StoredRun} (stored : (ledger key pool.store.journal).stored = some s) {thread : Nat}
    {r : RunCoordinatorResult} {disposition : FinalizationDisposition} (answer : returned thread pool = some r)
    (verdict : r.disposition.verdict = some disposition) (run : r.strategyRun = some s.run) :
    (ledger key pool.store.journal).tells disposition := by
  have lawful := reached_lawful unseeded_seeded path
  obtain ⟨j,later,⟨none',_⟩ | ⟨_,_,_,reported,_⟩⟩ := reached_answered unseeded_seeded path (returned_exact.mp answer)
  · rw [run] at none'
    cases none'
  · obtain ⟨x,a,stored',run',recorded,said⟩ := reported.verdict disposition verdict
    rw [run,Option.some.injEq] at run'
    obtain ⟨rfl,rfl⟩ := run_unique lawful stored (stored_kept later.suffix lawful stored') (by rw [run'])
    exact ⟨a,attempt_kept later.suffix lawful recorded,said⟩

-- In every run that judges no written run by another's record, and no superseded run by a
-- record that came back, SUPERSEDED means without side effects.
theorem superseded_alone (path : Reached c.run (Coordinator.opening unseeded nextUuid) pool)
    (stays : Lawful StaysLost pool.store.journal) (loses : Lawful LosesUnwritten pool.store.journal) :
    SupersededAlone pool := by
  have lawful := reached_lawful unseeded_seeded path
  intro key s stored superseded
  have said : (ledger key pool.store.journal).tells .superseded := by
    rcases superseded with said | ⟨thread,r,answer,disposition,run⟩
    · exact said
    · exact reported_recorded path stored answer (by rw [disposition]; rfl) run
  have unwritten := superseded_unwritten unseeded_unclaimed lawful stays loses stored said
  exact ⟨unwritten,unwritten_unintended unseeded_unfenced lawful unwritten⟩

set_option maxRecDepth 4000 in
theorem notified_superseded_alone : SupersededAlone notifiedPool :=
  superseded_alone notified_reached (by decide +kernel) (by decide +kernel)

-- An activation is written, its call is abandoned before the attempt, another scan pauses the
-- plan, and the retry reads the pause as a lost race.
def writtenSupersededPool : Pool World Input PyError RunCoordinatorResult :=
  sampleCoordinator.replay emptyPool
    (.start (sampleRequest 0) :: turns 0 16 activating ++ [.step 0 (abandoning activating),.step 0 activating] ++
      .start (sampleRequest 1) :: turns 1 21 pausing ++ .start (sampleRequest 0) :: turns 2 12 activating)

set_option maxRecDepth 4000 in
theorem written_superseded : Reached sampleCoordinator.run (Coordinator.opening unseeded 100) writtenSupersededPool ∧
    ¬ SupersededAlone writtenSupersededPool := by
  refine ⟨replay_reached sampleCoordinator emptyPool _,?_⟩
  intro alone
  have both : (ledger 0 writtenSupersededPool.store.journal).stored.any (fun s =>
      decide (writesOf s.run.strategyRunId writtenSupersededPool.store.journal ≠ [])) = true ∧
        (ledger 0 writtenSupersededPool.store.journal).tells .superseded := by decide +kernel
  obtain ⟨written,said⟩ := both
  obtain ⟨s,stored,test⟩ := (Option.any_eq_true _ _).mp written
  exact of_decide_eq_true test (alone 0 s stored (.inl said)).1

-- One final verdict a scan, on the record and in every answer.
structure OneVerdict (pool : Pool World Input PyError RunCoordinatorResult) : Prop where
  single : ∀ key, (verdictsOn (ledger key pool.store.journal)).length ≤ 1
  agree : ∀ key, ∀ a ∈ (ledger key pool.store.journal).attempts, ∀ b ∈ (ledger key pool.store.journal).attempts,
    ∀ one two, a.finalizationDisposition = some one → b.finalizationDisposition = some two → one = two
  reports : ∀ thread r, returned thread pool = some r → ∀ a ∈ (ledger r.scanLockKey pool.store.journal).attempts,
    ∀ one two, a.finalizationDisposition = some one → r.disposition.verdict = some two → one = two

theorem one_verdict (path : Reached c.run (Coordinator.opening unseeded nextUuid) pool)
    (stays : Lawful StaysLost pool.store.journal) : OneVerdict pool := by
  have lawful := reached_lawful unseeded_seeded path
  refine ⟨one_final unseeded_unclaimed lawful stays,?_,?_⟩
  · intro key a first b second one two said said'
    exact verdicts_agree unseeded_unclaimed lawful stays first second said said'
  · intro thread r answer a recorded one two said verdict
    obtain ⟨j,later,⟨_,refused⟩ | ⟨_,_,_,reported,_⟩⟩ :=
      reached_answered unseeded_seeded path (returned_exact.mp answer)
    · rcases refused with refused | refused <;> rw [refused] at verdict <;> cases verdict
    · obtain ⟨_,b,_,_,recorded',said'⟩ := reported.verdict two verdict
      exact verdicts_agree unseeded_unclaimed lawful stays recorded (attempt_kept later.suffix lawful recorded')
        said said'

set_option maxRecDepth 4000 in
theorem notified_one_verdict : OneVerdict notifiedPool := one_verdict notified_reached (by decide +kernel)

-- A near signal is stored, adverse data comes first, the retry is recorded as superseded but
-- not attached, a recovery brings the pair back, and the next retry applies the signal.
def bothVerdictsPool : Pool World Input PyError RunCoordinatorResult :=
  sampleCoordinator.replay emptyPool
    (.start (sampleRequest 0) :: turns 0 21 activating ++
      .start (sampleRequest 1) :: turns 1 14 nearing ++ [.step 1 (abandoning nearing),.step 1 nearing] ++
      .start (sampleRequest 2) :: turns 2 16 degrading ++
      .start (sampleRequest 1) :: turns 3 9 nearing ++ [.step 3 (abandoning nearing),.step 3 nearing] ++
      .start (sampleRequest 3) :: turns 4 21 recovering ++
      .start (sampleRequest 1) :: turns 5 13 nearing)

set_option maxRecDepth 4000 in
theorem both_verdicts : Reached sampleCoordinator.run (Coordinator.opening unseeded 100) bothVerdictsPool ∧
    ¬ OneVerdict bothVerdictsPool := by
  refine ⟨replay_reached sampleCoordinator emptyPool _,?_⟩
  intro verdicts
  have twice : 1 < (verdictsOn (ledger 3 bothVerdictsPool.store.journal)).length := by decide +kernel
  have most := verdicts.single 3
  omega

end Runs
end SwapMonitor
