import SwapMonitor.Application.ScanSpecs

namespace SwapMonitor
open Interleaving

-- The answer of a call that did not get its scan's lease.
def Refused (r : RunCoordinatorResult) : Prop :=
  r.strategyRun = none ∧ (r.disposition = .apiConflict ∨ r.disposition = .schedulerSkipped)

-- What a returned result says of the journal: the call got no lease, or it got one and reports
-- what is on the record; a scan completed by then is answered with a verdict.
def Answered (thread : Nat) (r : RunCoordinatorResult) (j : Log) : Prop :=
  Refused r ∨ ∃ lease older, (⟨some thread,r.scanLockKey,.acquired lease⟩ :: older) <:+ j ∧
    Reported r.scanLockKey r (ledger r.scanLockKey j) ∧
    ((ledger r.scanLockKey older).completed → r.disposition.verdict.isSome)

def Ended (thread : Nat) (outcome : Except PyError RunCoordinatorResult) (w : World) : Prop :=
  ∃ j, Others thread j w.journal ∧ ∀ r, outcome = .ok r → Answered thread r j

def Fresh (thread : Nat) (w : World) : Prop := ∀ e ∈ w.journal, e.actor ≠ some thread

theorem Fresh.others {thread : Nat} {w w' : World} (fresh : Fresh thread w)
    (moved : Others thread w.journal w'.journal) : Fresh thread w' := by
  obtain ⟨new,grown,strangers⟩ := moved
  intro e present
  rw [grown] at present
  rcases List.mem_append.mp present with added | old
  · exact strangers e added
  · exact fresh e old

theorem Ended.others {thread : Nat} {outcome : Except PyError RunCoordinatorResult} {w w' : World}
    (ended : Ended thread outcome w) (moved : Others thread w.journal w'.journal) : Ended thread outcome w' := by
  obtain ⟨j,later,answers⟩ := ended
  exact ⟨j,later.trans moved,answers⟩

theorem ended_error (thread : Nat) (error : PyError) (w : World) : Ended thread (.error error) w :=
  ⟨w.journal,Others.refl _ _,by intro _ h; cases h⟩

section Growth
variable {c : Coordinator} {seed : UUID → Option RecommendationStateRecord} {before after : Log}

theorem Reported.later {key : Digest} {r : RunCoordinatorResult} (reported : Reported key r (ledger key before))
    (later : before <:+ after) (lawful : Lawful (Legal c seed) after) : Reported key r (ledger key after) := by
  refine ⟨reported.key,?_⟩
  intro disposition verdict
  obtain ⟨x,a,stored,run,recorded,said⟩ := reported.verdict disposition verdict
  exact ⟨x,a,stored_kept later lawful stored,run,attempt_kept later lawful recorded,said⟩

end Growth

section Acts
variable {s : Session} {seed : UUID → Option RecommendationStateRecord} {α β : Type}

-- An operation of a call that wrote about no other scan, be it with or without the lease.
theorem act_safe {op : Session.Operation β} {post : Except PyError β → World → Prop} {w : World}
    (single : ∀ e ∈ w.journal, e.actor = some s.thread → e.key = s.scanLockKey)
    (effect : ∀ input w', (contract s.self seed).invariant w' → Others s.thread w.journal w'.journal →
      ∀ value stores facts, op input w'.stores = .ok (value,stores,facts) →
        Represents seed stores (s.note facts w'.journal) ∧ Lawful (Legal s.self seed) (s.note facts w'.journal) ∧
          post (.ok value) ⟨stores,s.note facts w'.journal⟩)
    (failed : ∀ error w', post (.error error) w') : Safe (contract s.self seed) s.thread post (s.perform op) w := by
  intro w' valid moved input
  have single' : ∀ e ∈ w'.journal, e.actor = some s.thread → e.key = s.scanLockKey := by
    obtain ⟨new,grown,strangers⟩ := moved
    intro e present acting
    rw [grown] at present
    rcases List.mem_append.mp present with added | old
    · exact absurd acting (strangers e added)
    · exact single e old acting
  have lands : ∃ outcome stores facts, s.outcome op input w' = (outcome,⟨stores,s.note facts w'.journal⟩) ∧
      Represents seed stores (s.note facts w'.journal) ∧ Lawful (Legal s.self seed) (s.note facts w'.journal) ∧
      post outcome ⟨stores,s.note facts w'.journal⟩ := by
    rcases outcome_parts s op input w' with ⟨error,did,_⟩ | ⟨value,stores,facts,ran,did⟩
    · exact ⟨.error error,_,_,did,valid.1.quietly rfl,note_lawful single' valid.2 rfl,failed _ _⟩
    · obtain ⟨rep,lawful,holds⟩ := effect input w' valid moved value stores facts ran
      rcases did with did | ⟨cause,did⟩
      · exact ⟨.ok value,_,_,did,rep,lawful,holds⟩
      · exact ⟨.error cause.error,_,_,did,rep.quietly rfl,⟨⟨note_single facts single',rfl⟩,lawful⟩,failed _ _⟩
  obtain ⟨outcome,stores,facts,did,rep,lawful,holds⟩ := lands
  simp only [did]
  exact ⟨⟨rep,lawful⟩,fun other different => note_others facts _ different,holds⟩

-- An operation before the scan lock leaves everything as it is.
theorem consult_safe {c : Coordinator} {thread : Nat} {op : Except PyError α} {w : World} (fresh : Fresh thread w) :
    Safe (contract c seed) thread (fun outcome w' => Fresh thread w' ∧ ∀ value, outcome = .ok value → op = .ok value)
      (consult op) w := by
  intro w' valid moved input
  refine ⟨valid,fun other _ => Others.refl _ _,?_⟩
  dsimp only
  split
  · exact ⟨fresh.others moved,fun _ h => h⟩
  · exact ⟨fresh.others moved,by intro _ h; cases h⟩
  · exact ⟨fresh.others moved,by intro _ h; cases h⟩

end Acts

section Calls
variable {seed : UUID → Option RecommendationStateRecord}

theorem acquire_safe {s : Session} {w : World} (fresh : Fresh s.thread w) :
    Safe (contract s.self seed) s.thread (fun outcome w' => match outcome with
      | .ok (some lease) => (∃ older, w'.journal = ⟨some s.thread,s.scanLockKey,.acquired lease⟩ :: older) ∧
          Held s lease (ledger s.scanLockKey w'.journal) w'
      | _ => True) s.acquireScanLock w := by
  refine act_safe (fun e present acting => absurd acting (fresh e present)) ?_ fun _ _ => trivial
  intro input w' valid moved value stores facts did
  simp only [bind_ok,pure_ok,Prod.mk.injEq] at did
  obtain ⟨⟨found,stores'⟩,acquired,rfl,rfl,rfl⟩ := did
  have single : ∀ e ∈ w'.journal, e.actor = some s.thread → e.key = s.scanLockKey :=
    fun e present acting => absurd acting (fresh.others moved e present)
  rcases acquire_parts valid.1 acquired with ⟨rfl,rfl⟩ | ⟨lease,rfl,owned,free,rep⟩
  · exact ⟨valid.1,valid.2,trivial⟩
  · refine ⟨rep s.thread,note_lawful single valid.2 ⟨free,rfl,owned⟩,⟨w'.journal,rfl⟩,rfl,?_,note_single [_] single⟩
    rw [ledger_note]
    rfl

theorem release_safe {s : Session} {lease : LockLease} {L : ScanLedger} {w : World}
    (held : Held s lease L w) (closed : Closed seed L) : Safe (contract s.self seed) s.thread
    (fun outcome w' => outcome = .ok () → w.journal <:+ w'.journal) (s.release lease) w := by
  refine act_safe held.single ?_ (by intro _ _ h; cases h)
  intro input w' valid moved value stores facts did
  have held' := held.others moved valid.2
  have holds := held'.holds
  simp only [bind_ok,pure_ok,Prod.mk.injEq] at did
  obtain ⟨_,freed,_,rfl,rfl⟩ := did
  have leased : (ledger s.scanLockKey w'.journal).holder = some (s.thread,lease) := by
    rw [held'.books]; exact held'.holder
  exact ⟨release_parts valid.1 leased freed,
    note_lawful held'.single valid.2 ⟨holds,by rw [held'.books]; exact closed⟩,
    fun _ => moved.suffix.trans (note_suffix _ _)⟩

theorem locked_safe {s : Session} {plan : RotationPlan} {w : World} (seeded : Seeded seed)
    (valid : (contract s.self seed).invariant w) (fresh : Fresh s.thread w) (own : s.scanRequest.plan = plan)
    (authorized : s.self.rotationPlans plan.rotationPlanId = some plan) :
    Safe (contract s.self seed) s.thread (Ended s.thread) (s.locked plan) w := by
  refine Safe.bind valid (acquire_safe fresh) (fun error w' _ _ => ended_error _ _ _) ?_
  rintro (_ | lease) w1 valid1 opened
  · refine ⟨w1.journal,Others.refl _ _,?_⟩
    rintro _ ⟨⟩
    refine .inl ⟨rfl,?_⟩
    simp only [Session.duplicateResult]
    split
    · exact .inl rfl
    · exact .inr rfl
  obtain ⟨⟨older,newest⟩,held⟩ := opened
  have lawful : Lawful (Legal s.self seed) (⟨some s.thread,s.scanLockKey,.acquired lease⟩ :: older) :=
    newest ▸ valid1.2
  have books : ledger s.scanLockKey w1.journal = (ledger s.scanLockKey older).enter (some s.thread) (.acquired lease) := by
    rw [newest,ledger_same]
  have free : (ledger s.scanLockKey older).holder = none := lawful.1.fact.1
  have closed : Closed seed (ledger s.scanLockKey w1.journal) := by
    intro unclaimed
    rw [books]
    exact free_settled lawful.2 unclaimed free
  have idle : (ledger s.scanLockKey w1.journal).phase = .idle := by rw [books]; rfl
  refine Safe.ensuring valid1 (underLock_spec seeded own authorized closed idle w1 valid1 held) ?_
  rintro outcome w2 valid2 ⟨L2,held2,later,⟨closed2,reports⟩,answers⟩
  refine Safe.bind valid2 (release_safe held2 closed2) (fun error w3 _ _ => ended_error _ _ _) ?_
  rintro _ w3 valid3 released
  refine ⟨w3.journal,Others.refl _ _,?_⟩
  rintro r rfl
  have reported := reports r rfl
  have later3 := released rfl
  rw [Answered,reported.key]
  refine .inr ⟨lease,older,newest ▸ later.trans later3,?_,?_⟩
  · exact Reported.later (held2.books.symm ▸ reported) later3 valid3.2
  · intro done
    exact answers r rfl (by rw [books]; exact done)

theorem request_plan {d : Deployment} {request : RunCoordinatorRequest} {scanRequest : ScanLockRequest}
    (asked : request.scanLockRequest d = .ok scanRequest) : scanRequest.plan = request.plan := by
  unfold RunCoordinatorRequest.scanLockRequest at asked
  split at asked
  · cases asked
  · simp only [bind_ok,pure_ok] at asked
    obtain ⟨_,_,rfl⟩ := asked
    rfl

theorem plan_found {c : Coordinator} {request : RunCoordinatorRequest} {plan : RotationPlan}
    (found : c.getPlan request = .ok plan) : c.rotationPlans request.plan.rotationPlanId = some plan := by
  unfold Coordinator.getPlan at found
  split at found
  · cases found
  · rename_i stored known
    simp only [bind_ok,pure_ok] at found
    obtain ⟨_,_,rfl⟩ := found
    exact known

theorem validate_safe {c : Coordinator} {thread : Nat} {request : RunCoordinatorRequest} {w : World}
    (valid : (contract c seed).invariant w) (fresh : Fresh thread w) :
    Safe (contract c seed) thread (fun _ w' => Fresh thread w') (c.validateConfigurationSnapshot request) w := by
  refine Safe.bind (M := fun _ w' => Fresh thread w') valid ?_ (fun _ _ _ fresh' => fresh') ?_
  · exact Safe.catching valid (consult_safe fresh) (fun _ _ _ holds => holds.1) (fun _ _ _ _ holds => holds.1)
      fun _ _ _ _ holds => holds.1
  · rintro (error | persisted) w' _ fresh'
    · exact fresh'
    · exact fresh'

-- A whole call, from its first look at the plan.
theorem run_safe {c : Coordinator} {thread : Nat} {request : RunCoordinatorRequest} {w : World} (seeded : Seeded seed)
    (valid : (contract c seed).invariant w) (fresh : Fresh thread w) :
    Safe (contract c seed) thread (Ended thread) (c.run thread request) w := by
  refine Safe.bind valid (consult_safe fresh) (fun _ _ _ _ => ended_error _ _ _) ?_
  rintro plan w1 valid1 ⟨fresh1,found⟩
  have authorized := plan_found (found plan rfl)
  split
  · exact ended_error _ _ _
  rename_i same
  obtain rfl : plan = request.plan := not_not.mp same
  refine Safe.bind valid1 (validate_safe valid1 fresh1) (fun _ _ _ _ => ended_error _ _ _) ?_
  rintro _ w2 valid2 fresh2
  refine Safe.bind (M := fun outcome w' => Fresh thread w' ∧ outcome = request.scanLockRequest c.deployment) valid2
    ⟨fresh2,rfl⟩ (fun _ _ _ _ => ended_error _ _ _) ?_
  rintro scanRequest w3 valid3 ⟨fresh3,asked⟩
  exact locked_safe (s := ⟨c,thread,request,scanRequest⟩) seeded valid3 fresh3 (request_plan asked.symm) authorized

end Calls

-- Fresh in-memory repositories, but for the records an earlier process may have left.
def Coordinator.opening (seed : UUID → Option RecommendationStateRecord) (nextUuid : UUID) :
    Pool World Input PyError RunCoordinatorResult := ⟨⟨Stores.initial seed nextUuid,[]⟩,[]⟩

section Runs
variable {c : Coordinator} {seed : UUID → Option RecommendationStateRecord} {nextUuid : UUID}
  {pool : Pool World Input PyError RunCoordinatorResult}

theorem initial_represents (seed : UUID → Option RecommendationStateRecord) (nextUuid : UUID) :
    Represents seed (Stores.initial seed nextUuid) [] where
  records := fun _ => rfl
  scans := ⟨fun _ => rfl,(by intro _ _ h; cases h),(by intro _ _ h; cases h),(by intro _ _ h; cases h)⟩
  runs := ⟨(by intro _ _ h; cases h),(by intro _ _ h; cases h),(by intro _ _ h; cases h),(by intro _ _ h; cases h),
    (by intro _ _ h; cases h),(by intro _ _ h; cases h)⟩
  intents := ⟨(by intro _ _ h; cases h),fun _ _ h => absurd h List.not_mem_nil,(by intro _ _ h; cases h),
    fun _ present => absurd rfl present⟩
  leases := ⟨fun _ => rfl,(by intro _ _ _ h; cases h),(by intro _ _ h; cases h)⟩

theorem sound_reached (seeded : Seeded seed) (path : Reached c.run (Coordinator.opening seed nextUuid) pool) :
    Sound (contract c seed) Fresh Ended pool := by
  refine reached_sound (fun _ _ _ valid fresh => run_safe seeded valid fresh)
    (fun _ _ _ moved fresh => fresh.others moved) (fun _ _ _ _ moved ended => ended.others moved) path ?_
  refine ⟨⟨initial_represents seed nextUuid,trivial⟩,fun _ _ e present => absurd present List.not_mem_nil,?_⟩
  intro thread p found
  cases found

-- What holds of every reachable pool: the stores hold what the journal says, the journal is
-- lawful, numbers not handed out are fresh, and every returned result is true of the journal.
theorem reached_represents (seeded : Seeded seed) (path : Reached c.run (Coordinator.opening seed nextUuid) pool) :
    Represents seed pool.store.stores pool.store.journal := (sound_reached seeded path).holds.1

theorem reached_lawful (seeded : Seeded seed) (path : Reached c.run (Coordinator.opening seed nextUuid) pool) :
    Lawful (Legal c seed) pool.store.journal := (sound_reached seeded path).holds.2

theorem reached_fresh (seeded : Seeded seed) (path : Reached c.run (Coordinator.opening seed nextUuid) pool)
    {thread : Nat} (unused : pool.threads.length ≤ thread) : Fresh thread pool.store :=
  (sound_reached seeded path).unused thread unused

theorem reached_answered (seeded : Seeded seed) (path : Reached c.run (Coordinator.opening seed nextUuid) pool)
    {thread : Nat} {r : RunCoordinatorResult} (returned : pool.threads[thread]? = some (.done (.ok r))) :
    ∃ j, Others thread j pool.store.journal ∧ Answered thread r j := by
  obtain ⟨j,later,answers⟩ := (sound_reached seeded path).threads thread _ returned
  exact ⟨j,later,answers r rfl⟩

-- The journal only grows.
theorem reached_grows (seeded : Seeded seed) (path : Reached c.run (Coordinator.opening seed nextUuid) pool)
    {last : Pool World Input PyError RunCoordinatorResult} (rest : Reached c.run pool last) :
    pool.store.journal <:+ last.store.journal :=
  Others.suffix (reached_unused (fun _ _ _ valid fresh => run_safe seeded valid fresh)
    (fun _ _ _ moved fresh => fresh.others moved) (fun _ _ _ _ moved ended => ended.others moved)
    (sound_reached seeded path) rest (Nat.le_refl _))

-- A step of a call is noted in its own name.
theorem step_mine (seeded : Seeded seed) (path : Reached c.run (Coordinator.opening seed nextUuid) pool)
    {thread : Nat} {update : Input → World → World} {next : Input → World → Run RunCoordinatorResult}
    (found : pool.threads[thread]? = some (.act update next)) (input : Input) :
    ∃ new, (update input pool.store).journal = new ++ pool.store.journal ∧
      ∀ e ∈ new, ∀ actor, e.actor = some actor → actor = thread := by
  have sound := sound_reached seeded path
  obtain ⟨_,guaranteed,_⟩ := sound.threads thread _ found pool.store sound.holds
    ((contract c seed).refl thread _) input
  obtain ⟨new,grown,_⟩ := guaranteed (thread + 1) (Nat.succ_ne_self thread)
  refine ⟨new,grown,?_⟩
  intro e present actor acting
  by_contra other
  obtain ⟨new',grown',strangers⟩ := guaranteed actor other
  rw [grown] at grown'
  exact strangers e (List.append_cancel_right grown' ▸ present) acting

-- One at a time, the journal is written call by call.
theorem alone_ordered (seeded : Seeded seed) (path : Alone c.run (Coordinator.opening seed nextUuid) pool) :
    pool.store.journal.Pairwise fun newer older => ∀ a b, newer.actor = some a → older.actor = some b → b ≤ a := by
  induction path with
  | initial => exact List.Pairwise.nil
  | start _ _ moved ih =>
    cases Option.some.inj moved
    exact ih
  | @step before thread input after earlier moved ih =>
    simp only [Pool.move] at moved
    split at moved
    · rename_i update next found
      cases Option.some.inj moved
      have newest : before.threads.length ≤ thread + 1 := by
        by_contra beyond
        have finished := alone_newest (by intro p present; cases present) earlier found (by omega)
        exact finished
      obtain ⟨new,grown,mine⟩ := step_mine seeded earlier.reached found input
      dsimp only
      rw [grown,List.pairwise_append]
      refine ⟨?_,ih,?_⟩
      · refine List.pairwise_of_forall_mem_list ?_
        intro e present e' present' a b acting acting'
        rw [mine e present a acting,mine e' present' b acting']
      · intro e present e' present' a b acting acting'
        rw [mine e present a acting]
        by_contra beyond
        exact reached_fresh seeded earlier.reached (by omega : _ ≤ b) e' present' acting'
    · cases moved

end Runs
end SwapMonitor
