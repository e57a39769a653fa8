import SwapMonitor.Application.ScanLedger

namespace SwapMonitor
open Interleaving

-- Each component of the books and the one kind of fact that changes it.
section Entering
variable (L : ScanLedger) (actor : Option Nat) (fact : Fact)

theorem enter_scan : (L.enter actor fact).scan = match fact with
    | .scanCreated scan | .completed scan => some scan
    | _ => L.scan := by
  cases fact <;> simp only [ScanLedger.enter] <;> (try split) <;> rfl

theorem enter_attempts : (L.enter actor fact).attempts = match fact with
    | .attemptRecorded a => L.attempts ++ [a]
    | _ => L.attempts := by
  cases fact <;> simp only [ScanLedger.enter] <;> (try split) <;> rfl

theorem enter_provided : (L.enter actor fact).provided = match fact with
    | .providerCalled => L.provided + 1
    | _ => L.provided := by
  cases fact <;> simp only [ScanLedger.enter] <;> (try split) <;> rfl

theorem enter_stored : (L.enter actor fact).stored = match fact with
    | .runStored s => some s
    | _ => L.stored := by
  cases fact <;> simp only [ScanLedger.enter] <;> (try split) <;> rfl

theorem enter_author : (L.enter actor fact).author = match fact with
    | .runStored _ => actor
    | _ => L.author := by
  cases fact <;> simp only [ScanLedger.enter] <;> (try split) <;> rfl

theorem enter_intents : (L.enter actor fact).intents = match fact with
    | .intentStored i => L.intents ++ [i]
    | _ => L.intents := by
  cases fact <;> simp only [ScanLedger.enter] <;> (try split) <;> rfl

theorem enter_holder : (L.enter actor fact).holder = match fact with
    | .acquired lease => actor.map (·,lease)
    | .released => none
    | _ => L.holder := by
  cases fact <;> simp only [ScanLedger.enter] <;> (try split) <;> rfl

theorem enter_phase : (L.enter actor fact).phase = match fact with
    | .acquired _ | .released => .idle
    | .evaluatedFrom record => .evaluated record
    | .adjudicated current => .adjudicated current
    | .transitioned _ updated => if updated.finalizationStrategyRunId.isSome then .written else L.phase
    | _ => L.phase := by
  cases fact <;> simp only [ScanLedger.enter] <;> (try split) <;> rfl

theorem enter_positions : (L.enter actor fact).positions = match fact with
    | .acquired _ => []
    | .positionRead positionId position => (positionId,position) :: L.positions
    | _ => L.positions := by
  cases fact <;> simp only [ScanLedger.enter] <;> (try split) <;> rfl

theorem enter_broken (broke : L.broken = true) : (L.enter actor fact).broken = true := by
  cases fact <;> simp only [ScanLedger.enter] <;> (try split) <;> first | rfl | exact broke

end Entering

section Laws
variable {c : Coordinator} {seed : UUID → Option RecommendationStateRecord} {j : Log} {key : Digest}

-- The lease excludes everybody else.
theorem exclusive {thread : Nat} {e : Entry Digest Fact} {older : Log} (legal : Legal c seed e older)
    (stranger : e.actor ≠ some thread) (owned : ∃ lease, (ledger e.key older).holder = some (thread,lease)) :
    (ledger e.key older).enter e.actor e.fact = ledger e.key older := by
  obtain ⟨lease,held⟩ := owned
  have notHolder : ¬ Holds e.actor (ledger e.key older) := by
    rintro ⟨other,_,acting,holding⟩
    rw [held,Option.some.injEq,Prod.mk.injEq] at holding
    exact stranger (holding.1 ▸ acting)
  have fact := legal.fact
  cases known : e.fact with
  | acquired =>
    rw [known] at fact
    have free : (ledger e.key older).holder = none := fact.1
    rw [held] at free
    cases free
  | failed =>
    simp only [ScanLedger.enter,held,Option.map_some]
    exact if_neg stranger
  | positionRead => rw [known] at fact; exact absurd fact notHolder
  | _ => rw [known] at fact; exact absurd fact.1 notHolder

theorem ledger_settled (key : Digest) {thread : Nat} {before after : Log} (moved : Others thread before after)
    (lawful : Lawful (Legal c seed) after) (mine : ∃ lease, (ledger key before).holder = some (thread,lease)) :
    ledger key after = ledger key before :=
  view_settled (O := fun L => ∃ lease, L.holder = some (thread,lease))
    (fun _ _ legal stranger owned => exclusive legal stranger owned) moved lawful mine

-- The rules for facts about one scan: an invariant of its books, and what is never undone.
theorem ledger_invariant {P : Digest → ScanLedger → Prop} {law : Entry Digest Fact → Log → Prop}
    (start : ∀ key, P key {})
    (kept : ∀ e older, Lawful law older → law e older → P e.key (ledger e.key older) →
      P e.key ((ledger e.key older).enter e.actor e.fact))
    (lawful : Lawful law j) (key : Digest) : P key (ledger key j) :=
  view_invariant start kept lawful key

theorem ledger_grows {P : ScanLedger → Prop}
    (grows : ∀ e older, Legal c seed e older → P (ledger e.key older) →
      P ((ledger e.key older).enter e.actor e.fact))
    {before after : Log} (later : before <:+ after) (lawful : Lawful (Legal c seed) after)
    (holds : P (ledger key before)) : P (ledger key after) :=
  view_grows grows later lawful holds

section Growth
variable {before after : Log} (later : before <:+ after) (lawful : Lawful (Legal c seed) after)
include later lawful

theorem stored_kept {s : StoredRun} (stored : (ledger key before).stored = some s) :
    (ledger key after).stored = some s := by
  refine ledger_grows (P := fun L => L.stored = some s) ?_ later lawful stored
  intro e older legal holds
  have fact := legal.fact
  cases known : e.fact with
  | runStored => rw [known] at fact; rw [fact.2.unstored] at holds; cases holds
  | _ => simpa only [enter_stored] using holds

theorem author_kept {s : StoredRun} (stored : (ledger key before).stored = some s) :
    (ledger key after).author = (ledger key before).author := by
  refine (ledger_grows (P := fun L => L.stored = some s ∧ L.author = (ledger key before).author) ?_ later lawful
    ⟨stored,rfl⟩).2
  intro e older legal holds
  have fact := legal.fact
  cases known : e.fact with
  | runStored => rw [known] at fact; rw [fact.2.unstored] at holds; cases holds.1
  | _ => simpa only [enter_stored,enter_author] using holds

theorem completed_kept {scan : LogicalScanRun} (stored : (ledger key before).scan = some scan)
    (done : scan.status = .completed) : (ledger key after).scan = some scan := by
  refine ledger_grows (P := fun L => L.scan = some scan) ?_ later lawful stored
  intro e older legal holds
  have fact := legal.fact
  cases known : e.fact with
  | scanCreated => rw [known] at fact; rw [fact.2.1] at holds; cases holds
  | completed =>
    rw [known] at fact
    obtain ⟨_,unfinished,_,found,running,_⟩ := fact
    rw [holds,Option.some.injEq] at found
    subst found
    rw [done] at running
    cases running
  | _ => simpa only [enter_scan] using holds

-- A scan only moves from running to completed.
theorem scan_kept {scan : LogicalScanRun} (found : (ledger key before).scan = some scan) :
    ∃ cur, (ledger key after).scan = some cur ∧ cur.logicalScanRunId = scan.logicalScanRunId ∧
      cur.rotationPlanId = scan.rotationPlanId := by
  refine ledger_grows (P := fun L => ∃ cur, L.scan = some cur ∧ cur.logicalScanRunId = scan.logicalScanRunId ∧
    cur.rotationPlanId = scan.rotationPlanId) ?_ later lawful ⟨scan,found,rfl,rfl⟩
  intro e older legal holds
  have fact := legal.fact
  obtain ⟨cur,known',sameId,samePlan⟩ := holds
  cases known : e.fact with
  | scanCreated => rw [known] at fact; rw [fact.2.1] at known'; cases known'
  | completed completed =>
    rw [known] at fact
    obtain ⟨_,unfinished,_,found,_,_,ownId,_,ownPlan,_⟩ := fact
    rw [known',Option.some.injEq] at found
    subst found
    exact ⟨completed,by simp only [enter_scan],ownId.trans sameId,ownPlan.trans samePlan⟩
  | _ => exact ⟨cur,by simpa only [enter_scan] using known',sameId,samePlan⟩

theorem attempt_kept {a : ScanAttempt} (present : a ∈ (ledger key before).attempts) :
    a ∈ (ledger key after).attempts := by
  refine ledger_grows (P := fun L => a ∈ L.attempts) ?_ later lawful present
  intro e older _ holds
  cases known : e.fact with
  | attemptRecorded => exact List.mem_append_left _ holds
  | _ => simpa only [enter_attempts] using holds

theorem intent_kept {i : ChildIntent} (present : i ∈ (ledger key before).intents) :
    i ∈ (ledger key after).intents := by
  refine ledger_grows (P := fun L => i ∈ L.intents) ?_ later lawful present
  intro e older _ holds
  cases known : e.fact with
  | intentStored => exact List.mem_append_left _ holds
  | _ => simpa only [enter_intents] using holds

theorem broken_kept (broke : (ledger key before).broken = true) : (ledger key after).broken = true :=
  ledger_grows (P := fun L => L.broken = true) (fun _ _ _ holds => enter_broken _ _ _ holds) later lawful broke

end Growth

section Books
variable (lawful : Lawful (Legal c seed) j)
include lawful

-- What is known of a stored run for good.
theorem stored_run {s : StoredRun} (stored : (ledger key j).stored = some s) :
    s.candidate.scanLockKey = key ∧ s.Keyed c.deployment ∧
      c.rotationPlans s.candidate.plan.rotationPlanId = some s.candidate.plan ∧
      ∃ scan, (ledger key j).scan = some scan ∧ scan.rotationPlanId = s.candidate.plan.rotationPlanId := by
  refine ledger_invariant (P := fun key L => ∀ s, L.stored = some s → s.candidate.scanLockKey = key ∧
    s.Keyed c.deployment ∧ c.rotationPlans s.candidate.plan.rotationPlanId = some s.candidate.plan ∧
    ∃ scan, L.scan = some scan ∧ scan.rotationPlanId = s.candidate.plan.rotationPlanId)
    (by intro _ _ h; cases h) ?_ lawful key s stored
  intro e older _ legal holds s stored
  have fact := legal.fact
  cases known : e.fact with
  | runStored =>
    rw [known] at fact stored
    cases stored
    exact ⟨fact.2.scanned,fact.2.keyed,fact.2.plan,fact.2.created⟩
  | scanCreated =>
    rw [known] at fact stored
    obtain ⟨_,_,_,_,created,_⟩ := holds s stored
    rw [fact.2.1] at created
    cases created
  | completed =>
    rw [known] at fact stored
    obtain ⟨scanned,keyed,plan,scan,created,own⟩ := holds s stored
    obtain ⟨_,before,_,found,_,_,_,_,same,_⟩ := fact
    rw [created,Option.some.injEq] at found
    subst found
    exact ⟨scanned,keyed,plan,_,rfl,same.trans own⟩
  | _ =>
    simp only [known,enter_stored] at stored
    simpa only [enter_scan] using holds s stored

theorem scan_key {scan : LogicalScanRun} (found : (ledger key j).scan = some scan) : scan.scanLockKey = key := by
  refine ledger_invariant (P := fun key L => ∀ scan, L.scan = some scan → scan.scanLockKey = key)
    (by intro _ _ h; cases h) ?_ lawful key scan found
  intro e older _ legal holds scan found
  have fact := legal.fact
  cases known : e.fact with
  | scanCreated => rw [known] at fact found; cases found; exact fact.2.2.2
  | completed =>
    rw [known] at fact found
    cases found
    obtain ⟨_,before,_,created,_,_,_,same,_⟩ := fact
    exact same.trans (holds before created)
  | _ => exact holds scan (by simpa only [known,enter_scan] using found)

theorem run_unique {one two : Digest} {s s' : StoredRun} (first : (ledger one j).stored = some s)
    (second : (ledger two j).stored = some s') (same : s.run.strategyRunId = s'.run.strategyRunId) :
    one = two ∧ s = s' := by
  induction j with
  | nil => cases first
  | cons e older ih =>
    have fact := lawful.1.fact
    -- A run is fresh against every run stored before it, so at most one of the two is the newest.
    by_cases stores : ∃ new, e.fact = .runStored new
    · obtain ⟨new,known⟩ := stores
      rw [known] at fact
      have newest : ∀ other s, (ledger other (e :: older)).stored = some s →
          (other = e.key ∧ s = new) ∨ (ledger other older).stored = some s := by
        intro other s stored
        by_cases here : e.key = other
        · subst here
          rw [show e = ⟨e.actor,e.key,.runStored new⟩ from by rw [← known],ledger_same] at stored
          cases stored
          exact .inl ⟨rfl,rfl⟩
        · exact .inr (ledger_other older here ▸ stored)
      rcases newest _ _ first with ⟨rfl,rfl⟩ | before
      · rcases newest _ _ second with ⟨rfl,rfl⟩ | before'
        · exact ⟨rfl,rfl⟩
        · exact absurd same.symm (fact.2.fresh _ _ before')
      · rcases newest _ _ second with ⟨rfl,rfl⟩ | before'
        · exact absurd same (fact.2.fresh _ _ before)
        · exact ih lawful.2 before before'
    · have quiet : ∀ other, (ledger other (e :: older)).stored = (ledger other older).stored := by
        intro other
        by_cases here : e.key = other
        · subst here
          rw [show ledger e.key (e :: older) = (ledger e.key older).enter e.actor e.fact from ledger_same _ _ _ _,
            enter_stored]
          cases known : e.fact with
          | runStored new => exact absurd ⟨new,known⟩ stores
          | _ => rfl
        · rw [ledger_other older here]
      exact ih lawful.2 (quiet one ▸ first) (quiet two ▸ second)

-- A scan has no intent, or the one its notifying run is entitled to.
theorem intents_exact (key : Digest) : (ledger key j).intents = [] ∨ ∃ s, (ledger key j).stored = some s ∧ s.notifies = true ∧
    (ledger key j).intents = [intentOf c.deployment s] := by
  refine ledger_invariant (P := fun _ L => L.intents = [] ∨ ∃ s, L.stored = some s ∧ s.notifies = true ∧
    L.intents = [intentOf c.deployment s]) (fun _ => .inl rfl) ?_ lawful key
  intro e older _ legal holds
  have fact := legal.fact
  cases known : e.fact with
  | runStored =>
    rw [known] at fact
    rcases holds with none' | ⟨s,stored,_⟩
    · exact .inl (by simpa only [enter_intents] using none')
    · rw [fact.2.unstored] at stored; cases stored
  | intentStored intent =>
    rw [known] at fact
    obtain ⟨_,⟨s,stored,notifies,rfl,_⟩,first⟩ := fact
    exact .inr ⟨s,by simpa only [enter_stored] using stored,notifies,by simp [enter_intents,first]⟩
  | _ => simpa only [enter_stored,enter_intents] using holds

-- Every fetch was preceded by an attempt of its own, and the attempts are bounded.
theorem provider_bounded : (ledger key j).provided ≤ (ledger key j).running ∧
    (ledger key j).running ≤ c.maxProviderAttempts := by
  refine ledger_invariant (P := fun _ L => L.provided ≤ L.running ∧ L.running ≤ c.maxProviderAttempts)
    (fun _ => ⟨Nat.le_refl _,Nat.zero_le _⟩) ?_ lawful key
  intro e older _ legal holds
  have fact := legal.fact
  cases known : e.fact with
  | attemptRecorded a =>
    rw [known] at fact
    simp only [ScanLedger.running,enter_attempts,enter_provided,List.countP_append,List.countP_singleton,
      beq_iff_eq] at holds ⊢
    split
    · have below := (fact.2.running (by assumption)).2
      simp only [ScanLedger.running] at below
      omega
    · omega
  | providerCalled =>
    rw [known] at fact
    simp only [ScanLedger.running,enter_attempts,enter_provided] at holds ⊢
    have below := fact.2.2
    simp only [ScanLedger.running] at below
    omega
  | _ => simpa only [ScanLedger.running,enter_attempts,enter_provided] using holds

-- A lease that is free again left nothing half done, unless its call was interrupted.
theorem free_settled (unclaimed : Unclaimed seed) (free : (ledger key j).holder = none) :
    Settled (ledger key j) := by
  refine ledger_invariant (P := fun _ L => L.holder = none → Settled L) (by intro _ _ h; cases h) ?_ lawful key free
  intro e older _ legal holds free
  have fact := legal.fact
  have taken : Holds e.actor (ledger e.key older) → (ledger e.key older).holder ≠ none := by
    rintro ⟨_,_,_,held⟩ nobody
    rw [nobody] at held
    cases held
  cases known : e.fact with
  | acquired =>
    rw [known] at fact free
    obtain ⟨_,acting,_⟩ := fact
    obtain ⟨thread,acting⟩ := Option.isSome_iff_exists.mp acting
    simp only [enter_holder,acting] at free
    cases free
  | released =>
    rw [known] at fact
    exact fact.2 unclaimed
  | failed =>
    rw [known] at free
    have before := holds (by simpa only [enter_holder] using free)
    simp only [ScanLedger.enter]
    split
    · exact fun _ => .inr rfl
    · exact before
  | positionRead => rw [known] at fact free; exact absurd (by simpa only [enter_holder] using free) (taken fact)
  | _ => rw [known] at fact free; exact absurd (by simpa only [enter_holder] using free) (taken fact.1)

-- A verdict is on a succeeded attempt, and that attempt names the scan's run.
theorem attempt_decided {a : ScanAttempt} (present : a ∈ (ledger key j).attempts) :
    (∀ id, a.finalStrategyRunId = some id → ∃ s, (ledger key j).stored = some s ∧ s.run.strategyRunId = id) ∧
      (a.status = .succeeded → a.finalizationDisposition.isSome ∧ a.finalStrategyRunId.isSome) ∧
      (a.finalizationDisposition.isSome → a.status = .succeeded) := by
  refine ledger_invariant (P := fun _ L => ∀ a ∈ L.attempts,
    (∀ id, a.finalStrategyRunId = some id → ∃ s, L.stored = some s ∧ s.run.strategyRunId = id) ∧
    (a.status = .succeeded → a.finalizationDisposition.isSome ∧ a.finalStrategyRunId.isSome) ∧
    (a.finalizationDisposition.isSome → a.status = .succeeded)) (by intro _ _ h; cases h) ?_ lawful key a present
  intro e older _ legal holds a present
  have fact := legal.fact
  cases known : e.fact with
  | attemptRecorded new =>
    rw [known] at fact
    simp only [known,enter_attempts,List.mem_append,List.mem_singleton] at present
    simp only [enter_stored]
    rcases present with old | rfl
    · exact holds a old
    · exact ⟨fact.2.final,fact.2.decided,fact.2.succeeded⟩
  | runStored =>
    rw [known] at fact
    simp only [known,enter_attempts] at present
    obtain ⟨final,rest⟩ := holds a present
    refine ⟨?_,rest⟩
    intro id named
    obtain ⟨s,stored,_⟩ := final id named
    rw [fact.2.unstored] at stored
    cases stored
  | _ =>
    simp only [known,enter_attempts] at present
    simpa only [enter_stored] using holds a present

theorem run_attempted {s : StoredRun} (stored : (ledger key j).stored = some s) : (ledger key j).attempts ≠ [] := by
  refine ledger_invariant (P := fun _ L => L.stored = some s → L.attempts ≠ []) (by intro _ h; cases h) ?_ lawful key
    stored
  intro e older _ legal holds stored
  have fact := legal.fact
  cases known : e.fact with
  | runStored => rw [known] at fact; exact fact.2.attempted
  | attemptRecorded => exact List.append_ne_nil_of_right_ne_nil _ (List.cons_ne_nil _ _)
  | _ =>
    simp only [known,enter_stored] at stored
    simpa only [enter_attempts] using holds stored

-- The succeeded attempts of a scan are verdicts on its run.
theorem verdict_stored {a : ScanAttempt} (present : a ∈ (ledger key j).attempts)
    (succeeded : a.status = .succeeded) : a.finalizationDisposition.isSome ∧
      ∃ s, (ledger key j).stored = some s ∧ a.finalStrategyRunId = some s.run.strategyRunId := by
  obtain ⟨final,decided,_⟩ := attempt_decided lawful present
  obtain ⟨verdict,named⟩ := decided succeeded
  obtain ⟨id,named⟩ := Option.isSome_iff_exists.mp named
  obtain ⟨s,stored,rfl⟩ := final id named
  exact ⟨verdict,s,stored,named⟩

theorem completed_decided (done : (ledger key j).completed) :
    ∃ a ∈ (ledger key j).attempts, a.status = .succeeded := by
  refine ledger_invariant (P := fun _ L => L.completed → ∃ a ∈ L.attempts, a.status = .succeeded)
    (by rintro _ ⟨_,h,_⟩; cases h) ?_ lawful key done
  intro e older _ legal holds done
  have fact := legal.fact
  cases known : e.fact with
  | completed =>
    rw [known] at fact
    obtain ⟨_,_,_,_,_,_,_,_,_,_,_,decided⟩ := fact
    simpa only [enter_attempts] using decided
  | scanCreated =>
    rw [known] at fact done
    obtain ⟨scan,created,status⟩ := done
    cases created
    rw [fact.2.2.1] at status
    cases status
  | attemptRecorded =>
    rw [known] at done
    obtain ⟨a,present,succeeded⟩ := holds done
    exact ⟨a,List.mem_append_left _ present,succeeded⟩
  | _ =>
    simp only [known,ScanLedger.completed,enter_scan] at done
    simpa only [enter_attempts] using holds done

theorem unscanned (absent : (ledger key j).scan = none) :
    (ledger key j).attempts = [] ∧ (ledger key j).stored = none := by
  refine ⟨?_,?_⟩
  · refine ledger_invariant (P := fun _ L => L.scan = none → L.attempts = []) (fun _ _ => rfl) ?_ lawful key absent
    intro e older _ legal holds absent
    have fact := legal.fact
    cases known : e.fact with
    | attemptRecorded =>
      rw [known] at fact absent
      have created := fact.2.created
      rw [show (ledger e.key older).scan = none from by simpa only [enter_scan] using absent] at created
      cases created
    | scanCreated | completed => rw [known] at absent; cases absent
    | _ => simpa only [enter_attempts] using holds (by simpa only [known,enter_scan] using absent)
  · cases stored : (ledger key j).stored with
    | none => rfl
    | some s =>
      obtain ⟨_,_,_,_,created,_⟩ := stored_run lawful stored
      rw [absent] at created
      cases created

theorem record_plan (seeded : Seeded seed) {planId : UUID} {record : RecommendationStateRecord}
    (found : recordOf seed planId j = some record) : record.rotationPlanId = planId := by
  induction j with
  | nil => exact seeded _ _ found
  | cons e older ih =>
    unfold recordOf at found
    split at found
    · split at found
      · cases found; assumption
      · exact ih lawful.2 found
    · exact ih lawful.2 found

theorem record_unclaimed (unclaimed : Unclaimed seed) {planId : UUID} {record : RecommendationStateRecord}
    (found : recordOf seed planId j = some record) : ¬ Claimed record := by
  induction j generalizing planId record with
  | nil => exact unclaimed _ _ found
  | cons e older ih =>
    have fact := lawful.1.fact
    unfold recordOf at found
    split at found
    · rename_i written leaves
      split at found
      · cases found
        cases known : e.fact with
        | stateCreated =>
          rw [known] at fact leaves
          cases leaves
          unfold Claimed
          rw [fact.2.2.1]
          decide
        | transitioned =>
          rw [known] at fact leaves
          cases leaves
          have before := ih lawful.2 fact.2.current
          unfold Claimed at before ⊢
          rwa [fact.2.status]
        | _ => rw [known] at leaves; cases leaves
      · exact ih lawful.2 found
    · exact ih lawful.2 found

end Books
end Laws
end SwapMonitor
