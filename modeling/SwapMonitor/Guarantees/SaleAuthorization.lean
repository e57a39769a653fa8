import SwapMonitor.Guarantees.Schedules

namespace SwapMonitor
open Interleaving

-- The two states a sale is prepared in are entered by an event the sale guard looks at, and
-- the second only by a validated decision.
theorem edge_sale {request : TransitionRequest} {outcome : TransitionResult} (edge : Edge request outcome)
    (enters : outcome.nextState = .actionPending ∨ outcome.nextState = .actionNotified)
    (moved : request.currentState ≠ outcome.nextState) : request.event ∈ actionOrSaleEvents ∧
      (outcome.nextState = .actionNotified → request.event = .decisionValidated ∧
        request.guards.sizingOutcome = .passed) := by
  cases edge with
  | confirmed event state next known =>
    rcases known with known | known <;> subst known <;> simp [result] at enters
  | _ => simp_all [result,noop,actionOrSaleEvents]

-- A position on the books was read under the lease that is still held.
theorem position_origin {c : Coordinator} {seed : UUID → Option RecommendationStateRecord} {j : Log} {key : Digest}
    {positionId : UUID} {position : Position} {thread : Nat} {lease : LockLease}
    (lawful : Lawful (Legal c seed) j) (read : (positionId,position) ∈ (ledger key j).positions)
    (held : (ledger key j).holder = some (thread,lease)) :
    ⟨some thread,key,.positionRead positionId position⟩ ∈ j := by
  induction j with
  | nil => cases read
  | cons e older ih =>
    obtain ⟨actor,owner,fact⟩ := e
    rw [cons_holder] at held
    rw [ledger_cons] at read
    by_cases here : owner = key
    · subst here
      simp only [if_true,enter_positions] at read
      have legal := lawful.1.fact
      cases fact with
      | acquired => cases read
      | released => simp at held
      | positionRead positionId' position' =>
        rcases List.mem_cons.mp read with newest | before
        · cases newest
          obtain ⟨thread',lease',acting,held'⟩ := legal
          simp only at acting held held'
          rw [held,Option.some.injEq,Prod.mk.injEq] at held'
          rw [acting,← held'.1]
          exact List.mem_cons_self
        · exact List.mem_cons_of_mem _ (ih lawful.2 before held)
      | _ => exact List.mem_cons_of_mem _ (ih lawful.2 read held)
    · simp only [here,if_false] at read
      refine List.mem_cons_of_mem _ (ih lawful.2 read ?_)
      cases fact <;> simpa only [here,if_false] using held

-- What stands behind a stored run that enters one of the two states.
structure SaleAuthorized (s : StoredRun) (position : Position) : Prop where
  source : AuthorizedSource s.candidate.plan position
  sized : s.next.1 = .actionNotified → ∃ sizing, s.candidate.evaluation.sizingResult = some sizing ∧
    sizing.actionable = true ∧ sizing.sourceSale.sourcePositionId = position.positionId ∧
    0 < sizing.sourceSale.quantity.value.toRat ∧
    sizing.sourceSale.quantity.value.toRat ≤ position.quantity.value.toRat

theorem run_authorized {s : StoredRun} {L : ScanLedger} (checked : SaleChecked L s.candidate)
    (enters : s.next.1 = .actionPending ∨ s.next.1 = .actionNotified) (moved : s.previous.1 ≠ s.next.1) :
    ∃ positionId position, s.candidate.evaluation.saleSourcePositionId = some positionId ∧
      (positionId,position) ∈ L.positions ∧ SaleAuthorized s position := by
  obtain ⟨request,asked,_,guarded,edge⟩ := s.edge
  have state : request.currentState = s.previous.1 := by rw [asked]; rfl
  obtain ⟨sale,decided⟩ := edge_sale edge enters (by rw [state]; exact moved)
  obtain ⟨position,supplied,source,sized⟩ := guarded sale
  simp only [asked,Candidate.request] at supplied source sized decided
  obtain ⟨found,sizing⟩ := checked
  cases named : s.candidate.evaluation.saleSourcePositionId with
  | none =>
    rw [named] at found
    rw [found] at supplied
    cases supplied
  | some positionId =>
    rw [named] at found
    obtain ⟨position',known,read,_⟩ := found
    rw [known,Option.some.injEq] at supplied
    subst supplied
    refine ⟨positionId,position',rfl,read,source,?_⟩
    intro notified
    obtain ⟨event,passed⟩ := decided notified
    obtain ⟨quantity,offered,sale⟩ := sized event passed
    obtain ⟨position'',evidence,known',actionable,actionableYes,names,handed⟩ := sizing event passed
    rw [known,Option.some.injEq] at known'
    subst known'
    rw [handed,Option.some.injEq] at offered
    subst offered
    exact ⟨evidence,actionable,actionableYes,names,sale.positive,sale.held⟩

section Runs
variable {c : Coordinator} {seed : UUID → Option RecommendationStateRecord} {nextUuid : UUID}
  {pool : Pool World Input PyError RunCoordinatorResult}

-- Whatever the evaluator claimed, the position the call read for it was checked against the
-- stored plan before the run was stored.
theorem stored_sale_authorized (seeded : Seeded seed)
    (path : Reached c.run (Coordinator.opening seed nextUuid) pool) {newer older : Log} {actor : Option Nat}
    {key : Digest} {s : StoredRun} (split : pool.store.journal = newer ++ ⟨actor,key,.runStored s⟩ :: older)
    (enters : s.next.1 = .actionPending ∨ s.next.1 = .actionNotified) (moved : s.previous.1 ≠ s.next.1) :
    c.rotationPlans s.candidate.plan.rotationPlanId = some s.candidate.plan ∧
      ∃ positionId position, s.candidate.evaluation.saleSourcePositionId = some positionId ∧
        ⟨actor,key,.positionRead positionId position⟩ ∈ older ∧ SaleAuthorized s position := by
  have lawful := split ▸ reached_lawful seeded path
  obtain ⟨⟨thread,lease,acting,held⟩,legal⟩ := (Lawful.entry lawful).fact
  obtain ⟨positionId,position,named,read,authorized⟩ := run_authorized legal.sale enters moved
  cases acting
  exact ⟨legal.plan,positionId,position,named,position_origin (Lawful.older lawful).2 read held,authorized⟩

set_option maxRecDepth 4000 in
theorem notified_sale_authorized : ∃ s position,
    (∃ actor key, ⟨actor,key,.runStored s⟩ ∈ notifiedPool.store.journal) ∧
      s.next.1 = .actionNotified ∧ SaleAuthorized s position := by
  have found : notifiedPool.store.journal.any
      (fun e => e.fact.storesRun fun s => decide (s.next.1 = .actionNotified ∧ s.previous.1 ≠ s.next.1)) = true := by
    decide +kernel
  obtain ⟨newer,actor,key,fact,older,split,stores⟩ := entered found
  obtain ⟨s,rfl,test⟩ := stores_run stores
  obtain ⟨notified,moved⟩ := of_decide_eq_true test
  obtain ⟨_,_,position,_,_,authorized⟩ := stored_sale_authorized unseeded_seeded
    notified_reached split (.inr notified) moved
  exact ⟨s,position,⟨actor,key,by rw [split]; simp⟩,notified,authorized⟩

end Runs
end SwapMonitor
