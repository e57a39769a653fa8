import SwapMonitor.Exceptions.Bodies
import SwapMonitor.Persistence.Changes
import Mathlib.Data.List.Pairwise

namespace SwapMonitor.Locks
open Function (update)
open Bodies
open Repositories (Mutable)

-- The dictionaries of InMemoryLockProvider.
structure InMemoryLockProvider where
  leases : Digest → Option LockLease
  leasePortfolios : UUID → Option UUID
  leaseKeys : UUID → Option Digest

def InMemoryLockProvider.empty : InMemoryLockProvider := ⟨fun _ => none,fun _ => none,fun _ => none⟩

namespace InMemoryLockProvider
variable (d : Deployment) (access : AccessContext) (p : InMemoryLockProvider)

-- With what uuid4 gives when the key is free.
def acquireScanLock (request : ScanLockRequest) (leaseId : UUID) : Except PyError (Option LockLease × InMemoryLockProvider) := do
  let _ ← requirePortfolioMutation d request.plan.portfolioId access
  if (p.leases (request.key d)).isSome then pure (none,p)
  else
    let lease : LockLease := ⟨leaseId,request.key d⟩
    pure (some lease,
      { leases := update p.leases (request.key d) (some lease)
        leasePortfolios := update p.leasePortfolios lease.leaseId (some request.plan.portfolioId)
        leaseKeys := update p.leaseKeys lease.leaseId (some (request.key d)) })

def release (lease : LockLease) : Except PyError InMemoryLockProvider :=
  match p.leasePortfolios lease.leaseId with
  | none => pure p
  | some portfolioId => do
    let _ ← requirePortfolioMutation d portfolioId access
    match p.leaseKeys lease.leaseId with
    | none => raise (.operationFailed "KeyError") (uuidText lease.leaseId)
    | some storedKey => do
      raiseIf (decide (lease.key ≠ storedKey)) .valueError "lease key does not match the acquired lock"
      pure
        { leases := update p.leases storedKey none
          leasePortfolios := update p.leasePortfolios lease.leaseId none
          leaseKeys := update p.leaseKeys lease.leaseId none }

-- Both methods, statement by statement.
namespace Body

def acquireScanLock (request : ScanLockRequest) (leaseId : UUID) : Body PyError InMemoryLockProvider (Option LockLease) := do
  let _ ← check fun _ => requirePortfolioMutation d request.plan.portfolioId access
  let held ← fetch fun p => (p.leases (request.key d)).isSome
  if held then pure none
  else do
    let lease : LockLease := ⟨leaseId,request.key d⟩
    assign fun p => {p with leases := update p.leases (request.key d) (some lease)}
    assign fun p => {p with leasePortfolios := update p.leasePortfolios lease.leaseId (some request.plan.portfolioId)}
    assign fun p => {p with leaseKeys := update p.leaseKeys lease.leaseId (some (request.key d))}
    pure (some lease)

def release (lease : LockLease) : Body PyError InMemoryLockProvider Unit := do
  let known ← fetch fun p => p.leasePortfolios lease.leaseId
  match known with
  | none => pure ()
  | some portfolioId => do
    let _ ← check fun _ => requirePortfolioMutation d portfolioId access
    let stored ← fetch fun p => p.leaseKeys lease.leaseId
    match stored with
    | none => check fun _ => raise (.operationFailed "KeyError") (uuidText lease.leaseId)
    | some storedKey => do
      check fun _ => raiseIf (decide (lease.key ≠ storedKey)) .valueError "lease key does not match the acquired lock"
      assign fun p => {p with leases := update p.leases storedKey none}
      assign fun p => {p with leasePortfolios := update p.leasePortfolios lease.leaseId none}
      assign fun p => {p with leaseKeys := update p.leaseKeys lease.leaseId none}

end Body

theorem acquired_atomic (request : ScanLockRequest) (leaseId : UUID) :
    Body.acquireScanLock d access request leaseId p = settled (p.acquireScanLock d access request leaseId) p := by
  unfold Body.acquireScanLock InMemoryLockProvider.acquireScanLock
  refine checked fun _ _ => ?_
  rw [fetched]
  by_cases held : (p.leases (request.key d)).isSome = true
  · rw [if_pos held,if_pos held]
    rfl
  · rw [if_neg held,if_neg held]
    rfl

theorem released_atomic (lease : LockLease) :
    Body.release d access lease p = settled ((p.release d access lease).map fun after => ((),after)) p := by
  unfold Body.release InMemoryLockProvider.release
  rw [fetched]
  cases p.leasePortfolios lease.leaseId with
  | none => rfl
  | some portfolioId =>
    simp only [bind_mapped]
    refine checked fun _ _ => ?_
    rw [fetched]
    cases p.leaseKeys lease.leaseId with
    | none => rfl
    | some storedKey =>
      simp only [bind_mapped]
      exact checked fun _ _ => rfl

end InMemoryLockProvider

inductive LockCall where
  | acquire (access : AccessContext) (request : ScanLockRequest) (leaseId : UUID)
  | release (access : AccessContext) (lease : LockLease)

-- What a call returned or raised; release returns nothing.
abbrev LockOutcome := Except PyError (Option LockLease)

def InMemoryLockProvider.call (d : Deployment) (p : InMemoryLockProvider) : LockCall → LockOutcome × InMemoryLockProvider
  | .acquire access request leaseId => Body.acquireScanLock d access request leaseId p
  | .release access lease => ((Body.release d access lease p).1.map fun _ => none,(Body.release d access lease p).2)

abbrev LockLog := List (LockCall × LockOutcome)

-- The leases that were returned, and of them those that no later call gave back, with the portfolios they were acquired for.
def issued : LockLog → List UUID
  | [] => []
  | (_,.ok (some lease)) :: log => lease.leaseId :: issued log
  | _ :: log => issued log

def outstanding : LockLog → List (LockLease × UUID)
  | [] => []
  | (.acquire _ request _,.ok (some lease)) :: log => (lease,request.plan.portfolioId) :: outstanding log
  | (.release _ lease,.ok _) :: log => (outstanding log).filter fun held => decide (held.1 ≠ lease)
  | _ :: log => outstanding log

-- The ids that are drawn were not drawn before.
def Fresh (log : LockLog) : LockCall → Prop
  | .acquire _ _ leaseId => leaseId ∉ issued log
  | .release _ _ => True

-- Calls in any order, by any actors and with any leases.
inductive Runs (d : Deployment) : LockLog → InMemoryLockProvider → Prop where
  | start : Runs d [] .empty
  | step {log : LockLog} {p : InMemoryLockProvider} {call : LockCall} : Runs d log p → Fresh log call →
      Runs d ((call,(p.call d call).1) :: log) (p.call d call).2

def Apart (a b : LockLease × UUID) : Prop := a.1.leaseId ≠ b.1.leaseId ∧ a.1.key ≠ b.1.key

instance : Std.Symm Apart := ⟨fun _ _ apart => ⟨apart.1.symm,apart.2.symm⟩⟩

-- The dictionaries hold the outstanding leases, each once, and nothing else.
structure Kept (log : LockLog) (p : InMemoryLockProvider) : Prop where
  byKey : ∀ key lease, p.leases key = some lease ↔ lease.key = key ∧ ∃ portfolioId, (lease,portfolioId) ∈ outstanding log
  portfolios : ∀ leaseId portfolioId, p.leasePortfolios leaseId = some portfolioId ↔ ∃ key, (⟨leaseId,key⟩,portfolioId) ∈ outstanding log
  keys : ∀ leaseId key, p.leaseKeys leaseId = some key ↔ ∃ portfolioId, (⟨leaseId,key⟩,portfolioId) ∈ outstanding log
  issued : ∀ held ∈ outstanding log, held.1.leaseId ∈ issued log
  distinct : (outstanding log).Pairwise Apart

section Calls
variable {d : Deployment} {access : AccessContext} {p : InMemoryLockProvider} {request : ScanLockRequest} {leaseId : UUID} {lease : LockLease}

-- What an acquisition does.
theorem acquire_cases (d : Deployment) (access : AccessContext) (p : InMemoryLockProvider) (request : ScanLockRequest) (leaseId : UUID) :
    (¬Mutable d access request.plan.portfolioId ∧ ∃ error, p.call d (.acquire access request leaseId) = (.error error,p)) ∨
    (Mutable d access request.plan.portfolioId ∧ (p.leases (request.key d)).isSome = true ∧ p.call d (.acquire access request leaseId) = (.ok none,p)) ∨
    Mutable d access request.plan.portfolioId ∧ p.leases (request.key d) = none ∧
      p.call d (.acquire access request leaseId) = (.ok (some ⟨leaseId,request.key d⟩),
        { leases := update p.leases (request.key d) (some ⟨leaseId,request.key d⟩)
          leasePortfolios := update p.leasePortfolios leaseId (some request.plan.portfolioId)
          leaseKeys := update p.leaseKeys leaseId (some (request.key d)) }) := by
  unfold Mutable
  rw [InMemoryLockProvider.call,InMemoryLockProvider.acquired_atomic,InMemoryLockProvider.acquireScanLock]
  cases allowed : requirePortfolioMutation d request.plan.portfolioId access with
  | error error => exact .inl ⟨fun ⟨_,returned⟩ => (nomatch returned),error,rfl⟩
  | ok owner =>
    cases held : p.leases (request.key d) with
    | some lease =>
      simp only [Bind.bind,Except.bind]
      exact .inr (.inl ⟨⟨owner,rfl⟩,rfl,rfl⟩)
    | none =>
      simp only [Bind.bind,Except.bind]
      exact .inr (.inr ⟨⟨owner,rfl⟩,trivial,rfl⟩)

-- What the dictionaries are when a lease was given back.
def InMemoryLockProvider.without (p : InMemoryLockProvider) (lease : LockLease) : InMemoryLockProvider where
  leases := update p.leases lease.key none
  leasePortfolios := update p.leasePortfolios lease.leaseId none
  leaseKeys := update p.leaseKeys lease.leaseId none

-- What a release does.
theorem release_cases (d : Deployment) (access : AccessContext) (p : InMemoryLockProvider) (lease : LockLease) :
    (p.leasePortfolios lease.leaseId = none ∧ p.call d (.release access lease) = (.ok none,p)) ∨
    ∃ portfolioId, p.leasePortfolios lease.leaseId = some portfolioId ∧
      (¬(Mutable d access portfolioId ∧ p.leaseKeys lease.leaseId = some lease.key) ∧
          (∃ error, p.call d (.release access lease) = (.error error,p)) ∨
        (Mutable d access portfolioId ∧ p.leaseKeys lease.leaseId = some lease.key) ∧
          p.call d (.release access lease) = (.ok none,p.without lease)) := by
  unfold Mutable
  rw [InMemoryLockProvider.call,InMemoryLockProvider.released_atomic,InMemoryLockProvider.release]
  cases known : p.leasePortfolios lease.leaseId with
  | none => exact .inl ⟨rfl,rfl⟩
  | some portfolioId =>
    refine .inr ⟨portfolioId,rfl,?_⟩
    simp only
    cases allowed : requirePortfolioMutation d portfolioId access with
    | error error => exact .inl ⟨fun ⟨⟨_,returned⟩,_⟩ => (nomatch returned),error,rfl⟩
    | ok owner =>
      cases stored : p.leaseKeys lease.leaseId with
      | none => exact .inl ⟨fun ⟨_,keyed⟩ => (nomatch keyed),_,rfl⟩
      | some storedKey =>
        by_cases same : lease.key = storedKey
        · subst same
          refine .inr ⟨⟨⟨owner,rfl⟩,rfl⟩,?_⟩
          simp only [Bind.bind,Except.bind,raiseIf,ne_eq,not_true_eq_false,decide_false,Bool.false_eq_true,if_false]
          rfl
        · refine .inl ⟨fun ⟨_,keyed⟩ => same (Option.some.inj keyed).symm,
            ⟨.valueError,"lease key does not match the acquired lock"⟩,?_⟩
          simp only [Bind.bind,Except.bind,raiseIf,ne_eq,same,not_false_eq_true,decide_true,if_true,raise]
          rfl

end Calls

section Keeping
variable {d : Deployment} {p : InMemoryLockProvider} {log : LockLog}

theorem kept_start : Kept [] .empty := by
  refine ⟨?_,?_,?_,?_,.nil⟩ <;> simp [InMemoryLockProvider.empty,outstanding]

-- A lease is told by its id, and by its key.
theorem outstanding_unique (kept : Kept log p) {a b : LockLease × UUID} (left : a ∈ outstanding log) (right : b ∈ outstanding log)
    (same : a.1.leaseId = b.1.leaseId ∨ a.1.key = b.1.key) : a = b := by
  by_contra apart
  have distinct := kept.distinct.forall left right apart
  exact same.elim distinct.1 distinct.2

theorem acquired_kept (kept : Kept log p) {access : AccessContext} {request : ScanLockRequest} {leaseId : UUID}
    (fresh : leaseId ∉ issued log) (free : p.leases (request.key d) = none) :
    Kept ((.acquire access request leaseId,.ok (some ⟨leaseId,request.key d⟩)) :: log)
      { leases := update p.leases (request.key d) (some ⟨leaseId,request.key d⟩)
        leasePortfolios := update p.leasePortfolios leaseId (some request.plan.portfolioId)
        leaseKeys := update p.leaseKeys leaseId (some (request.key d)) } := by
  have unused : ∀ held ∈ outstanding log, held.1.leaseId ≠ leaseId := fun held member same => fresh (same ▸ kept.issued held member)
  have others : ∀ held ∈ outstanding log, held.1.key ≠ request.key d := by
    intro held member same
    have known := (kept.byKey (request.key d) held.1).mpr ⟨same,held.2,member⟩
    cases free.symm.trans known
  refine ⟨?_,?_,?_,?_,?_⟩
  · intro key lease
    simp only [outstanding,List.mem_cons,Prod.mk.injEq]
    by_cases here : key = request.key d
    · subst here
      simp only [Function.update_self,Option.some.injEq]
      constructor
      · intro same
        subst same
        exact ⟨rfl,_,.inl ⟨rfl,rfl⟩⟩
      · intro parts
        obtain ⟨keyed,portfolioId,member⟩ := parts
        rcases member with ⟨same,_⟩ | member
        · exact same.symm
        · exact absurd keyed (others _ member)
    · rw [Function.update_of_ne here,kept.byKey]
      refine and_congr_right fun keyed => exists_congr fun portfolioId => (or_iff_right ?_).symm
      intro parts
      obtain ⟨same,_⟩ := parts
      subst same
      exact here keyed.symm
  · intro id portfolioId
    simp only [outstanding,List.mem_cons,Prod.mk.injEq,LockLease.mk.injEq]
    by_cases here : id = leaseId
    · subst here
      simp only [Function.update_self,Option.some.injEq]
      constructor
      · intro same
        exact ⟨_,.inl ⟨⟨trivial,rfl⟩,same.symm⟩⟩
      · intro parts
        obtain ⟨key,member⟩ := parts
        rcases member with ⟨_,same⟩ | member
        · exact same.symm
        · exact absurd rfl (unused _ member)
    · rw [Function.update_of_ne here,kept.portfolios]
      exact exists_congr fun key => (or_iff_right fun same => here same.1.1).symm
  · intro id key
    simp only [outstanding,List.mem_cons,Prod.mk.injEq,LockLease.mk.injEq]
    by_cases here : id = leaseId
    · subst here
      simp only [Function.update_self,Option.some.injEq]
      constructor
      · intro same
        exact ⟨_,.inl ⟨⟨trivial,same.symm⟩,rfl⟩⟩
      · intro parts
        obtain ⟨portfolioId,member⟩ := parts
        rcases member with ⟨⟨_,same⟩,_⟩ | member
        · exact same.symm
        · exact absurd rfl (unused _ member)
    · rw [Function.update_of_ne here,kept.keys]
      exact exists_congr fun portfolioId => (or_iff_right fun same => here same.1.1).symm
  · intro held member
    rcases List.mem_cons.mp member with rfl | member
    · exact List.mem_cons_self ..
    · exact List.mem_cons_of_mem _ (kept.issued held member)
  · exact List.pairwise_cons.mpr ⟨fun held member => ⟨(unused held member).symm,(others held member).symm⟩,kept.distinct⟩

-- A lease that is known by its id and its key is the outstanding one.
theorem known_outstanding (kept : Kept log p) {lease : LockLease} {portfolioId : UUID} (known : p.leasePortfolios lease.leaseId = some portfolioId)
    (keyed : p.leaseKeys lease.leaseId = some lease.key) : (lease,portfolioId) ∈ outstanding log := by
  obtain ⟨key,member⟩ := (kept.portfolios _ _).mp known
  obtain ⟨portfolioId',member'⟩ := (kept.keys _ _).mp keyed
  have same := outstanding_unique kept member member' (.inl rfl)
  rw [(Prod.mk.inj same).1] at member
  exact member

theorem released_kept (kept : Kept log p) {access : AccessContext} {lease : LockLease} {portfolioId : UUID}
    (held : (lease,portfolioId) ∈ outstanding log) : Kept ((.release access lease,.ok none) :: log) (p.without lease) := by
  have rest : ∀ {other : LockLease} {owner : UUID}, (other,owner) ∈ outstanding ((.release access lease,.ok none) :: log) ↔
      (other,owner) ∈ outstanding log ∧ other ≠ lease := by
    intro other owner
    simp only [outstanding,List.mem_filter,decide_eq_true_eq]
  have own : ∀ {other : LockLease} {owner : UUID}, (other,owner) ∈ outstanding log → other.leaseId = lease.leaseId ∨ other.key = lease.key →
      other = lease := fun member same => (Prod.mk.inj (outstanding_unique kept member held same)).1
  refine ⟨?_,?_,?_,?_,?_⟩
  · intro key other
    simp only [InMemoryLockProvider.without,rest]
    by_cases here : key = lease.key
    · subst here
      rw [Function.update_self]
      refine iff_of_false (fun none => nomatch none) ?_
      intro ⟨keyed,_,member,left⟩
      exact left (own member (.inr keyed))
    · rw [Function.update_of_ne here,kept.byKey]
      refine and_congr_right fun keyed => exists_congr fun owner => (and_iff_left ?_).symm
      intro same
      exact here (same ▸ keyed.symm)
  · intro leaseId owner
    simp only [InMemoryLockProvider.without,rest]
    by_cases here : leaseId = lease.leaseId
    · subst here
      rw [Function.update_self]
      refine iff_of_false (fun none => nomatch none) ?_
      intro ⟨_,member,left⟩
      exact left (own member (.inl rfl))
    · rw [Function.update_of_ne here,kept.portfolios]
      exact exists_congr fun key => (and_iff_left fun same => here (congrArg LockLease.leaseId same)).symm
  · intro leaseId key
    simp only [InMemoryLockProvider.without,rest]
    by_cases here : leaseId = lease.leaseId
    · subst here
      rw [Function.update_self]
      refine iff_of_false (fun none => nomatch none) ?_
      intro ⟨_,member,left⟩
      exact left (own member (.inl rfl))
    · rw [Function.update_of_ne here,kept.keys]
      exact exists_congr fun owner => (and_iff_left fun same => here (congrArg LockLease.leaseId same)).symm
  · intro other member
    exact kept.issued other (rest.mp member).1
  · exact kept.distinct.filter _

-- A call that changes neither the dictionaries nor what is outstanding.
theorem still_kept (kept : Kept log p) {entry : LockCall × LockOutcome} (same : outstanding (entry :: log) = outstanding log)
    (more : ∀ leaseId ∈ issued log, leaseId ∈ issued (entry :: log)) : Kept (entry :: log) p :=
  ⟨by rw [same]; exact kept.byKey,by rw [same]; exact kept.portfolios,by rw [same]; exact kept.keys,
    by rw [same]; exact fun held member => more _ (kept.issued held member),by rw [same]; exact kept.distinct⟩

-- A lease whose id is not known is not outstanding.
theorem unknown_outstanding (kept : Kept log p) {lease : LockLease} (unknown : p.leasePortfolios lease.leaseId = none) :
    ∀ held ∈ outstanding log, held.1 ≠ lease := by
  intro held member same
  have known := (kept.portfolios held.1.leaseId held.2).mpr ⟨held.1.key,member⟩
  rw [same] at known
  exact nomatch unknown.symm.trans known

theorem call_kept (kept : Kept log p) {call : LockCall} (fresh : Fresh log call) : Kept ((call,(p.call d call).1) :: log) (p.call d call).2 := by
  cases call with
  | acquire access request leaseId =>
    rcases acquire_cases d access p request leaseId with ⟨_,error,called⟩ | ⟨_,_,called⟩ | ⟨_,free,called⟩
    · rw [called]
      exact still_kept kept rfl fun _ member => member
    · rw [called]
      exact still_kept kept rfl fun _ member => member
    · rw [called]
      exact acquired_kept kept fresh free
  | release access lease =>
    rcases release_cases d access p lease with ⟨unknown,called⟩ | ⟨portfolioId,known,⟨_,error,called⟩ | ⟨⟨_,keyed⟩,called⟩⟩
    · rw [called]
      refine still_kept kept ?_ fun _ member => member
      rw [outstanding,List.filter_eq_self]
      exact fun held member => decide_eq_true (unknown_outstanding kept unknown held member)
    · rw [called]
      exact still_kept kept rfl fun _ member => member
    · rw [called]
      exact released_kept kept (known_outstanding kept known keyed)

theorem runs_kept (runs : Runs d log p) : Kept log p := by
  induction runs with
  | start => exact kept_start
  | step _ fresh ih => exact call_kept ih fresh

end Keeping

-- The locks among the dictionaries of all adapters.
def ofStores (w : Stores) : InMemoryLockProvider := ⟨w.leases,w.leasePortfolios,w.leaseKeys⟩

section Stores
variable (d : Deployment) (access : AccessContext) (w : Stores)

theorem stores_acquire (request : ScanLockRequest) :
    ((w.acquireScanLock d access request).map fun result => (result.1,ofStores result.2)) =
      (ofStores w).acquireScanLock d access request w.nextUuid := by
  unfold Stores.acquireScanLock InMemoryLockProvider.acquireScanLock
  cases requirePortfolioMutation d request.plan.portfolioId access with
  | error error => rfl
  | ok owner =>
    simp only [Bind.bind,Except.bind]
    by_cases held : (w.leases (request.key d)).isSome = true
    · rw [if_pos held,if_pos (show ((ofStores w).leases (request.key d)).isSome = true from held)]
      rfl
    · rw [if_neg held,if_neg (show ¬((ofStores w).leases (request.key d)).isSome = true from held)]
      rfl

theorem stores_release {log : LockLog} (kept : Kept log (ofStores w)) (lease : LockLease) :
    (w.release d access lease).map ofStores = (ofStores w).release d access lease := by
  have keyed : ∀ portfolioId, w.leasePortfolios lease.leaseId = some portfolioId → ∃ key, w.leaseKeys lease.leaseId = some key := by
    intro portfolioId known
    obtain ⟨key,member⟩ := (kept.portfolios lease.leaseId portfolioId).mp known
    exact ⟨key,(kept.keys lease.leaseId key).mpr ⟨portfolioId,member⟩⟩
  unfold Stores.release InMemoryLockProvider.release
  cases known : w.leasePortfolios lease.leaseId with
  | none =>
    simp only [show (ofStores w).leasePortfolios lease.leaseId = none from known]
    rfl
  | some portfolioId =>
    obtain ⟨key,stored⟩ := keyed portfolioId known
    simp only [show (ofStores w).leasePortfolios lease.leaseId = some portfolioId from known,stored]
    cases requirePortfolioMutation d portfolioId access with
    | error error => rfl
    | ok owner =>
      simp only [Bind.bind,Except.bind,show (ofStores w).leaseKeys lease.leaseId = some key from stored]
      by_cases same : lease.key = key
      · simp only [raiseIf,same,ne_eq,not_true_eq_false,decide_false,Bool.false_eq_true,if_false]
        rfl
      · simp only [raiseIf,same,ne_eq,not_false_eq_true,decide_true,if_true]
        rfl

end Stores
end SwapMonitor.Locks
