import SwapMonitor.Application.LedgerLaws

namespace SwapMonitor
open Interleaving

-- The components of the books after one more entry.
section Cons
variable (key : Digest) (e : Entry Digest Fact) (j : Log)

theorem ledger_cons : ledger key (e :: j) =
    if e.key = key then (ledger key j).enter e.actor e.fact else ledger key j := by
  by_cases here : e.key = key
  · subst here; rw [if_pos rfl]; exact ledger_same _ _ _ _
  · rw [if_neg here,ledger_other j here]

theorem cons_scan : (ledger key (e :: j)).scan = match e.fact with
    | .scanCreated scan | .completed scan => if e.key = key then some scan else (ledger key j).scan
    | _ => (ledger key j).scan := by
  obtain ⟨actor,owner,fact⟩ := e
  rw [ledger_cons]
  cases fact <;> by_cases here : owner = key <;> simp only [here,if_true,if_false,enter_scan]

theorem cons_attempts : (ledger key (e :: j)).attempts = match e.fact with
    | .attemptRecorded a => if e.key = key then (ledger key j).attempts ++ [a] else (ledger key j).attempts
    | _ => (ledger key j).attempts := by
  obtain ⟨actor,owner,fact⟩ := e
  rw [ledger_cons]
  cases fact <;> by_cases here : owner = key <;> simp only [here,if_true,if_false,enter_attempts]

theorem cons_stored : (ledger key (e :: j)).stored = match e.fact with
    | .runStored s => if e.key = key then some s else (ledger key j).stored
    | _ => (ledger key j).stored := by
  obtain ⟨actor,owner,fact⟩ := e
  rw [ledger_cons]
  cases fact <;> by_cases here : owner = key <;> simp only [here,if_true,if_false,enter_stored]

theorem cons_intents : (ledger key (e :: j)).intents = match e.fact with
    | .intentStored i => if e.key = key then (ledger key j).intents ++ [i] else (ledger key j).intents
    | _ => (ledger key j).intents := by
  obtain ⟨actor,owner,fact⟩ := e
  rw [ledger_cons]
  cases fact <;> by_cases here : owner = key <;> simp only [here,if_true,if_false,enter_intents]

theorem cons_holder : (ledger key (e :: j)).holder = match e.fact with
    | .acquired lease => if e.key = key then e.actor.map (·,lease) else (ledger key j).holder
    | .released => if e.key = key then none else (ledger key j).holder
    | _ => (ledger key j).holder := by
  obtain ⟨actor,owner,fact⟩ := e
  rw [ledger_cons]
  cases fact <;> by_cases here : owner = key <;> simp only [here,if_true,if_false,enter_holder]

theorem cons_phase : (ledger key (e :: j)).phase = if e.key = key then match e.fact with
      | .acquired _ | .released => .idle
      | .evaluatedFrom record => .evaluated record
      | .adjudicated current => .adjudicated current
      | .transitioned _ updated =>
        if updated.finalizationStrategyRunId.isSome then .written else (ledger key j).phase
      | _ => (ledger key j).phase
    else (ledger key j).phase := by
  obtain ⟨actor,owner,fact⟩ := e
  rw [ledger_cons]
  cases fact <;> by_cases here : owner = key <;> simp only [here,if_true,if_false,enter_phase]

end Cons

-- What the stores hold of the journal, repository by repository; an id that was not handed
-- out yet is nowhere.
structure ScansKept (w : Stores) (j : Log) : Prop where
  byKey : ∀ key, w.scansByKey key = (ledger key j).scan
  byId : ∀ key scan, (ledger key j).scan = some scan → w.scansById scan.logicalScanRunId = some scan
  attempts : ∀ key scan, (ledger key j).scan = some scan →
    w.attemptsByScan scan.logicalScanRunId = (ledger key j).attempts
  fresh : ∀ id scan, w.scansById id = some scan → id < w.nextUuid

structure RunsKept (w : Stores) (j : Log) : Prop where
  byScan : ∀ key scan, (ledger key j).scan = some scan →
    w.runsByLogicalScan scan.logicalScanRunId = (ledger key j).stored.map StoredRun.run
  byId : ∀ key s, (ledger key j).stored = some s → w.runsById s.run.strategyRunId = some s.run
  owners : ∀ id run, w.runsById id = some run → ∃ key s, (ledger key j).stored = some s ∧ s.run = run
  fresh : ∀ key run, w.runsByKey key = some run → run.strategyRunId < w.nextUuid
  freshScan : ∀ id run, w.runsByLogicalScan id = some run → id < w.nextUuid
  freshStored : ∀ key s, (ledger key j).stored = some s → s.run.strategyRunId < w.nextUuid

structure IntentsKept (w : Stores) (j : Log) : Prop where
  ofRun : ∀ key s, (ledger key j).stored = some s →
    (w.intentKeysByStrategyRun s.run.strategyRunId).filterMap w.intentsByKey = (ledger key j).intents
  keys : ∀ id key, key ∈ w.intentKeysByStrategyRun id → (w.intentsByKey key).isSome
  owners : ∀ key intent, w.intentsByKey key = some intent →
    intent.intentKey = key ∧ ∃ scanKey, intent ∈ (ledger scanKey j).intents
  fresh : ∀ id, w.intentKeysByStrategyRun id ≠ [] → id < w.nextUuid

structure LeasesKept (w : Stores) (j : Log) : Prop where
  byKey : ∀ key, w.leases key = (ledger key j).holder.map Prod.snd
  byId : ∀ key thread lease, (ledger key j).holder = some (thread,lease) →
    lease.key = key ∧ w.leaseKeys lease.leaseId = some key ∧ (w.leasePortfolios lease.leaseId).isSome
  fresh : ∀ id key, w.leaseKeys id = some key → id < w.nextUuid

structure Represents (seed : UUID → Option RecommendationStateRecord) (w : Stores) (j : Log) : Prop where
  records : ∀ planId, w.records planId = recordOf seed planId j
  scans : ScansKept w j
  runs : RunsKept w j
  intents : IntentsKept w j
  leases : LeasesKept w j

-- A repository nobody touched goes on holding its part.
section Frames
variable {w w' : Stores} {j j' : Log}

theorem ScansKept.frame (kept : ScansKept w j) (later : w.nextUuid ≤ w'.nextUuid)
    (scan : ∀ key, (ledger key j').scan = (ledger key j).scan)
    (attempts : ∀ key, (ledger key j').attempts = (ledger key j).attempts)
    (byKey : w'.scansByKey = w.scansByKey) (byId : w'.scansById = w.scansById)
    (recorded : w'.attemptsByScan = w.attemptsByScan) : ScansKept w' j' where
  byKey := by simpa only [scan,byKey] using kept.byKey
  byId := by simpa only [scan,byId] using kept.byId
  attempts := by simpa only [scan,attempts,recorded] using kept.attempts
  fresh := fun id scan found => Nat.lt_of_lt_of_le (kept.fresh id scan (byId ▸ found)) later

theorem RunsKept.frame (kept : RunsKept w j) (later : w.nextUuid ≤ w'.nextUuid)
    (scan : ∀ key, (ledger key j').scan = (ledger key j).scan)
    (stored : ∀ key, (ledger key j').stored = (ledger key j).stored)
    (byScan : w'.runsByLogicalScan = w.runsByLogicalScan) (byId : w'.runsById = w.runsById)
    (byKey : w'.runsByKey = w.runsByKey) : RunsKept w' j' where
  byScan := by simpa only [scan,stored,byScan] using kept.byScan
  byId := by simpa only [stored,byId] using kept.byId
  owners := by simpa only [stored,byId] using kept.owners
  fresh := fun key run found => Nat.lt_of_lt_of_le (kept.fresh key run (byKey ▸ found)) later
  freshScan := fun id run found => Nat.lt_of_lt_of_le (kept.freshScan id run (byScan ▸ found)) later
  freshStored := fun key s found => Nat.lt_of_lt_of_le (kept.freshStored key s (stored key ▸ found)) later

theorem IntentsKept.frame (kept : IntentsKept w j) (later : w.nextUuid ≤ w'.nextUuid)
    (stored : ∀ key, (ledger key j').stored = (ledger key j).stored)
    (intents : ∀ key, (ledger key j').intents = (ledger key j).intents)
    (byKey : w'.intentsByKey = w.intentsByKey)
    (byRun : w'.intentKeysByStrategyRun = w.intentKeysByStrategyRun) : IntentsKept w' j' where
  ofRun := by simpa only [stored,intents,byKey,byRun] using kept.ofRun
  keys := by simpa only [byKey,byRun] using kept.keys
  owners := by simpa only [intents,byKey] using kept.owners
  fresh := fun id present => Nat.lt_of_lt_of_le (kept.fresh id (byRun ▸ present)) later

theorem LeasesKept.frame (kept : LeasesKept w j) (later : w.nextUuid ≤ w'.nextUuid)
    (holder : ∀ key, (ledger key j').holder = (ledger key j).holder)
    (byKey : w'.leases = w.leases) (byId : w'.leaseKeys = w.leaseKeys)
    (portfolios : w'.leasePortfolios = w.leasePortfolios) : LeasesKept w' j' where
  byKey := by simpa only [holder,byKey] using kept.byKey
  byId := by simpa only [holder,byId,portfolios] using kept.byId
  fresh := fun id key found => Nat.lt_of_lt_of_le (kept.fresh id key (byId ▸ found)) later

end Frames

-- A fact that leaves every store as it is.
def Fact.quiet : Fact → Bool
  | .providerCalled | .evaluatedFrom _ | .positionRead _ _ | .adjudicated _ | .failed _ => true
  | _ => false

section Steps
variable {seed : UUID → Option RecommendationStateRecord} {w : Stores} {j : Log} (rep : Represents seed w j)
include rep

theorem Represents.next : Represents seed {w with nextUuid := w.nextUuid + 1} j where
  records := rep.records
  scans := rep.scans.frame (Nat.le_succ _) (fun _ => rfl) (fun _ => rfl) rfl rfl rfl
  runs := rep.runs.frame (Nat.le_succ _) (fun _ => rfl) (fun _ => rfl) rfl rfl rfl
  intents := rep.intents.frame (Nat.le_succ _) (fun _ => rfl) (fun _ => rfl) rfl rfl
  leases := rep.leases.frame (Nat.le_succ _) (fun _ => rfl) rfl rfl rfl

theorem Represents.quietly {e : Entry Digest Fact} (quiet : e.fact.quiet = true) : Represents seed w (e :: j) := by
  have scan : ∀ key, (ledger key (e :: j)).scan = (ledger key j).scan := by
    intro key; rw [cons_scan]; cases known : e.fact <;> simp_all [Fact.quiet]
  have attempts : ∀ key, (ledger key (e :: j)).attempts = (ledger key j).attempts := by
    intro key; rw [cons_attempts]; cases known : e.fact <;> simp_all [Fact.quiet]
  have stored : ∀ key, (ledger key (e :: j)).stored = (ledger key j).stored := by
    intro key; rw [cons_stored]; cases known : e.fact <;> simp_all [Fact.quiet]
  have intents : ∀ key, (ledger key (e :: j)).intents = (ledger key j).intents := by
    intro key; rw [cons_intents]; cases known : e.fact <;> simp_all [Fact.quiet]
  have holder : ∀ key, (ledger key (e :: j)).holder = (ledger key j).holder := by
    intro key; rw [cons_holder]; cases known : e.fact <;> simp_all [Fact.quiet]
  have records : ∀ planId, recordOf seed planId (e :: j) = recordOf seed planId j := by
    intro planId
    rw [record_cons]
    cases known : e.fact <;> simp_all [Fact.quiet,Fact.record]
  exact ⟨by simpa only [records] using rep.records,
    rep.scans.frame (Nat.le_refl _) scan attempts rfl rfl rfl,
    rep.runs.frame (Nat.le_refl _) scan stored rfl rfl rfl,
    rep.intents.frame (Nat.le_refl _) stored intents rfl rfl,
    rep.leases.frame (Nat.le_refl _) holder rfl rfl rfl⟩

end Steps

end SwapMonitor
