import SwapMonitor.Exceptions.Agreement
import SwapMonitor.Persistence.Tenants

namespace SwapMonitor
open Function (update update_self update_of_ne)
open Exceptions Stores

namespace Repositories

-- Equal, or both records of the user's portfolios.
def Same (d : Deployment) (userId : UUID) (portfolioOf : α → UUID) (x y : Option α) : Prop :=
  x = y ∨ ∃ u v, x = some u ∧ y = some v ∧ Owned d userId (portfolioOf u) ∧ Owned d userId (portfolioOf v)

def SamePosition (d : Deployment) (userId : UUID) (p q : Position) : Prop :=
  p = q ∨ p.positionId = q.positionId ∧ Owned d userId p.portfolioId ∧ Owned d userId q.portfolioId

def elsewhere (taken : List Identifier) (positions : List Position) : List Position :=
  positions.filter fun p => decide (Identifier.position p.positionId ∉ taken)

-- The first repositories differ from the second only in records of the user's portfolios, and hold such
-- records under the taken identifiers.
structure Alike (d : Deployment) (userId : UUID) (taken : List Identifier) (r r' : Repositories) : Prop where
  positions : List.Forall₂ (SamePosition d userId) (elsewhere taken r.positions) (elsewhere taken r'.positions)
  theirs : ∀ p ∈ r.positions ++ r'.positions, .position p.positionId ∈ taken → Owned d userId p.portfolioId
  plans : ∀ id, .plan id ∈ taken ∨ Same d userId RotationPlan.portfolioId (r.plans id) (r'.plans id)
  groups : r.candidateGroupOwners = r'.candidateGroupOwners
  portfolios : r.positionPortfolios = r'.positionPortfolios
  records : ∀ id, .state id ∈ taken ∨
    Same d userId (fun record => record.portfolioId) (r.stores.records id) (r'.stores.records id)
  scans : ∀ id, .scan id ∈ taken ∨
    (r.stores.scansById id = r'.stores.scansById id ∧ r.stores.attemptsByScan id = r'.stores.attemptsByScan id ∧
      r.stores.runsByLogicalScan id = r'.stores.runsByLogicalScan id) ∨
    ∃ u v, r.stores.scansById id = some u ∧ r'.stores.scansById id = some v ∧
      Owned d userId u.portfolioId ∧ Owned d userId v.portfolioId
  locks : ∀ key, .lock key ∈ taken ∨
    Same d userId LogicalScanRun.portfolioId (r.stores.scansByKey key) (r'.stores.scansByKey key)
  runKeys : ∀ id key, .runKey id key ∈ taken ∨ r.stores.runsByKey (id,key) = r'.stores.runsByKey (id,key) ∧
    r.stores.logicalScanByKey (id,key) = r'.stores.logicalScanByKey (id,key)
  runs : ∀ id, .run id ∈ taken ∨ Same d userId StrategyRun.portfolioId (r.stores.runsById id) (r'.stores.runsById id)
  intents : ∀ key, r.stores.intentsByKey key = r'.stores.intentsByKey key ∨
    .intent key ∈ taken ∧ r'.stores.intentsByKey key = none
  lists : ∀ id, .intentsOf id ∈ taken ∨ r.stores.intentKeysByStrategyRun id = r'.stores.intentKeysByStrategyRun id

-- Every listed intent is stored.
def Keyed (w : Stores) : Prop := ∀ id, ∀ key ∈ w.intentKeysByStrategyRun id, (w.intentsByKey key).isSome = true

-- What the comparison needs of each of the two.
structure Sound (w : Stores) : Prop where
  logged : Logged w
  keyed : Keyed w

section Steps
variable {d : Deployment} {userId actor : UUID} {taken : List Identifier} {r r' : Repositories}

theorem same_update {portfolioOf : α → UUID} {f g : UUID → Option α} {named : UUID → Prop} (key : UUID) (value : α)
    (same : ∀ id, named id ∨ Same d userId portfolioOf (f id) (g id)) (id : UUID) :
    named id ∨ Same d userId portfolioOf (update f key (some value) id) (update g key (some value) id) := by
  by_cases here : id = key
  · subst here
    exact .inr (.inl (by rw [update_self,update_self]))
  · rw [update_of_ne here,update_of_ne here]
    exact same id

-- What the methods that get a record do.
def readOf (d : Deployment) (access : AccessContext) (portfolioOf : α → UUID) (absent : String) :
    Option α → Except PyError α
  | none => raise .notFoundForActor absent
  | some found => do
    let _ ← requirePortfolioRead d (portfolioOf found) access
    pure found

section Reads
variable {access : AccessContext} {w : Stores}

theorem getScan_reads (id : UUID) : w.getScan d access id =
    readOf d access LogicalScanRun.portfolioId "logical scan was not found for actor" (w.scansById id) := by
  unfold getScan readOf
  cases w.scansById id <;> rfl

theorem getState_reads (id : UUID) : w.getState d access id =
    readOf d access (fun record => record.portfolioId) "recommendation state was not found for actor" (w.records id) := by
  unfold getState readOf
  cases w.records id <;> rfl

theorem getIntent_reads (key : Digest) : w.getIntent d access key =
    readOf d access ChildIntent.portfolioId "child intent was not found for actor" (w.intentsByKey key) := by
  unfold getIntent readOf
  cases w.intentsByKey key <;> rfl

theorem getPlan_reads (id : UUID) : r.getPlan d access id =
    readOf d access RotationPlan.portfolioId "rotation plan was not found for actor" (r.plans id) := by
  unfold getPlan readOf
  cases r.plans id <;> rfl

theorem getPosition_reads (positions : UUID → Option Position) (id : UUID) : getPosition d access positions id =
    readOf d access Position.portfolioId "position was not found for actor" (positions id) := by
  unfold getPosition readOf
  cases positions id <;> rfl

end Reads

-- Where a stranger looks under an identifier not taken, it meets the same record or is denied alike.
theorem same_read {portfolioOf : α → UUID} {x y : Option α} {absent : String} (apart : actor ≠ userId)
    (same : Same d userId portfolioOf x y) :
    readOf d (tenant actor) portfolioOf absent x = readOf d (tenant actor) portfolioOf absent y := by
  rcases same with rfl | ⟨u,v,rfl,rfl,mine,yours⟩
  · rfl
  · simp only [readOf,tenant_denied mine apart,tenant_denied yours apart]
    rfl

theorem get_scan_same (alike : Alike d userId taken r r') (apart : actor ≠ userId) {id : UUID}
    (unnamed : .scan id ∉ taken) : r.stores.getScan d (tenant actor) id = r'.stores.getScan d (tenant actor) id := by
  have same : Same d userId LogicalScanRun.portfolioId (r.stores.scansById id) (r'.stores.scansById id) := by
    rcases alike.scans id with named | ⟨same,_⟩ | both
    · exact absurd named unnamed
    · exact .inl same
    · exact .inr both
  rw [getScan_reads,getScan_reads]
  exact same_read apart same

-- Of a scan a stranger may read, everything is the same.
theorem read_scan_same (alike : Alike d userId taken r r') (apart : actor ≠ userId) {id : UUID} {scan : LogicalScanRun}
    (unnamed : .scan id ∉ taken) (read : r.stores.getScan d (tenant actor) id = .ok scan) :
    r.stores.scansById id = r'.stores.scansById id ∧ r.stores.attemptsByScan id = r'.stores.attemptsByScan id ∧
      r.stores.runsByLogicalScan id = r'.stores.runsByLogicalScan id := by
  rcases alike.scans id with named | same | ⟨u,_,found,_,owned,_⟩
  · exact absurd named unnamed
  · exact same
  · obtain ⟨known,owner,readable⟩ := scan_found read
    rw [found] at known
    cases known
    rw [tenant_denied owned apart] at readable
    cases readable

theorem owned_differ {portfolio mine : UUID} (owned : Owned d userId portfolio) (allowed : Owned d actor mine)
    (apart : actor ≠ userId) : portfolio ≠ mine := by
  intro same
  subst same
  exact owned_apart owned apart allowed

theorem checked_owned {portfolioId owner : UUID} (allowed : requirePortfolioMutation d portfolioId (tenant actor) = .ok owner) :
    Owned d actor portfolioId := mutable_owned ⟨owner,allowed⟩

section Positions

theorem elsewhere_put (taken : List Identifier) (positions : List Position) {position : Position}
    (unnamed : Identifier.position position.positionId ∉ taken) :
    elsewhere taken (putPosition positions position) = putPosition (elsewhere taken positions) position := by
  have found : (elsewhere taken positions).any (·.positionId == position.positionId) =
      positions.any (·.positionId == position.positionId) := by
    rw [elsewhere,List.any_filter]
    refine List.any_congr rfl fun stored => ?_
    by_cases same : stored.positionId = position.positionId <;> simp [same,unnamed]
  unfold putPosition
  rw [found]
  split
  · rw [elsewhere,List.filter_map]
    refine congrArg (List.map _) (List.filter_congr fun stored _ => ?_)
    by_cases same : stored.positionId = position.positionId <;> simp [same]
  · simp [elsewhere,unnamed]

theorem find_elsewhere (taken : List Identifier) (positions : List Position) {id : UUID}
    (unnamed : Identifier.position id ∉ taken) : findPosition (elsewhere taken positions) id = findPosition positions id := by
  rw [findPosition,findPosition,elsewhere,List.find?_filter]
  congr 1
  funext stored
  by_cases same : stored.positionId = id <;> simp [same,unnamed]

variable {positions positions' : List Position}

theorem same_found (same : List.Forall₂ (SamePosition d userId) positions positions') (id : UUID) :
    Same d userId Position.portfolioId (findPosition positions id) (findPosition positions' id) := by
  induction same with
  | nil => exact .inl rfl
  | @cons p q rest rest' first _ ih =>
    rcases first with rfl | ⟨named,mine,yours⟩
    · by_cases here : p.positionId = id
      · exact .inl (by simp [findPosition,here])
      · simpa [findPosition,here] using ih
    · by_cases here : q.positionId = id
      · exact .inr ⟨p,q,by simp [findPosition,named,here],by simp [findPosition,here],mine,yours⟩
      · simpa [findPosition,named,here] using ih

theorem same_put (same : List.Forall₂ (SamePosition d userId) positions positions') (position : Position) :
    List.Forall₂ (SamePosition d userId) (putPosition positions position) (putPosition positions' position) := by
  have named : positions.any (·.positionId == position.positionId) = positions'.any (·.positionId == position.positionId) := by
    induction same with
    | nil => rfl
    | cons first _ ih =>
      rw [List.any_cons,List.any_cons,ih]
      rcases first with rfl | ⟨named,_⟩
      · rfl
      · rw [named]
  unfold putPosition
  rw [named]
  split
  · rw [List.forall₂_map_left_iff,List.forall₂_map_right_iff]
    refine same.imp fun p q first => ?_
    rcases first with rfl | ⟨named,mine,yours⟩
    · exact .inl rfl
    · by_cases here : q.positionId = position.positionId
      · exact .inl (by simp [named,here])
      · exact .inr (by simpa [named,here] using ⟨mine,yours⟩)
  · exact List.rel_append same (.cons (.inl rfl) .nil)

theorem same_portfolio_positions (same : List.Forall₂ (SamePosition d userId) positions positions') {portfolioId : UUID}
    (allowed : Owned d actor portfolioId) (apart : actor ≠ userId) :
    positions.filter (·.portfolioId == portfolioId) = positions'.filter (·.portfolioId == portfolioId) := by
  induction same with
  | nil => rfl
  | @cons p q _ _ first _ ih =>
    rcases first with rfl | ⟨_,mine,yours⟩
    · rw [List.filter_cons,List.filter_cons,ih]
    · have left := owned_differ mine allowed apart
      have right := owned_differ yours allowed apart
      simpa [left,right] using ih

end Positions

theorem portfolio_positions (alike : Alike d userId taken r r') (apart : actor ≠ userId) {portfolioId : UUID}
    (allowed : Owned d actor portfolioId) :
    r.positions.filter (·.portfolioId == portfolioId) = r'.positions.filter (·.portfolioId == portfolioId) := by
  have kept : ∀ positions, (∀ p ∈ positions, .position p.positionId ∈ taken → Owned d userId p.portfolioId) →
      (elsewhere taken positions).filter (·.portfolioId == portfolioId) = positions.filter (·.portfolioId == portfolioId) := by
    intro positions theirs
    rw [elsewhere,List.filter_filter]
    refine List.filter_congr fun p member => ?_
    by_cases named : Identifier.position p.positionId ∈ taken
    · have different := owned_differ (theirs p member named) allowed apart
      simp [different]
    · simp [named]
  rw [← kept r.positions fun p member => alike.theirs p (List.mem_append_left _ member),
    ← kept r'.positions fun p member => alike.theirs p (List.mem_append_right _ member)]
  exact same_portfolio_positions alike.positions allowed apart

end Steps

end Repositories

end SwapMonitor
