import SwapMonitor.Guarantees.StoredRuns
import SwapMonitor.Persistence.Strangers

namespace SwapMonitor
open Function (update update_self update_of_ne)
open Exceptions Stores

namespace Repositories
variable {d : Deployment} {access : AccessContext} {userId actor : UUID} {r r' : Repositories} {operation : Operation}
  {permitted : Repositories → AccessContext → Operation → Prop}

-- A dictionary holds one position under an id.
def Distinct (positions : List Position) : Prop := (positions.map (·.positionId)).Nodup

theorem put_distinct {positions : List Position} (distinct : Distinct positions) (position : Position) :
    Distinct (putPosition positions position) := by
  unfold Distinct putPosition
  split
  · have named : (positions.map fun stored => if stored.positionId = position.positionId then position else stored).map
        (·.positionId) = positions.map (·.positionId) := by
      rw [List.map_map]
      refine List.map_congr_left fun stored _ => ?_
      by_cases same : stored.positionId = position.positionId <;> simp [same]
    rw [named]
    exact distinct
  · rename_i absent
    rw [List.map_append,List.map_singleton]
    refine List.Nodup.append distinct (List.nodup_singleton _) ?_
    intro id member named
    obtain ⟨stored,present,same⟩ := List.mem_map.mp member
    simp only [List.mem_singleton] at named
    simp only [List.any_eq_true,beq_iff_eq,not_exists,not_and] at absent
    exact absent stored present (same.trans named)

theorem change_keyed (keyed : Keyed r.stores) (change : Change d access r operation r') : Keyed r'.stores := by
  cases change with
  | intentStored intent =>
    intro id key member
    by_cases here : key = intent.intentKey
    · simp [here]
    · simp only [update_of_ne here]
      by_cases listed : id = intent.strategyRunId
      · simp only [listed,update_self,List.mem_append,List.mem_singleton,here,or_false] at member
        exact keyed _ key member
      · simp only [update_of_ne listed] at member
        exact keyed id key member
  | _ => exact keyed

theorem change_distinct (distinct : Distinct r.positions) (change : Change d access r operation r') : Distinct r'.positions := by
  cases change with
  | position position => exact put_distinct distinct position
  | _ => exact distinct

theorem leads_sound (sound : Sound r.stores) (distinct : Distinct r.positions) (path : Leads d permitted r r') :
    Sound r'.stores ∧ Distinct r'.positions := by
  refine ⟨⟨leads_logged sound.logged path,?_⟩,?_⟩
  · induction path with
    | here => exact sound.keyed
    | @call between access operation fresh _ _ _ ih =>
      exact @change_keyed d access (between.drawing fresh) _ operation ih (after_changes operation)
  · induction path with
    | here => exact distinct
    | @call between access operation fresh _ _ _ ih =>
      exact @change_distinct d access (between.drawing fresh) _ operation ih (after_changes operation)

-- A call that stores its record over one of a portfolio the user does not own.
def Displaces (d : Deployment) (r : Repositories) (userId : UUID) : Operation → Prop
  | .addPosition position => Owned d userId position.portfolioId ∧ r.secondOpen position = false ∧
      ∃ old, findPosition r.positions position.positionId = some old ∧ ¬Owned d userId old.portfolioId
  | .addPlan plan => Owned d userId plan.portfolioId ∧ r.foreignGroup userId plan = false ∧ r.foreignPosition plan = false ∧
      ∃ old, r.plans plan.rotationPlanId = some old ∧ ¬Owned d userId old.portfolioId
  | .recordOrGetRun plan run key scanId => Recorded d (tenant userId) r.stores plan run key scanId ∧
      ∃ old, r.stores.runsById run.strategyRunId = some old ∧ ¬Owned d userId old.portfolioId
  | _ => False

theorem mem_taken {identifier : Identifier} : identifier ∈ r.taken d r' operation ↔
    identifier ∈ r.storesUnder d operation ∧ r.recordsUnder identifier < r'.recordsUnder identifier := by
  simp [taken]

-- Under the key of a dictionary there is one record at most.
theorem held_once {identifier : Identifier} (keyed : ∀ runId, identifier ≠ .intentsOf runId) : r.recordsUnder identifier ≤ 1 := by
  cases identifier with
  | intentsOf runId => exact absurd rfl (keyed runId)
  | _ => exact Bool.toNat_le _

theorem held_untaken {identifier : Identifier} (keyed : ∀ runId, identifier ≠ .intentsOf runId) (held : r.recordsUnder identifier = 1) :
    identifier ∉ r.taken d r' operation := by
  intro named
  have more := (mem_taken.mp named).2
  have most := @held_once r' identifier keyed
  omega

theorem found_member {positions : List Position} {position : Position} (member : position ∈ positions) :
    (findPosition positions position.positionId).isSome = true := by
  rw [findPosition,List.find?_isSome]
  exact ⟨position,member,beq_self_eq_true _⟩

theorem alike_refl (r r' : Repositories) (operation : Operation) : Alike d userId (r.taken d r' operation) r r := by
  refine ⟨?_,?_,fun _ => .inr (.inl rfl),rfl,rfl,fun _ => .inr (.inl rfl),fun _ => .inr (.inl ⟨rfl,rfl,rfl⟩),
    fun _ => .inr (.inl rfl),fun _ _ => .inr ⟨rfl,rfl⟩,fun _ => .inr (.inl rfl),fun _ => .inl rfl,fun _ => .inr rfl⟩
  · exact List.forall₂_same.mpr fun _ _ => .inl rfl
  · intro p member named
    have present : p ∈ r.positions := by simpa using member
    have once : r.recordsUnder (.position p.positionId) = 1 := by rw [recordsUnder,found_member present]; rfl
    exact absurd named (held_untaken (by simp) once)

-- A write under an identifier that was free, or held a record of the user's own.
theorem own_update {portfolioOf : α → UUID} {f : UUID → Option α} {named : UUID → Prop} {key : UUID} {value : α}
    (free : f key = none → named key) (old : ∀ stored, f key = some stored → Owned d userId (portfolioOf stored))
    (own : Owned d userId (portfolioOf value)) (id : UUID) :
    named id ∨ Same d userId portfolioOf (update f key (some value) id) (f id) := by
  by_cases here : id = key
  · subst here
    cases stored : f id with
    | none => exact .inl (free stored)
    | some found => exact .inr (.inr ⟨value,found,update_self ..,rfl,own,old found stored⟩)
  · exact .inr (.inl (update_of_ne here ..))

theorem put_new {positions : List Position} {position : Position} (new : findPosition positions position.positionId = none) :
    putPosition positions position = positions ++ [position] := by
  have absent : positions.any (·.positionId == position.positionId) = false := by
    simpa [findPosition] using new
  simp [putPosition,absent]

theorem put_own {positions : List Position} {position old : Position} (distinct : Distinct positions)
    (found : findPosition positions position.positionId = some old) (own : Owned d userId old.portfolioId)
    (owned : Owned d userId position.portfolioId) : List.Forall₂ (SamePosition d userId) (putPosition positions position) positions := by
  have named : old.positionId = position.positionId := by simpa [findPosition] using List.find?_some found
  have present : positions.any (·.positionId == position.positionId) = true :=
    List.any_eq_true.mpr ⟨old,List.mem_of_find?_eq_some found,beq_iff_eq.mpr named⟩
  rw [putPosition,present,if_pos rfl,List.forall₂_map_left_iff]
  refine List.forall₂_same.mpr fun stored member => ?_
  by_cases here : stored.positionId = position.positionId
  · have same : stored = old :=
      List.inj_on_of_nodup_map distinct member (List.mem_of_find?_eq_some found) (here.trans named.symm)
    rw [if_pos here]
    exact .inr ⟨here.symm,owned,same ▸ own⟩
  · rw [if_neg here]
    exact .inl rfl

theorem position_alike {position : Position} (distinct : Distinct r.positions) (own : Owned d userId position.portfolioId)
    (old : ∀ stored, findPosition r.positions position.positionId = some stored → Owned d userId stored.portfolioId)
    (same : r'.positions = putPosition r.positions position) :
    Alike d userId (r.taken d r' (.addPosition position)) {r with positions := putPosition r.positions position} r := by
  have start : Alike d userId (r.taken d r' (.addPosition position)) r r := alike_refl r r' _
  cases found : findPosition r.positions position.positionId with
  | none =>
    have last : findPosition (r.positions ++ [position]) position.positionId = some position := by
      rw [findPosition] at found ⊢
      simp [List.find?_append,found]
    have named : Identifier.position position.positionId ∈ r.taken d r' (.addPosition position) := by
      simp [taken,storesUnder,recordsUnder,same,found,put_new found,last]
    refine {start with positions := ?_,theirs := ?_}
    · have ends : elsewhere (r.taken d r' (.addPosition position)) (r.positions ++ [position]) =
          elsewhere (r.taken d r' (.addPosition position)) r.positions := by
        simp [elsewhere,List.filter_append,named]
      simp only [put_new found,ends]
      exact start.positions
    · intro p member taken
      simp only [put_new found,List.mem_append,List.mem_singleton] at member
      rcases member with (kept | rfl) | kept
      · exact start.theirs p (List.mem_append_left _ kept) taken
      · exact own
      · exact start.theirs p (List.mem_append_left _ kept) taken
  | some stored =>
    have unnamed : Identifier.position position.positionId ∉ r.taken d r' (.addPosition position) :=
      held_untaken (by simp) (by simp [recordsUnder,found])
    have none' : r.taken d r' (.addPosition position) = [] := by
      refine List.eq_nil_iff_forall_not_mem.mpr fun identifier named => ?_
      have listed := (mem_taken.mp named).1
      rw [storesUnder,List.mem_singleton] at listed
      exact unnamed (listed ▸ named)
    rw [none'] at start ⊢
    refine {start with positions := ?_,theirs := fun p _ named => absurd named (List.not_mem_nil)}
    simpa [elsewhere] using put_own distinct found (old stored found) own

-- What a call changes lies in the user's own portfolios, or under an identifier it is the first to use.
theorem change_alike (sound : Sound r.stores) (distinct : Distinct r.positions)
    (fresh : r.stores.scansById r.stores.nextUuid = none) (clean : ¬Displaces d r userId operation)
    (change : Change d (tenant userId) r operation r') {last : Repositories} (same : last = r') :
    Alike d userId (r.taken d last operation) r' r := by
  have start : Alike d userId (r.taken d last operation) r r := alike_refl r last operation
  cases change with
  | nothing => exact start
  | position position mutable single =>
    have own := mutable_owned mutable
    refine position_alike distinct own (fun stored found => ?_) (by rw [same])
    by_contra foreign
    exact clean ⟨own,single,stored,found,foreign⟩
  | plan plan owner allowed groups positions =>
    have own : Owned d userId plan.portfolioId := checked_owned allowed
    rw [mutation_read,tenant_reads own] at allowed
    cases allowed
    refine {start with plans := own_update ?_ ?_ own}
    · intro free
      simp [taken,storesUnder,recordsUnder,same,free]
    · intro stored found
      by_contra foreign
      exact clean ⟨own,groups,positions,stored,found,foreign⟩
  | recordCreated plan createdAt mutable free =>
    refine {start with records := own_update ?_ ?_ (mutable_owned mutable)}
    · intro _
      simp [taken,storesUnder,recordsUnder,same,free]
    · intro stored found
      rw [free] at found
      cases found
  | recordChanged plan stored updated next changedAt runId key mutable known portfolio kept =>
    have own := mutable_owned mutable
    refine {start with records := own_update ?_ ?_ (kept ▸ own)}
    · intro free
      rw [known] at free
      cases free
    · intro found held
      rw [known] at held
      cases held
      exact portfolio ▸ own
  | scanCreated request createdAt mutable free =>
    have lock : Identifier.lock (request.key d) ∈ r.taken d last (.createOrRecover request createdAt) := by
      simp [taken,storesUnder,recordsUnder,same,free]
    have scan : Identifier.scan r.stores.nextUuid ∈ r.taken d last (.createOrRecover request createdAt) := by
      simp [taken,storesUnder,recordsUnder,same,fresh]
    refine {start with scans := ?_,locks := ?_}
    · intro id
      by_cases here : id = r.stores.nextUuid
      · exact .inl (here ▸ scan)
      · exact .inr (.inl ⟨update_of_ne here ..,update_of_ne here ..,rfl⟩)
    · intro key
      by_cases here : key = request.key d
      · exact .inl (here ▸ lock)
      · exact .inr (.inl (update_of_ne here ..))
  | attempted scan attempt attempted =>
    have named := (sound.logged.byId _ _ attempted.found).1
    have own := mutable_owned attempted.mutable
    refine {start with scans := ?_}
    intro id
    by_cases here : id = scan.logicalScanRunId
    · have found := attempted.found
      rw [← named,← here] at found
      exact .inr (.inr ⟨scan,scan,found,found,own,own⟩)
    · exact .inr (.inl ⟨rfl,update_of_ne here ..,rfl⟩)
  | completed scanId runId plan completedAt scan completed attached =>
    have own := mutable_owned attached.mutable
    have owned : Owned d userId completed.portfolioId := attached.same.2.2 ▸ own
    refine {start with scans := ?_,locks := own_update ?_ ?_ owned}
    · intro id
      by_cases here : id = scanId
      · subst here
        exact .inr (.inr ⟨completed,scan,update_self ..,attached.found,owned,own⟩)
      · exact .inr (.inl ⟨update_of_ne here ..,rfl,rfl⟩)
    · intro free
      have held := (sound.logged.byId _ _ attached.found).2
      rw [← attached.same.2.1,free] at held
      cases held
    · intro stored found
      have held := (sound.logged.byId _ _ attached.found).2
      rw [← attached.same.2.1,found] at held
      cases held
      exact own
  | runStored plan run key scanId recorded =>
    have own := mutable_owned recorded.mutable
    refine {start with scans := ?_,runKeys := ?_,runs := own_update ?_ ?_ (recorded.own.2 ▸ own)}
    · intro id
      cases scanId with
      | none => exact start.scans id
      | some scanned =>
        by_cases here : id = scanned
        · subst here
          obtain ⟨_,scan,found,_,portfolio⟩ := open_scan recorded.unlinked
          exact .inr (.inr ⟨scan,scan,found,found,portfolio ▸ own,portfolio ▸ own⟩)
        · exact .inr (.inl ⟨rfl,rfl,update_of_ne here ..⟩)
    · intro id other
      by_cases here : (id,other) = (plan.rotationPlanId,key)
      · cases here
        exact .inl (by simp [taken,storesUnder,recordsUnder,storing,same,recorded.free])
      · exact .inr ⟨update_of_ne here ..,update_of_ne here ..⟩
    · intro free
      simp [taken,storesUnder,recordsUnder,storing,same,free]
    · intro stored found
      by_contra foreign
      exact clean ⟨recorded,stored,found,foreign⟩
  | intentStored intent mutable free =>
    have keyed : Identifier.intent intent.intentKey ∈ r.taken d last (.recordOrGetIntent intent) := by
      simp [taken,storesUnder,recordsUnder,same,free]
    have listed : Identifier.intentsOf intent.strategyRunId ∈ r.taken d last (.recordOrGetIntent intent) := by
      simp [taken,storesUnder,recordsUnder,same]
    refine {start with intents := ?_,lists := ?_}
    · intro key
      by_cases here : key = intent.intentKey
      · exact .inr ⟨here ▸ keyed,here ▸ free⟩
      · exact .inl (update_of_ne here ..)
    · intro id
      by_cases here : id = intent.strategyRunId
      · exact .inl (here ▸ listed)
      · exact .inr (update_of_ne here ..)

-- No record of a portfolio the user does not own is changed or removed.
structure Intact (d : Deployment) (userId : UUID) (r r' : Repositories) : Prop where
  positions : ∀ id position, findPosition r.positions id = some position → ¬Owned d userId position.portfolioId →
    findPosition r'.positions id = some position
  plans : ∀ id plan, r.plans id = some plan → ¬Owned d userId plan.portfolioId → r'.plans id = some plan
  records : ∀ id record, r.stores.records id = some record → ¬Owned d userId record.portfolioId →
    r'.stores.records id = some record
  scans : ∀ id scan, r.stores.scansById id = some scan → ¬Owned d userId scan.portfolioId →
    r'.stores.scansById id = some scan ∧ r'.stores.attemptsByScan id = r.stores.attemptsByScan id ∧
      r'.stores.runsByLogicalScan id = r.stores.runsByLogicalScan id
  locks : ∀ key scan, r.stores.scansByKey key = some scan → ¬Owned d userId scan.portfolioId →
    r'.stores.scansByKey key = some scan
  runKeys : ∀ id key run, r.stores.runsByKey (id,key) = some run → r'.stores.runsByKey (id,key) = some run ∧
    r'.stores.logicalScanByKey (id,key) = r.stores.logicalScanByKey (id,key)
  runs : ∀ id run, r.stores.runsById id = some run → ¬Owned d userId run.portfolioId → r'.stores.runsById id = some run
  intents : ∀ key intent, r.stores.intentsByKey key = some intent → r'.stores.intentsByKey key = some intent

theorem same_kept {portfolioOf : α → UUID} {x y : Option α} {stored : α} (same : Same d userId portfolioOf x y)
    (held : y = some stored) (foreign : ¬Owned d userId (portfolioOf stored)) : x = some stored := by
  rcases same with rfl | ⟨u,v,_,found,_,own⟩
  · exact held
  · rw [found] at held
    cases held
    exact absurd own foreign

theorem alike_intact (alike : Alike d userId (r.taken d r' operation) r' r) : Intact d userId r r' := by
  refine ⟨?_,?_,?_,?_,?_,?_,?_,?_⟩
  · intro id position found foreign
    have unnamed : Identifier.position id ∉ r.taken d r' operation := held_untaken (by simp) (by simp [recordsUnder,found])
    have same := same_found alike.positions id
    rw [find_elsewhere _ _ unnamed,find_elsewhere _ _ unnamed] at same
    exact same_kept same found foreign
  · intro id plan held foreign
    exact same_kept ((alike.plans id).resolve_left (held_untaken (by simp) (by simp [recordsUnder,held]))) held foreign
  · intro id record held foreign
    exact same_kept ((alike.records id).resolve_left (held_untaken (by simp) (by simp [recordsUnder,held]))) held foreign
  · intro id scan held foreign
    rcases (alike.scans id).resolve_left (held_untaken (by simp) (by simp [recordsUnder,held])) with ⟨same,rest⟩ | ⟨_,v,_,found,_,own⟩
    · exact ⟨same.trans held,rest⟩
    · rw [found] at held
      cases held
      exact absurd own foreign
  · intro key scan held foreign
    exact same_kept ((alike.locks key).resolve_left (held_untaken (by simp) (by simp [recordsUnder,held]))) held foreign
  · intro id key run held
    obtain ⟨same,linked⟩ := (alike.runKeys id key).resolve_left (held_untaken (by simp) (by simp [recordsUnder,held]))
    exact ⟨same.trans held,linked⟩
  · intro id run held foreign
    exact same_kept ((alike.runs id).resolve_left (held_untaken (by simp) (by simp [recordsUnder,held]))) held foreign
  · intro key intent held
    rcases alike.intents key with same | ⟨_,absent⟩
    · exact same.trans held
    · rw [absent] at held
      cases held

-- The same later calls of other tenants, on the repositories with the user's call and without it.
inductive Together (d : Deployment) (userId : UUID) (taken : List Identifier) (r r' : Repositories) :
    Repositories → Repositories → Prop where
  | here : Together d userId taken r r' r r'
  | call {s s' : Repositories} (actor : UUID) (operation : Operation) (fresh : UUID) : Together d userId taken r r' s s' →
      actor ≠ userId → operation.Own → (∀ identifier ∈ operation.names d, identifier ∉ taken) →
      s.stores.scansById fresh = none → s'.stores.scansById fresh = none →
      Together d userId taken r r' ((s.drawing fresh).after d (tenant actor) operation)
        ((s'.drawing fresh).after d (tenant actor) operation)

-- What a caller sees of a call.
def reply (d : Deployment) (r : Repositories) (access : AccessContext) (operation : Operation) : Except PyError Reply :=
  (r.perform d access operation).map Prod.fst

theorem agree_reply {taken : List Identifier}
    (agree : Agree (Matching d userId taken) (r.perform d access operation) (r'.perform d access operation)) :
    r.reply d access operation = r'.reply d access operation := by
  unfold reply
  generalize r.perform d access operation = x,r'.perform d access operation = y at agree ⊢
  cases agree with
  | returned matching => exact congrArg Except.ok matching.1
  | raised error => rfl

theorem agree_after {taken : List Identifier} (alike : Alike d userId taken r r')
    (agree : Agree (Matching d userId taken) (r.perform d access operation) (r'.perform d access operation)) :
    Alike d userId taken (r.after d access operation) (r'.after d access operation) := by
  unfold after
  generalize r.perform d access operation = x,r'.perform d access operation = y at agree ⊢
  cases agree with
  | returned matching => exact matching.2
  | raised error => exact alike

theorem drawing_alike {taken : List Identifier} (alike : Alike d userId taken r r') (fresh : UUID) :
    Alike d userId taken (r.drawing fresh) (r'.drawing fresh) := {alike with}

theorem drawing_sound (sound : Sound r.stores) (fresh : UUID) : Sound (r.drawing fresh).stores :=
  ⟨⟨sound.logged.byId,sound.logged.byKey,sound.logged.chains,sound.logged.finals,sound.logged.completed⟩,sound.keyed⟩

theorem after_sound (sound : Sound r.stores) {fresh : UUID} (unused : r.stores.scansById fresh = none) :
    Sound ((r.drawing fresh).after d access operation).stores := by
  have change : Change d access (r.drawing fresh) operation ((r.drawing fresh).after d access operation) := after_changes operation
  have drawn := drawing_sound sound fresh
  exact ⟨change_logged drawn.logged unused change,change_keyed drawn.keyed change⟩

theorem together_alike {taken : List Identifier} {s s' : Repositories} (alike : Alike d userId taken r r')
    (sound : Sound r.stores) (sound' : Sound r'.stores) (together : Together d userId taken r r' s s') :
    Alike d userId taken s s' ∧ Sound s.stores ∧ Sound s'.stores := by
  induction together with
  | here => exact ⟨alike,sound,sound'⟩
  | call actor operation fresh _ apart own unnamed unused unused' ih =>
    have drawn := drawing_alike ih.1 fresh
    have agrees := stranger_agrees drawn apart (drawing_sound ih.2.1 fresh) (drawing_sound ih.2.2 fresh) unused rfl own unnamed
    exact ⟨agree_after drawn agrees,after_sound ih.2.1 unused,after_sound ih.2.2 unused'⟩

theorem constructed_sound (groups positions : UUID → Option UUID) : Sound (constructed groups positions).stores := by
  refine ⟨constructed_logged groups positions,?_⟩
  intro _ _ member
  cases member

-- One call of a tenant that displaces nothing is nothing to the others, but for what it was first to
-- store something under.
theorem tenants_isolated {fresh : UUID} (reached : Reached d permitted r) (unused : r.stores.scansById fresh = none)
    (clean : ¬Displaces d (r.drawing fresh) userId operation) :
    Intact d userId (r.drawing fresh) ((r.drawing fresh).after d (tenant userId) operation) ∧
    ∀ s s', Together d userId ((r.drawing fresh).taken d ((r.drawing fresh).after d (tenant userId) operation) operation)
      ((r.drawing fresh).after d (tenant userId) operation) (r.drawing fresh) s s' →
      ∀ actor (later : Operation) again, actor ≠ userId → later.Own →
      (∀ identifier ∈ later.names d,
        identifier ∉ (r.drawing fresh).taken d ((r.drawing fresh).after d (tenant userId) operation) operation) →
      s.stores.scansById again = none →
      (s.drawing again).reply d (tenant actor) later = (s'.drawing again).reply d (tenant actor) later := by
  obtain ⟨groups,positions,path⟩ := reached
  obtain ⟨sound,distinct⟩ := leads_sound (constructed_sound groups positions) List.nodup_nil path
  have drawn := drawing_sound sound fresh
  have alike := change_alike drawn distinct unused clean (after_changes operation) rfl
  refine ⟨alike_intact alike,?_⟩
  intro s s' together actor later again apart own unnamed unused'
  obtain ⟨still,left,right⟩ := together_alike alike (after_sound sound unused) drawn together
  exact agree_reply (stranger_agrees (drawing_alike still again) apart (drawing_sound left again) (drawing_sound right again)
    unused' rfl own unnamed)

-- Two tenants: 7 owns portfolio 2 and 8 owns every other.
def twoTenants : Deployment := {sampleDeployment with portfolioOwners := fun id => if id = 2 then some 7 else some 8}
def strangePosition (positionId : UUID) : Position := {samplePosition with positionId,portfolioId := 3}
def onePosition : Repositories := (emptyRepositories.drawing 0).after twoTenants (tenant 7) (.addPosition samplePosition)

theorem onePosition_reached : Reached twoTenants Always onePosition :=
  ⟨_,_,.call (tenant 7) (.addPosition samplePosition) 0 .here trivial rfl⟩

theorem tenants_isolated_sample : Intact twoTenants 8 (onePosition.drawing 0)
    ((onePosition.drawing 0).after twoTenants (tenant 8) (.addPosition (strangePosition 5))) := by
  refine (tenants_isolated onePosition_reached rfl ?_).1
  intro ⟨_,_,old,found,_⟩
  have free : findPosition (onePosition.drawing 0).positions 5 = none := by decide +kernel
  rw [show (strangePosition 5).positionId = 5 from rfl,free] at found
  cases found

-- Under the id of another tenant's position anyone may add his own.
theorem position_displaced : ¬∀ r userId operation fresh, Reached twoTenants Always r → r.stores.scansById fresh = none →
    Intact twoTenants userId (r.drawing fresh) ((r.drawing fresh).after twoTenants (tenant userId) operation) := by
  intro isolated
  have intact := isolated onePosition 8 (.addPosition (strangePosition 4)) 0 onePosition_reached rfl
  have before : findPosition (onePosition.drawing 0).positions 4 = some samplePosition := rfl
  have after : findPosition ((onePosition.drawing 0).after twoTenants (tenant 8) (.addPosition (strangePosition 4))).positions 4 =
      some (strangePosition 4) := rfl
  have kept := intact.positions 4 samplePosition before (by simp [Owned,twoTenants,samplePosition])
  rw [after] at kept
  have portfolios := congrArg (Option.map Position.portfolioId) kept
  exact absurd portfolios (by decide)

end Repositories

end SwapMonitor
