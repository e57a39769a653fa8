import SwapMonitor.Persistence.ConfigurationLayers
import SwapMonitor.Persistence.Tenants
import SwapMonitor.Guarantees.Schedules

namespace SwapMonitor.Configuration
open Collections

variable {p : Platform} {d : Deployment} {layers : List (ConfigurationLayer p)} {plan : RotationPlan} {planOwnerId : UUID}
  {layer : ConfigurationLayer p} {entry : ConfigurationLayerSelectionEntry} {adder : AccessContext}

theorem onlyMatch_duplicate {α : Type} {matching : List α} : onlyMatch matching = .error duplicateLayer ↔ 2 ≤ matching.length := by
  match matching with
  | [] => simp [onlyMatch,missingLayer,duplicateLayer]
  | [_] => simp [onlyMatch]
  | _ :: _ :: _ => simp [onlyMatch]

theorem onlyMatch_ok {α : Type} {matching : List α} {found : α} : onlyMatch matching = .ok found ↔ matching = [found] := by
  match matching with
  | [] => simp [onlyMatch]
  | [_] => simp [onlyMatch]
  | _ :: _ :: _ => simp [onlyMatch]

theorem plan_owner {reader : AccessContext} (readable : requirePortfolioRead d plan.portfolioId reader = .ok planOwnerId) :
    d.portfolioOwners plan.portfolioId = some planOwnerId := by
  simp only [requirePortfolioRead,bind_ok,pure_ok] at readable
  obtain ⟨owner,found,_,_,rfl⟩ := readable
  unfold portfolioOwner at found
  split at found
  · rename_i there
    cases found
    exact there
  · simp at found

-- A layer that an ordinary actor may store is owned by the actor or by one of the actor's portfolios.
inductive Own (d : Deployment) (adder : AccessContext) (layer : LayerFields) : Prop
  | user (scope : layer.scope = .user) (owned : layer.ownership = .user adder.actorUserId)
  | portfolio (portfolioId : UUID) (scope : layer.scope ∉ [.system,.market,.strategy] ∧ layer.scope ≠ .user)
      (owned : layer.ownership = .portfolio portfolioId) (owner : d.portfolioOwners portfolioId = some adder.actorUserId)

theorem authorized_own (ordinary : adder.isAdministrator = false)
    (authorized : authorizeLayer d layer.toLayerFields adder = .ok ()) : Own d adder layer.toLayerFields := by
  have owned := (layer_established layer).owned
  unfold authorizeLayer at authorized
  cases ownership : layer.ownership with
  | system => simp [ownership,AccessContext.requireMutation,AccessContext.canMutate,ordinary,raise] at authorized
  | user owner =>
    have scope : layer.scope = .user := by
      rw [ownership] at owned
      cases named : layer.scope <;> rw [named] at owned <;> first | rfl | cases owned
    have mine : owner = adder.actorUserId := by
      simp only [ownership,AccessContext.requireMutation,AccessContext.canMutate,ordinary,Bool.false_or] at authorized
      split at authorized
      · rename_i allowed
        simpa using allowed
      · simp [raise] at authorized
    exact .user scope (mine ▸ ownership)
  | portfolio portfolioId =>
    have scope : layer.scope ∉ [.system,.market,.strategy] ∧ layer.scope ≠ .user := by
      rw [ownership] at owned
      cases named : layer.scope <;> rw [named] at owned <;> first | decide | cases owned
    simp only [ownership,bind_ok] at authorized
    obtain ⟨owner,mutates,_⟩ := authorized
    have tenancy : adder = tenant adder.actorUserId := by
      obtain ⟨actor,administrator⟩ := adder
      cases ordinary
      rfl
    exact .portfolio portfolioId scope ownership (mutable_owned ⟨owner,tenancy ▸ mutates⟩)

namespace InMemoryConfigurationLayerRepository

theorem validate_message {error : PyError} (did : validateSelectedLayer plan planOwnerId layer entry = .error error) :
    error ≠ missingLayer ∧ error ≠ duplicateLayer := by
  unfold validateSelectedLayer at did
  have refusal : ∀ {condition : Bool} {message : String}, raiseIf condition .valueError message = .error error →
      error = ⟨.valueError,message⟩ := by
    intro condition message raised
    cases condition <;> simp [raiseIf,raise] at raised
    exact raised.symm
  split at did
  · rw [refusal did]
    decide
  · split at did
    · rw [refusal did]
      decide
    · cases first : raiseIf (decide (layer.ownership ≠ .portfolio plan.portfolioId)) .valueError
          "portfolio configuration selection does not match exact plan portfolio" with
      | error other =>
        rw [first] at did
        cases did
        rw [refusal first]
        decide
      | ok _ =>
        rw [first] at did
        rw [refusal did]
        decide

theorem identifies_scope (found : identifies entry layer = true) : layer.scope = entry.scope := by
  simp only [identifies,Bool.and_eq_true,beq_iff_eq] at found
  exact found.1.1.1

-- A layer of somebody else's fits no plan of this owner.
theorem foreign_refused (own : Own d adder layer.toLayerFields) (owner : d.portfolioOwners plan.portfolioId = some planOwnerId)
    (foreign : d.portfolioOwners plan.portfolioId ≠ some adder.actorUserId) (found : identifies entry layer = true) :
    ∃ error, validateSelectedLayer plan planOwnerId layer entry = .error error := by
  have scope := identifies_scope found
  have apart : adder.actorUserId ≠ planOwnerId := fun same => foreign (same ▸ owner)
  unfold validateSelectedLayer
  cases own with
  | user named owned =>
    rw [named] at scope
    simp [← scope,owned,apart,raiseIf,raise]
  | portfolio portfolioId named owned tenancy =>
    rw [scope] at named
    have other : portfolioId ≠ plan.portfolioId := fun same => foreign (same ▸ tenancy)
    simp [named.1,named.2,owned,other,raiseIf,raise,Bind.bind,Except.bind]

-- Whether an entry loads: one layer is stored under its identity, and it fits the plan.
def Loads (layers : List (ConfigurationLayer p)) (plan : RotationPlan) (planOwnerId : UUID)
    (entry : ConfigurationLayerSelectionEntry) : Prop :=
  ∃ layer, layers.filter (identifies entry) = [layer] ∧ validateSelectedLayer plan planOwnerId layer entry = .ok ()

-- Whether the first entry that does not load has several layers stored under its identity.
def StopsAtDuplicate (layers : List (ConfigurationLayer p)) (plan : RotationPlan) (planOwnerId : UUID)
    (entries : List ConfigurationLayerSelectionEntry) : Prop :=
  ∃ earlier entry later, entries = earlier ++ entry :: later ∧ (∀ other ∈ earlier, Loads layers plan planOwnerId other) ∧
    2 ≤ (layers.filter (identifies entry)).length

theorem select_loads : (∃ layer, selectLayer layers plan planOwnerId entry = .ok layer) ↔ Loads layers plan planOwnerId entry := by
  simp only [selectLayer,bind_ok,onlyMatch_ok,pure_ok,Loads]
  constructor
  · intro held
    obtain ⟨_,layer,only,_,valid,_⟩ := held
    exact ⟨layer,only,valid⟩
  · intro held
    obtain ⟨layer,only,valid⟩ := held
    exact ⟨layer,layer,only,(),valid,rfl⟩

theorem select_duplicate : selectLayer layers plan planOwnerId entry = .error duplicateLayer ↔
    2 ≤ (layers.filter (identifies entry)).length := by
  rw [← onlyMatch_duplicate,selectLayer]
  cases onlyMatch (layers.filter (identifies entry)) with
  | error error => rfl
  | ok layer =>
    cases valid : validateSelectedLayer plan planOwnerId layer entry with
    | error error =>
      have other := (validate_message valid).2
      simp [Bind.bind,Except.bind,valid,other]
    | ok _ => simp [Bind.bind,Except.bind,valid,Pure.pure,Except.pure]

theorem loads_single (loads : Loads layers plan planOwnerId entry) : ¬2 ≤ (layers.filter (identifies entry)).length := by
  obtain ⟨layer,only,_⟩ := loads
  rw [only]
  simp

theorem stops_loaded (loads : Loads layers plan planOwnerId entry) {rest : List ConfigurationLayerSelectionEntry} :
    StopsAtDuplicate layers plan planOwnerId (entry :: rest) ↔ StopsAtDuplicate layers plan planOwnerId rest := by
  constructor
  · intro ⟨earlier,stop,later,split,each,several⟩
    cases earlier with
    | nil =>
      cases split
      exact absurd several (loads_single loads)
    | cons first others =>
      cases split
      exact ⟨others,stop,later,rfl,fun other member => each other (List.mem_cons_of_mem _ member),several⟩
  · intro ⟨earlier,stop,later,split,each,several⟩
    exact ⟨entry :: earlier,stop,later,by rw [split]; rfl,List.forall_mem_cons.mpr ⟨loads,each⟩,several⟩

theorem stops_duplicate {entries : List ConfigurationLayerSelectionEntry} :
    entries.mapM (selectLayer layers plan planOwnerId) = .error duplicateLayer ↔
      StopsAtDuplicate layers plan planOwnerId entries := by
  induction entries with
  | nil => simp [StopsAtDuplicate,Pure.pure,Except.pure]
  | cons entry rest ih =>
    rw [List.mapM_cons]
    cases selected : selectLayer layers plan planOwnerId entry with
    | ok layer =>
      rw [stops_loaded (select_loads.mp ⟨layer,selected⟩),← ih]
      cases rest.mapM (selectLayer layers plan planOwnerId) <;> simp [Bind.bind,Except.bind,Pure.pure,Except.pure]
    | error error =>
      have unloaded : ¬Loads layers plan planOwnerId entry := by
        intro loads
        obtain ⟨layer,did⟩ := select_loads.mpr loads
        rw [selected] at did
        cases did
      have stop : selectLayer layers plan planOwnerId entry = .error duplicateLayer ↔
          2 ≤ (layers.filter (identifies entry)).length := select_duplicate
      rw [selected,Except.error.injEq] at stop
      have raised : ((.error error : Except PyError (ConfigurationLayer p)) >>= fun layer =>
          rest.mapM (selectLayer layers plan planOwnerId) >>= fun following => pure (layer :: following)) =
            .error duplicateLayer ↔ error = duplicateLayer := by simp [Bind.bind,Except.bind]
      rw [raised,stop]
      refine ⟨fun several => ⟨[],entry,rest,rfl,by simp,several⟩,?_⟩
      intro ⟨earlier,other,later,split,each,several⟩
      cases earlier with
      | nil =>
        cases split
        exact several
      | cons first others =>
        cases split
        exact absurd (each entry (List.mem_cons_self ..)) unloaded

theorem select_unmatched (unmatched : identifies entry layer = false) :
    selectLayer (layers ++ [layer]) plan planOwnerId entry = selectLayer layers plan planOwnerId entry := by
  simp [selectLayer,List.filter_append,unmatched]

theorem mapM_unmatched {entries : List ConfigurationLayerSelectionEntry}
    (unmatched : ∀ entry ∈ entries, identifies entry layer = false) :
    entries.mapM (selectLayer (layers ++ [layer]) plan planOwnerId) = entries.mapM (selectLayer layers plan planOwnerId) := by
  induction entries with
  | nil => rfl
  | cons entry rest ih =>
    rw [List.mapM_cons,List.mapM_cons,select_unmatched (unmatched entry (List.mem_cons_self ..)),
      ih fun other member => unmatched other (List.mem_cons_of_mem _ member)]

-- Where the layer has the identity of an entry, that entry no longer loads.
theorem select_matched (found : identifies entry layer = true) {refusal : PyError}
    (refused : validateSelectedLayer plan planOwnerId layer entry = .error refusal) :
    selectLayer (layers ++ [layer]) plan planOwnerId entry =
      .error (if layers.filter (identifies entry) = [] then refusal else duplicateLayer) := by
  rw [selectLayer,List.filter_append,List.filter_cons_of_pos found,List.filter_nil]
  match stored : layers.filter (identifies entry) with
  | [] => simp [onlyMatch,refused,Bind.bind,Except.bind]
  | [_] => simp [onlyMatch,Bind.bind,Except.bind]
  | _ :: _ :: _ => simp [onlyMatch,Bind.bind,Except.bind]

-- The layer takes the identity of an entry that the load reaches and that at most one stored layer
-- has. If that one fits the plan, the load may still end at a duplicate of a later entry.
def Disturbs (layers : List (ConfigurationLayer p)) (plan : RotationPlan) (planOwnerId : UUID) (layer : ConfigurationLayer p)
    (entries : List ConfigurationLayerSelectionEntry) : Prop :=
  ∃ earlier entry later, entries = earlier ++ entry :: later ∧ (∀ other ∈ earlier, Loads layers plan planOwnerId other) ∧
    identifies entry layer = true ∧ (layers.filter (identifies entry) = [] ∨
      ((∃ stored, layers.filter (identifies entry) = [stored]) ∧
        ¬(Loads layers plan planOwnerId entry ∧ StopsAtDuplicate layers plan planOwnerId later)))

theorem earlier_loaded {earlier : List ConfigurationLayerSelectionEntry} :
    (∃ loaded, earlier.mapM (selectLayer layers plan planOwnerId) = .ok loaded) ↔
      ∀ other ∈ earlier, Loads layers plan planOwnerId other := by
  induction earlier with
  | nil => simp [Pure.pure,Except.pure]
  | cons entry rest ih =>
    rw [List.forall_mem_cons,← ih,← select_loads,List.mapM_cons]
    constructor
    · intro held
      obtain ⟨loaded,did⟩ := held
      simp only [bind_ok] at did
      obtain ⟨first,here,others,later,_⟩ := did
      exact ⟨⟨first,here⟩,others,later⟩
    · intro held
      obtain ⟨⟨first,here⟩,others,later⟩ := held
      refine ⟨first :: others,?_⟩
      rw [here,later]
      rfl

-- The entries before and after one that has the identity of the layer.
theorem unmatched_around {earlier later : List ConfigurationLayerSelectionEntry}
    (distinct : ((earlier ++ entry :: later).map fun entry => entry.scope).Nodup) (found : identifies entry layer = true) :
    (∀ other ∈ earlier, identifies other layer = false) ∧ ∀ other ∈ later, identifies other layer = false := by
  have scope := identifies_scope found
  rw [List.map_append,List.map_cons,List.nodup_append] at distinct
  obtain ⟨_,tail,apart⟩ := distinct
  rw [List.nodup_cons] at tail
  constructor
  · intro other member
    refine Bool.eq_false_iff.mpr fun also => ?_
    exact apart _ (List.mem_map_of_mem member) _ (List.mem_cons_self ..) ((identifies_scope also).symm.trans scope)
  · intro other member
    refine Bool.eq_false_iff.mpr fun also => ?_
    have same : other.scope = entry.scope := (identifies_scope also).symm.trans scope
    exact tail.1 (same ▸ List.mem_map_of_mem member)

-- With the entries before it loaded, what the load ends with depends on that entry.
theorem entries_changed {earlier later : List ConfigurationLayerSelectionEntry}
    (distinct : ((earlier ++ entry :: later).map fun entry => entry.scope).Nodup) (found : identifies entry layer = true)
    {refusal : PyError} (refused : validateSelectedLayer plan planOwnerId layer entry = .error refusal)
    (loaded : ∀ other ∈ earlier, Loads layers plan planOwnerId other) :
    (earlier ++ entry :: later).mapM (selectLayer (layers ++ [layer]) plan planOwnerId) =
        (earlier ++ entry :: later).mapM (selectLayer layers plan planOwnerId) ↔
      ¬(layers.filter (identifies entry) = [] ∨ ((∃ stored, layers.filter (identifies entry) = [stored]) ∧
        ¬(Loads layers plan planOwnerId entry ∧ StopsAtDuplicate layers plan planOwnerId later))) := by
  obtain ⟨before,after⟩ := unmatched_around distinct found
  obtain ⟨results,did⟩ := earlier_loaded.mpr loaded
  have other := (validate_message refused).1
  rw [List.mapM_append,List.mapM_append,mapM_unmatched before,did,List.mapM_cons,List.mapM_cons,mapM_unmatched after,
    select_matched found refused]
  match stored : layers.filter (identifies entry) with
  | [] =>
    have missing : selectLayer layers plan planOwnerId entry = .error missingLayer := by
      rw [selectLayer,stored]
      rfl
    simp [missing,Bind.bind,Except.bind,other]
  | [single] =>
    have stops : later.mapM (selectLayer layers plan planOwnerId) = .error duplicateLayer ↔
        StopsAtDuplicate layers plan planOwnerId later := stops_duplicate
    cases valid : validateSelectedLayer plan planOwnerId single entry with
    | error refusal =>
      have selected : selectLayer layers plan planOwnerId entry = .error refusal := by
        rw [selectLayer,stored]
        simp [onlyMatch,valid,Bind.bind,Except.bind]
      have unloaded : ¬Loads layers plan planOwnerId entry := by
        intro loads
        obtain ⟨_,did⟩ := select_loads.mpr loads
        rw [selected] at did
        cases did
      have apart := (validate_message valid).2
      simp [selected,unloaded,Bind.bind,Except.bind,apart.symm]
    | ok _ =>
      have selected : selectLayer layers plan planOwnerId entry = .ok single := by
        rw [selectLayer,stored]
        simp [onlyMatch,valid,Bind.bind,Except.bind,Pure.pure,Except.pure]
      have loads := select_loads.mp ⟨single,selected⟩
      rw [selected]
      cases rest : later.mapM (selectLayer layers plan planOwnerId) with
      | ok _ =>
        rw [rest] at stops
        have goes : ¬StopsAtDuplicate layers plan planOwnerId later := fun stop => by cases stops.mpr stop
        simp [Bind.bind,Except.bind,Pure.pure,Except.pure,loads,goes]
      | error error =>
        rw [rest,Except.error.injEq] at stops
        simp [Bind.bind,Except.bind,loads,← stops,eq_comm]
  | first :: second :: rest =>
    have duplicate : selectLayer layers plan planOwnerId entry = .error duplicateLayer := by
      rw [select_duplicate,stored]
      simp
    simp [duplicate,Bind.bind,Except.bind]

theorem entries_undisturbed {entries : List ConfigurationLayerSelectionEntry}
    (distinct : (entries.map fun entry => entry.scope).Nodup)
    (refused : ∀ entry, identifies entry layer = true → ∃ refusal, validateSelectedLayer plan planOwnerId layer entry = .error refusal) :
    entries.mapM (selectLayer (layers ++ [layer]) plan planOwnerId) = entries.mapM (selectLayer layers plan planOwnerId) ↔
      ¬Disturbs layers plan planOwnerId layer entries := by
  constructor
  · intro same ⟨earlier,entry,later,split,loaded,found,disturbs⟩
    subst split
    obtain ⟨refusal,refused⟩ := refused entry found
    exact (entries_changed distinct found refused loaded).mp same disturbs
  · intro quiet
    by_cases met : ∃ entry ∈ entries, identifies entry layer = true
    · obtain ⟨entry,member,found⟩ := met
      obtain ⟨earlier,later,split⟩ := List.append_of_mem member
      subst split
      obtain ⟨refusal,refused⟩ := refused entry found
      by_cases loaded : ∀ other ∈ earlier, Loads layers plan planOwnerId other
      · exact (entries_changed distinct found refused loaded).mpr fun disturbs =>
          quiet ⟨earlier,entry,later,rfl,loaded,found,disturbs⟩
      · rw [List.mapM_append,List.mapM_append,mapM_unmatched (unmatched_around distinct found).1]
        cases did : earlier.mapM (selectLayer layers plan planOwnerId) with
        | ok results => exact absurd (earlier_loaded.mp ⟨results,did⟩) loaded
        | error _ => rfl
    · refine mapM_unmatched fun entry member => ?_
      exact Bool.eq_false_iff.mpr fun found => met ⟨entry,member,found⟩

end InMemoryConfigurationLayerRepository

namespace SqlAlchemyConfigurationLayerRepository

-- The predicate asks for the owner, so a row of somebody else's is never selected.
theorem foreign_unselected (own : Own d adder layer.toLayerFields) (owner : d.portfolioOwners plan.portfolioId = some planOwnerId)
    (foreign : d.portfolioOwners plan.portfolioId ≠ some adder.actorUserId) {row : ConfigurationLayerModel}
    (written : configurationLayerToModel layer.toLayerFields = .ok row) (entry : ConfigurationLayerSelectionEntry) :
    selectionPredicate plan planOwnerId entry row = false := by
  simp only [configurationLayerToModel,bind_ok,pure_ok] at written
  obtain ⟨_,_,_,_,rfl⟩ := written
  have apart : adder.actorUserId ≠ planOwnerId := fun same => foreign (same ▸ owner)
  unfold selectionPredicate
  split
  · cases own with
    | user _ owned => simp [owned,ownershipScope,OwnershipScope.value]
    | portfolio _ _ owned => simp [owned,ownershipScope,OwnershipScope.value]
  · split
    · cases own with
      | user _ owned => simp [owned,ownerId,apart]
      | portfolio _ _ owned => simp [owned,ownershipScope,OwnershipScope.value]
    · cases own with
      | user _ owned => simp [owned,ownershipScope,OwnershipScope.value]
      | portfolio portfolioId _ owned tenancy =>
        have other : portfolioId ≠ plan.portfolioId := fun same => foreign (same ▸ tenancy)
        simp [owned,ownerId,other]

theorem load_unchanged (ordinary : adder.isAdministrator = false)
    (foreign : d.portfolioOwners plan.portfolioId ≠ some adder.actorUserId) {rows after : List ConfigurationLayerModel}
    (added : add d rows layer adder = .ok after) (selection : ConfigurationLayerSelection) (reader : AccessContext) :
    loadForPlan d after plan p selection reader = loadForPlan d rows plan p selection reader := by
  simp only [add,bind_ok,pure_ok] at added
  obtain ⟨_,authorized,row,written,_,_,_,_,rfl⟩ := added
  have own := authorized_own ordinary authorized
  unfold loadForPlan
  cases readable : requirePortfolioRead d plan.portfolioId reader with
  | error _ => rfl
  | ok planOwnerId =>
    have unselected := foreign_unselected own (plan_owner readable) foreign written
    simp only [Bind.bind,Except.bind,List.filter_append,List.filter_cons,unselected,List.any_eq_true,Bool.false_eq_true,
      and_false,exists_false,if_false,List.filter_nil,List.append_nil]

end SqlAlchemyConfigurationLayerRepository

open InMemoryConfigurationLayerRepository in
theorem foreign_layers_interfere {after : List (ConfigurationLayer p)} (ordinary : adder.isAdministrator = false)
    (foreign : d.portfolioOwners plan.portfolioId ≠ some adder.actorUserId) (added : add d layers layer adder = .ok after)
    (selection : ConfigurationLayerSelection) (reader : AccessContext) :
    (loadForPlan d after plan selection reader = loadForPlan d layers plan selection reader ↔
      ∀ planOwnerId, requirePortfolioRead d plan.portfolioId reader = .ok planOwnerId → selection.validateForPlan plan = .ok () →
        ¬Disturbs layers plan planOwnerId layer selection.orderedEntries) ∧
    ∀ rows rows', SqlAlchemyConfigurationLayerRepository.add d rows layer adder = .ok rows' →
      SqlAlchemyConfigurationLayerRepository.loadForPlan d rows' plan p selection reader =
        SqlAlchemyConfigurationLayerRepository.loadForPlan d rows plan p selection reader := by
  refine ⟨?_,fun rows rows' stored =>
    SqlAlchemyConfigurationLayerRepository.load_unchanged ordinary foreign stored selection reader⟩
  simp only [add,bind_ok,pure_ok] at added
  obtain ⟨_,authorized,rfl⟩ := added
  have own := authorized_own ordinary authorized
  have distinct : (selection.orderedEntries.map fun entry => entry.scope).Nodup :=
    ((sortBy_perm _ selection.entries).map _).nodup_iff.mpr selection.distinct
  unfold loadForPlan
  cases readable : requirePortfolioRead d plan.portfolioId reader with
  | error _ => simp [Bind.bind,Except.bind]
  | ok planOwnerId =>
    cases fits : selection.validateForPlan plan with
    | error _ => simp [Bind.bind,Except.bind]
    | ok _ =>
      have compared : selection.orderedEntries.mapM (selectLayer (layers ++ [layer]) plan planOwnerId) =
          selection.orderedEntries.mapM (selectLayer layers plan planOwnerId) ↔
            ¬Disturbs layers plan planOwnerId layer selection.orderedEntries :=
        entries_undisturbed distinct fun _ found => foreign_refused own (plan_owner readable) foreign found
      simpa [Bind.bind,Except.bind] using compared

-- One portfolio, of user 5.
def oneOwner : Deployment := {sampleDeployment with portfolioOwners := fun id => if id = 2 then some 5 else none}

def ownedPlan : RotationPlan := restingPlan

def userLayer (userId : UUID) (accepted : (sampleLayer .user (.user userId) sampleOverrides).postInit samplePlatform = .ok ()) :
    ConfigurationLayer samplePlatform := ⟨sampleLayer .user (.user userId) sampleOverrides,sampleOverrides_genuine,accepted⟩

def ownerLayer : ConfigurationLayer samplePlatform := userLayer 5 sampleOverrides_accepted
def strangerLayer : ConfigurationLayer samplePlatform := userLayer 6 (by decide +kernel)

def ownerSelection : ConfigurationLayerSelection := ⟨[⟨.user,1,1,ownerLayer.contentHash,first_version⟩],by decide⟩

theorem foreign_layers_interfere_sample :
    (InMemoryConfigurationLayerRepository.loadForPlan oneOwner [ownerLayer,strangerLayer] ownedPlan ownerSelection ⟨5,false⟩ =
      InMemoryConfigurationLayerRepository.loadForPlan oneOwner [ownerLayer] ownedPlan ownerSelection ⟨5,false⟩) ↔
    ∀ planOwnerId, requirePortfolioRead oneOwner 2 ⟨5,false⟩ = .ok planOwnerId →
      ownerSelection.validateForPlan ownedPlan = .ok () →
        ¬InMemoryConfigurationLayerRepository.Disturbs [ownerLayer] ownedPlan planOwnerId strangerLayer ownerSelection.orderedEntries := by
  have added : InMemoryConfigurationLayerRepository.add oneOwner [ownerLayer] strangerLayer ⟨6,false⟩ =
      .ok [ownerLayer,strangerLayer] := rfl
  exact (foreign_layers_interfere (by decide) (by decide) added ownerSelection ⟨5,false⟩).1

-- A stranger's layer with the same reference, version and patch.
theorem stranger_blocks : ¬∀ (p : Platform) (d : Deployment) (layers after : List (ConfigurationLayer p)) (plan : RotationPlan)
    (layer : ConfigurationLayer p) (adder reader : AccessContext) (selection : ConfigurationLayerSelection),
    adder.isAdministrator = false → d.portfolioOwners plan.portfolioId ≠ some adder.actorUserId →
      InMemoryConfigurationLayerRepository.add d layers layer adder = .ok after →
        InMemoryConfigurationLayerRepository.loadForPlan d after plan selection reader =
          InMemoryConfigurationLayerRepository.loadForPlan d layers plan selection reader := by
  intro same
  have loaded := same samplePlatform oneOwner [ownerLayer] [ownerLayer,strangerLayer] ownedPlan strangerLayer ⟨6,false⟩ ⟨5,false⟩
    ownerSelection rfl (by decide) rfl
  have before : (InMemoryConfigurationLayerRepository.loadForPlan oneOwner [ownerLayer] ownedPlan ownerSelection
      ⟨5,false⟩).toOption.isSome = true := by decide +kernel
  have after : (InMemoryConfigurationLayerRepository.loadForPlan oneOwner [ownerLayer,strangerLayer] ownedPlan ownerSelection
      ⟨5,false⟩).toOption.isSome = false := by decide +kernel
  rw [loaded,before] at after
  cases after

end SwapMonitor.Configuration
