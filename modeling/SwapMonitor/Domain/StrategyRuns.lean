import SwapMonitor.Domain.Entities
import SwapMonitor.Domain.EvidenceDecoding

namespace SwapMonitor

mutual
theorem freeze_genuine (value : Evidence) (genuine : value.Genuine) : (freezeEvidence value).Genuine := by
  cases value with
  | list items => exact freezeItems_genuine items genuine
  | tuple items => exact freezeItems_genuine items genuine
  | map entries => exact ⟨freezeEntries_keys entries ▸ genuine.1,freezeEntries_genuine entries genuine.2⟩
  | _ => exact genuine

theorem freezeItems_genuine (items : List Evidence) (genuine : GenuineItems items) : GenuineItems (freezeItems items) := by
  cases items with
  | nil => trivial
  | cons item rest => exact ⟨freeze_genuine item genuine.1,freezeItems_genuine rest genuine.2⟩

theorem freezeEntries_genuine (entries : List (String × Evidence)) (genuine : GenuineEntries entries) :
    GenuineEntries (freezeEntries entries) := by
  cases entries with
  | nil => trivial
  | cons entry rest => exact ⟨freeze_genuine entry.2 genuine.1,freezeEntries_genuine rest genuine.2⟩

theorem freezeEntries_keys (entries : List (String × Evidence)) :
    entries.map Prod.fst = (freezeEntries entries).map Prod.fst := by
  cases entries with
  | nil => rfl
  | cons entry rest =>
    rw [List.map_cons,freezeEntries_keys rest]
    rfl
end

-- What is frozen once stays as it is.
mutual
theorem freeze_frozen (value : Evidence) : freezeEvidence (freezeEvidence value) = freezeEvidence value := by
  cases value with
  | list items => exact congrArg Evidence.tuple (freezeItems_frozen items)
  | tuple items => exact congrArg Evidence.tuple (freezeItems_frozen items)
  | map entries => exact congrArg Evidence.map (freezeEntries_frozen entries)
  | _ => rfl

theorem freezeItems_frozen (items : List Evidence) : freezeItems (freezeItems items) = freezeItems items := by
  cases items with
  | nil => rfl
  | cons item rest => simp only [freezeItems,freeze_frozen item,freezeItems_frozen rest]

theorem freezeEntries_frozen (entries : List (String × Evidence)) :
    freezeEntries (freezeEntries entries) = freezeEntries entries := by
  cases entries with
  | nil => rfl
  | cons entry rest =>
    obtain ⟨key,value⟩ := entry
    simp only [freezeEntries,freeze_frozen value,freezeEntries_frozen rest]
end

theorem frozen_items (items : List Evidence) : freezeItems items = items.map freezeEvidence := by
  induction items with
  | nil => rfl
  | cons item rest ih => rw [freezeItems,ih,List.map_cons]

theorem frozen_entries (entries : List (String × Evidence)) :
    freezeEntries entries = entries.map fun entry => (entry.1,freezeEvidence entry.2) := by
  induction entries with
  | nil => rfl
  | cons entry rest ih => rw [freezeEntries,ih,List.map_cons]

mutual
theorem freeze_unzoned (value : Evidence) : freezeEvidence value.unzoned = (freezeEvidence value).unzoned := by
  cases value with
  | list items => exact congrArg Evidence.tuple (freezeItems_unzoned items)
  | tuple items => exact congrArg Evidence.tuple (freezeItems_unzoned items)
  | map entries => exact congrArg Evidence.map (freezeEntries_unzoned entries)
  | _ => rfl

theorem freezeItems_unzoned (items : List Evidence) : freezeItems (unzonedItems items) = unzonedItems (freezeItems items) := by
  cases items with
  | nil => rfl
  | cons item rest => simp only [freezeItems,unzonedItems,freeze_unzoned item,freezeItems_unzoned rest]

theorem freezeEntries_unzoned (entries : List (String × Evidence)) :
    freezeEntries (unzonedEntries entries) = unzonedEntries (freezeEntries entries) := by
  cases entries with
  | nil => rfl
  | cons entry rest =>
    obtain ⟨key,value⟩ := entry
    simp only [freezeEntries,unzonedEntries,freeze_unzoned value,freezeEntries_unzoned rest]
end

-- The text of a datetime does not name its region.
mutual
theorem unzoned_bytes (value : Evidence) : encodedEvidenceBytes value.unzoned = encodedEvidenceBytes value := by
  cases value with
  | list items => simp only [Evidence.unzoned,encodedEvidenceBytes,unzonedItems_bytes items]
  | tuple items => simp only [Evidence.unzoned,encodedEvidenceBytes,unzonedItems_bytes items]
  | map entries => simp only [Evidence.unzoned,encodedEvidenceBytes,unzonedEntries_bytes entries]
  | _ => rfl

theorem unzonedItems_bytes (items : List Evidence) :
    (unzonedItems items).length = items.length ∧ encodedItemsBytes (unzonedItems items) = encodedItemsBytes items := by
  cases items with
  | nil => exact ⟨rfl,rfl⟩
  | cons item rest =>
    simp only [unzonedItems,encodedItemsBytes,List.length_cons,unzoned_bytes item,unzonedItems_bytes rest,and_self]

theorem unzonedEntries_bytes (entries : List (String × Evidence)) :
    (unzonedEntries entries).length = entries.length ∧ encodedEntriesBytes (unzonedEntries entries) = encodedEntriesBytes entries := by
  cases entries with
  | nil => exact ⟨rfl,rfl⟩
  | cons entry rest =>
    obtain ⟨key,value⟩ := entry
    simp only [unzonedEntries,encodedEntriesBytes,List.length_cons,unzoned_bytes value,unzonedEntries_bytes rest,and_self]
end

-- The preflight does not tell a list from a tuple, nor a datetime from another.
section Reshaping
variable {f : Evidence → Evidence}

def Evidence.Reshaped (f : Evidence → Evidence) : Evidence → Prop
  | .list items => f (.list items) = .list (items.map f) ∨ f (.list items) = .tuple (items.map f)
  | .tuple items => f (.tuple items) = .tuple (items.map f)
  | .map entries => f (.map entries) = .map (entries.map fun entry => (entry.1,f entry.2))
  | .datetime value => ∃ shown, f (.datetime value) = .datetime shown
  | value => f value = value

theorem freeze_reshapes (value : Evidence) : value.Reshaped freezeEvidence := by
  cases value with
  | list items => exact .inr (congrArg Evidence.tuple (frozen_items items))
  | tuple items => exact congrArg Evidence.tuple (frozen_items items)
  | map entries => exact congrArg Evidence.map (frozen_entries entries)
  | datetime value => exact ⟨value,rfl⟩
  | _ => exact rfl

theorem unzoned_reshapes (value : Evidence) : value.Reshaped Evidence.unzoned := by
  have each : ∀ items, unzonedItems items = items.map Evidence.unzoned := by
    intro items
    induction items with
    | nil => rfl
    | cons item rest ih => rw [unzonedItems,ih,List.map_cons]
  have every : ∀ entries, unzonedEntries entries = entries.map fun entry => (entry.1,entry.2.unzoned) := by
    intro entries
    induction entries with
    | nil => rfl
    | cons entry rest ih => rw [unzonedEntries,ih,List.map_cons]
  cases value with
  | list items => exact .inl (congrArg Evidence.list (each items))
  | tuple items => exact congrArg Evidence.tuple (each items)
  | map entries => exact congrArg Evidence.map (every entries)
  | datetime value => exact ⟨value.unzoned,rfl⟩
  | _ => exact rfl

theorem identifiers_reshaped (entries : List (String × Evidence)) :
    requireIdentifiers (entries.map fun entry => (entry.1,f entry.2)) = requireIdentifiers entries := by
  induction entries with
  | nil => rfl
  | cons entry rest ih => simp only [List.map_cons,requireIdentifiers,ih]

theorem loop_reshaped (reshapes : ∀ value, Evidence.Reshaped f value) (fuel : Nat) (stack : List (Evidence × Nat)) (count : Nat) :
    preflightLoop fuel (stack.map fun entry => (f entry.1,entry.2)) count = preflightLoop fuel stack count := by
  induction fuel generalizing stack count with
  | zero => cases stack <;> rfl
  | succ fuel ih =>
    cases stack with
    | nil => rfl
    | cons entry rest =>
      obtain ⟨current,depth⟩ := entry
      have pushed : ∀ children : List Evidence,
          (children.map f).map (fun item => (item,depth + 1)) ++ rest.map (fun entry => (f entry.1,entry.2)) =
            (children.map (fun item => (item,depth + 1)) ++ rest).map fun entry => (f entry.1,entry.2) := by
        intro children
        simp only [List.map_append,List.map_map,Function.comp_def]
      have entered : ∀ entries : List (String × Evidence),
          (entries.map fun entry => (entry.1,f entry.2)).map (fun entry => (entry.2,depth + 1)) ++
              rest.map (fun entry => (f entry.1,entry.2)) =
            (entries.map (fun entry => (entry.2,depth + 1)) ++ rest).map fun entry => (f entry.1,entry.2) := by
        intro entries
        simp only [List.map_append,List.map_map,Function.comp_def]
      have named : ∀ entries : List (String × Evidence),
          requireIdentifiers (entries.map fun entry => (entry.1,f entry.2)).reverse = requireIdentifiers entries.reverse := by
        intro entries
        rw [← List.map_reverse,identifiers_reshaped]
      have shape := reshapes current
      rw [List.map_cons]
      cases current with
      | list children =>
        rcases shape with shape | shape
        · simp only [shape,preflightLoop,pushed,List.length_map,ih]
        · simp only [shape,preflightLoop,pushed,List.length_map,ih]
      | tuple children =>
        rw [Evidence.Reshaped] at shape
        simp only [shape,preflightLoop,pushed,List.length_map,ih]
      | map entries =>
        rw [Evidence.Reshaped] at shape
        simp only [shape,preflightLoop,entered,List.length_map,named,ih]
      | datetime value =>
        obtain ⟨shown,shape⟩ := shape
        simp only [shape,preflightLoop,ih]
      | _ =>
        replace shape : f _ = _ := shape
        simp only [shape,preflightLoop,ih]

theorem preflight_reshaped (reshapes : ∀ value, Evidence.Reshaped f value) (value : Evidence) :
    preflightEvidencePayload (f value) = preflightEvidencePayload value := loop_reshaped reshapes _ [(value,1)] 0

end Reshaping

mutual
theorem same_refl {datetimes : AwareDatetime → AwareDatetime → Bool} (reflexive : ∀ d, datetimes d d = true) (value : Evidence)
    (genuine : value.Genuine) (supported : value.Supported) : Evidence.sameBy datetimes value value = true := by
  cases value with
  | null => rfl
  | bool value => simp [Evidence.sameBy,Evidence.number]
  | int value => simp [Evidence.sameBy,Evidence.number]
  | str value => simp [Evidence.sameBy]
  | decimal value => simp [Evidence.sameBy,Evidence.number]
  | uuid value => simp [Evidence.sameBy]
  | datetime value => exact reflexive _
  | list items => exact sameItems_refl reflexive items genuine supported
  | tuple items => exact sameItems_refl reflexive items genuine supported
  | map entries =>
    simp only [Evidence.sameBy,beq_self_eq_true,Bool.true_and]
    exact sameEntries_refl reflexive [] entries genuine.1 genuine.2 supported
  | foreign _ => exact supported.elim

theorem sameItems_refl {datetimes : AwareDatetime → AwareDatetime → Bool} (reflexive : ∀ d, datetimes d d = true)
    (items : List Evidence) (genuine : GenuineItems items) (supported : SupportedItems items) :
    Evidence.sameItems datetimes items items = true := by
  cases items with
  | nil => rfl
  | cons item rest =>
    rw [Evidence.sameItems,same_refl reflexive item genuine.1 supported.1,sameItems_refl reflexive rest genuine.2 supported.2]
    rfl

theorem sameEntries_refl {datetimes : AwareDatetime → AwareDatetime → Bool} (reflexive : ∀ d, datetimes d d = true)
    (earlier entries : List (String × Evidence)) (distinct : ((earlier ++ entries).map Prod.fst).Nodup)
    (genuine : GenuineEntries entries) (supported : SupportedEntries entries) :
    Evidence.sameEntries datetimes entries (earlier ++ entries) = true := by
  cases entries with
  | nil => rfl
  | cons entry rest =>
    obtain ⟨key,value⟩ := entry
    have found : (earlier ++ (key,value) :: rest).lookup key = some value := by
      rw [List.lookup_eq_some_iff]
      refine ⟨earlier,rest,rfl,?_⟩
      intro other member
      rw [List.map_append,List.map_cons] at distinct
      have apart := List.disjoint_of_nodup_append distinct (List.mem_map_of_mem member)
      simpa [bne_iff_ne] using fun same : key = other.1 => apart (same ▸ List.mem_cons_self ..)
    have moved : earlier ++ (key,value) :: rest = (earlier ++ [(key,value)]) ++ rest := by simp
    rw [Evidence.sameEntries,found,moved,sameEntries_refl reflexive _ rest (moved ▸ distinct) genuine.2 supported.2]
    simpa using same_refl reflexive value genuine.1 supported.1
end

namespace StrategyRun

-- A run its constructor returned; a mapping's keys are distinct and a UUID has 128 bits.
def Constructed (run : StrategyRun) : Prop :=
  ∃ fields : StrategyRun, fields.outputs.Genuine ∧ create fields = .ok run

theorem create_parts {fields run : StrategyRun} (created : create fields = .ok run) :
    fields.marketDataSnapshotId.blank = false ∧ blank fields.stateTransition = false ∧
      (∃ entries, fields.outputs = .map entries) ∧ preflightEvidencePayload fields.outputs = .ok () ∧
      (∃ size, measureEncodedEvidenceBytes (freezeEvidence fields.outputs) MAX_STRATEGY_RUN_OUTPUT_UTF8_BYTES = .ok size) ∧
      run = {fields with outputs := freezeEvidence fields.outputs} := by
  simp only [create,bind_ok,raiseIf_ok,exists_const,pure_ok] at created
  obtain ⟨named,stated,mapping,_,preflight,size,measured,rfl⟩ := created
  refine ⟨named,stated,?_,preflight,⟨size,measured⟩,rfl⟩
  split at mapping
  · rename_i entries shape
    exact ⟨entries,shape⟩
  · cases mapping

-- The constructor leaves what it once returned as it is.
theorem create_constructed {run : StrategyRun} (constructed : run.Constructed) : create run = .ok run := by
  obtain ⟨fields,_,created⟩ := constructed
  obtain ⟨named,stated,⟨entries,shape⟩,preflight,⟨size,measured⟩,rfl⟩ := create_parts created
  simp only [create,bind_ok,raiseIf_ok,exists_const,pure_ok]
  refine ⟨named,stated,?_,(),?_,size,?_,?_⟩
  · rw [shape]
    rfl
  · rw [preflight_reshaped freeze_reshapes]
    exact preflight
  · rw [freeze_frozen]
    exact measured
  · rw [freeze_frozen]

theorem constructed_genuine {run : StrategyRun} (constructed : run.Constructed) : run.outputs.Genuine := by
  obtain ⟨fields,genuine,created⟩ := constructed
  obtain ⟨_,_,_,_,_,rfl⟩ := create_parts created
  exact freeze_genuine _ genuine

theorem constructed_preflight {run : StrategyRun} (constructed : run.Constructed) :
    preflightEvidencePayload run.outputs = .ok () :=
  (create_parts (create_constructed constructed)).2.2.2.1

theorem constructed_sameBy {run : StrategyRun} (constructed : run.Constructed) {datetimes : AwareDatetime → AwareDatetime → Bool}
    (reflexive : ∀ d, datetimes d d = true) : run.sameBy datetimes run = true := by
  have outputs := same_refl reflexive run.outputs (constructed_genuine constructed)
    (preflight_supported (constructed_preflight constructed))
  simp [sameBy,outputs,reflexive]

theorem constructed_same {run : StrategyRun} (constructed : run.Constructed) : run.same run = true :=
  constructed_sameBy constructed AwareDatetime.same_refl

-- A run as it is read back: its datetimes are in UTC, those of its outputs in the zones of their offsets.
def restored (run : StrategyRun) : StrategyRun :=
  {run with outputs := run.outputs.unzoned,createdClock := {},occurredClock := {}}

theorem restored_created {run : StrategyRun} (created : create run = .ok run) : create run.restored = .ok run.restored := by
  obtain ⟨named,stated,⟨entries,shape⟩,preflight,⟨size,measured⟩,same⟩ := create_parts created
  have frozen : freezeEvidence run.outputs = run.outputs := (congrArg StrategyRun.outputs same).symm
  simp only [create,bind_ok,raiseIf_ok,exists_const,pure_ok]
  refine ⟨named,stated,?_,(),?_,size,?_,?_⟩
  · rw [restored,shape]
    rfl
  · exact (preflight_reshaped unzoned_reshapes _).trans preflight
  · rw [restored,freeze_unzoned,frozen]
    rw [frozen] at measured
    simp only [measureEncodedEvidenceBytes,unzoned_bytes] at measured ⊢
    exact measured
  · rw [restored,freeze_unzoned,frozen]

end StrategyRun

end SwapMonitor
