import SwapMonitor.Configuration.Resolution

namespace SwapMonitor.Configuration
open Collections

theorem lookup_genuine {entries : Entries} (genuine : (Payload.map entries).Genuine) {key : String} {value : Payload}
    (found : entries.lookup key = some value) : value.Genuine :=
  genuineEntries_each.mp genuine.2 _ ((lookup_member genuine.1).mp found)

theorem assign_genuine {entries : Entries} (genuine : (Payload.map entries).Genuine) (key : String) {value : Payload}
    (held : value.Genuine) : (Payload.map (assign entries key value)).Genuine := by
  unfold assign
  split
  · have keys : (entries.map fun entry => if entry.1 = key then (entry.1,value) else entry).map Prod.fst = entries.map Prod.fst := by
      rw [List.map_map]
      refine List.map_congr_left fun entry _ => ?_
      by_cases same : entry.1 = key <;> simp [same]
    refine ⟨keys ▸ genuine.1,genuineEntries_each.mpr fun entry member => ?_⟩
    obtain ⟨old,inside,rfl⟩ := List.mem_map.mp member
    by_cases same : old.1 = key
    · rw [if_pos same]
      exact held
    · rw [if_neg same]
      exact genuineEntries_each.mp genuine.2 old inside
  · rename_i unknown
    have fresh : key ∉ entries.map Prod.fst := by simpa using unknown
    refine ⟨?_,genuineEntries_each.mpr fun entry member => ?_⟩
    · rw [List.map_append,List.map_singleton,← List.concat_eq_append]
      exact List.Nodup.concat fresh genuine.1
    · rcases List.mem_append.mp member with old | new
      · exact genuineEntries_each.mp genuine.2 entry old
      · rw [List.mem_singleton.mp new]
        exact held

mutual
theorem merged_genuine (higher : Payload) {lower merged : Payload} {path : String} (inherited : lower.Genuine)
    (genuine : higher.Genuine) (did : mergeValue lower higher path = .ok merged) : merged.Genuine := by
  by_cases mapping : higher.kind = .map
  · cases higher with
    | map entries =>
      cases lower with
      | null =>
        rw [mergeValue,pure_ok] at did
        exact did ▸ genuine
      | map lower =>
        simp only [mergeValue] at did
        cases entered : mergeEntries lower entries path with
        | error _ => rw [entered] at did; cases did
        | ok result =>
          rw [entered] at did
          cases did
          exact mergedEntries_genuine entries inherited genuine entered
      | _ => simp [mergeValue,incompatibleKinds] at did
    | _ => cases mapping
  · rcases leaf_merged mapping did with rfl | ⟨items,rfl,rfl⟩
    · exact genuine
    · exact genuine

theorem mergedEntries_genuine (entries : Entries) {lower result : Entries} {path : String}
    (inherited : (Payload.map lower).Genuine) (genuine : (Payload.map entries).Genuine)
    (did : mergeEntries lower entries path = .ok result) : (Payload.map result).Genuine := by
  cases entries with
  | nil =>
    rw [mergeEntries,pure_ok] at did
    exact did ▸ inherited
  | cons entry rest =>
    obtain ⟨name,value⟩ := entry
    obtain ⟨distinct,held,others⟩ := genuine
    rw [List.map_cons,List.nodup_cons] at distinct
    rw [mergeEntries] at did
    split at did
    · rename_i found inside
      rw [bind_ok] at did
      obtain ⟨merged,nestedly,did⟩ := did
      have nested := merged_genuine value (lookup_genuine inherited inside) held nestedly
      exact mergedEntries_genuine rest (assign_genuine inherited name nested) ⟨distinct.2,others⟩ did
    · exact mergedEntries_genuine rest (assign_genuine inherited name held) ⟨distinct.2,others⟩ did
end

theorem keyedLower_genuine {path : String} {items : List Payload} {keyed after : Keyed} (held : GenuineItems keyed.result)
    (genuine : GenuineItems items) (did : keyedLower path items keyed = .ok after) : GenuineItems after.result := by
  induction items generalizing keyed with
  | nil =>
    rw [keyedLower,pure_ok] at did
    exact did ▸ held
  | cons item rest ih =>
    simp only [keyedLower,bind_ok] at did
    obtain ⟨identifier,_,did⟩ := did
    refine ih (genuineItems_each.mpr fun other member => ?_) genuine.2 did
    rcases List.mem_append.mp member with old | new
    · exact genuineItems_each.mp held other old
    · rw [List.mem_singleton.mp new]
      exact genuine.1

theorem keyedHigher_genuine {path : String} {items : List Payload} {keyed after : Keyed} (held : GenuineItems keyed.result)
    (genuine : GenuineItems items) (did : keyedHigher path items keyed = .ok after) : GenuineItems after.result := by
  induction items generalizing keyed with
  | nil =>
    rw [keyedHigher,pure_ok] at did
    exact did ▸ held
  | cons item rest ih =>
    simp only [keyedHigher,bind_ok] at did
    obtain ⟨identifier,_,did⟩ := did
    split at did
    · rename_i index _
      rw [bind_ok] at did
      obtain ⟨merged,nestedly,did⟩ := did
      have lower : ((keyed.result[index]?).getD .null).Genuine := by
        cases found : keyed.result[index]? with
        | none => trivial
        | some old => exact genuineItems_each.mp held old (List.mem_of_getElem? found)
      refine ih (genuineItems_each.mpr fun other member => ?_) genuine.2 did
      rcases List.mem_or_eq_of_mem_set member with old | rfl
      · exact genuineItems_each.mp held other old
      · exact merged_genuine item lower genuine.1 nestedly
    · refine ih (genuineItems_each.mpr fun other member => ?_) genuine.2 did
      rcases List.mem_append.mp member with old | new
      · exact genuineItems_each.mp held other old
      · rw [List.mem_singleton.mp new]
        exact genuine.1

theorem extensions_genuine {entries : List (String × ExtensionValue)} {inherited result : Entries}
    (held : (Payload.map inherited).Genuine) (genuine : ∀ key value, (key,.plain value) ∈ entries → value.Genuine)
    (did : extensionEntries inherited entries = .ok result) : (Payload.map result).Genuine := by
  induction entries generalizing inherited with
  | nil =>
    rw [extensionEntries,pure_ok] at did
    exact did ▸ held
  | cons entry rest ih =>
    obtain ⟨name,value⟩ := entry
    have later : ∀ key value, (key,.plain value) ∈ rest → value.Genuine :=
      fun key value member => genuine key value (List.mem_cons_of_mem _ member)
    cases value with
    | delete =>
      simp only [extensionEntries,check_ok] at did
      refine ih ⟨held.1.sublist (List.Sublist.map _ (List.filter_sublist ..)),?_⟩ later did.2
      exact genuineEntries_each.mpr fun entry member => genuineEntries_each.mp held.2 entry (List.mem_of_mem_filter member)
    | plain value =>
      have here : value.Genuine := genuine name value (List.mem_cons_self ..)
      rw [extensionEntries] at did
      split at did
      · rename_i found inside
        rw [bind_ok] at did
        obtain ⟨merged,nestedly,did⟩ := did
        exact ih (assign_genuine held name (merged_genuine value (lookup_genuine held inside) here nestedly)) later did
      · exact ih (assign_genuine held name here) later did

theorem patched_genuine {field : PatchField} {lower : Option Payload} {higher : PatchValue} {value : Payload}
    (held : ∀ old, lower = some old → old.Genuine) (genuine : higher.Genuine)
    (did : mergePatchValue field lower higher = .ok value) : value.Genuine := by
  cases higher with
  | extensions entries =>
    have entered : ∀ {inherited}, (Payload.map inherited).Genuine →
        Payload.map <$> extensionEntries inherited entries = .ok value → value.Genuine := by
      intro inherited held did
      cases result : extensionEntries inherited entries with
      | error _ => rw [result] at did; cases did
      | ok written =>
        rw [result] at did
        cases did
        exact extensions_genuine held genuine.2 result
    have empty : (Payload.map []).Genuine := ⟨List.nodup_nil,trivial⟩
    simp only [mergePatchValue,mergeExtensions] at did
    split at did
    · exact entered empty did
    · exact entered empty did
    · exact entered (held _ rfl) did
    · simp at did
  | plain higher =>
    cases lower with
    | none =>
      rw [mergePatchValue,pure_ok] at did
      exact did ▸ genuine
    | some lower =>
      simp only [mergePatchValue,mergeField] at did
      split at did
      · have each : ∀ {value : Payload}, value.Genuine → GenuineItems value.items := by
          intro value genuine
          cases value <;> first | exact genuine | trivial
        cases joined : mergeKeyedList lower.items higher.items field.name with
        | error _ => rw [joined] at did; cases did
        | ok result =>
          rw [joined] at did
          cases did
          simp only [mergeKeyedList,bind_ok,pure_ok] at joined
          obtain ⟨indexed,first,keyed,second,rfl⟩ := joined
          have start := keyedLower_genuine (by trivial) (each (held _ rfl)) first
          exact keyedHigher_genuine start (each genuine) second
      · exact merged_genuine higher (held _ rfl) genuine did

variable {p : Platform} {order : SetOrder} {r : Resolution} {layers : List (ConfigurationLayer p)}
  {seen : List ConfigurationLayerScope} {merged after : Merged}

theorem layers_genuine (held : ∀ field value, merged field = some value → value.Genuine)
    (did : mergeLayers order r layers seen merged = .ok after) : ∀ field value, after field = some value → value.Genuine := by
  induction layers generalizing seen merged with
  | nil =>
    rw [mergeLayers,pure_ok] at did
    exact did ▸ held
  | cons layer rest ih =>
    simp only [mergeLayers,bind_ok,patch_merged] at did
    obtain ⟨_,_,between,patched,did⟩ := did
    refine ih (fun field value found => ?_) did
    have here := patched field
    unfold Patched at here
    split at here
    · rename_i higher set
      obtain ⟨written,wrote,same⟩ := here
      rw [found] at same
      cases same
      exact patched_genuine (held field) (layer.genuine field higher set) wrote
    · exact held field value (here ▸ found)

end SwapMonitor.Configuration
