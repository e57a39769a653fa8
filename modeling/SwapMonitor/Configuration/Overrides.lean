import SwapMonitor.Configuration.Paths
import SwapMonitor.Configuration.Resolver

namespace SwapMonitor.Configuration

-- What a field of a patch says about a path below it. A deleted key is absent with all that was
-- inherited under it.
def PatchValue.setting : PatchValue → List String → Option (Option Payload)
  | .plain value,keys => value.setting keys
  | .extensions _,[] => some (some (.map []))
  | .extensions entries,key :: keys => match entries.lookup key with
    | some (.plain value) => value.setting keys
    | some .delete => some none
    | none => none

def LayerPatch.setting (patch : LayerPatch) (field : PatchField) (keys : List String) : Option (Option Payload) :=
  (patch.get field).bind (·.setting keys)

theorem lookup_deleted (entries : Entries) (name key : String) :
    (entries.filter fun entry => entry.1 != name).lookup key = if key = name then none else entries.lookup key := by
  induction entries with
  | nil => simp
  | cons entry rest ih =>
    obtain ⟨other,value⟩ := entry
    by_cases deleted : other = name
    · subst deleted
      by_cases same : key = other
      · simpa [same] using ih
      · have apart : (key == other) = false := by simpa using same
        simpa [List.lookup_cons,apart,same] using ih
    · have kept : (other != name) = true := by simpa using deleted
      rw [List.filter_cons_of_pos (by simpa using kept),List.lookup_cons,List.lookup_cons]
      by_cases same : key = other
      · subst same
        simp [deleted]
      · have apart : (key == other) = false := by simpa using same
        rw [apart]
        exact ih

theorem extension_said (name : String) (value : ExtensionValue) (rest : List (String × ExtensionValue)) (key : String)
    (keys : List String) : (PatchValue.extensions ((name,value) :: rest)).setting (key :: keys) =
      if key = name then (match value with | .plain value => value.setting keys | .delete => some none)
      else (PatchValue.extensions rest).setting (key :: keys) := by
  by_cases same : key = name
  · subst same
    cases value <;> simp [PatchValue.setting]
  · have apart : (key == name) = false := by simpa using same
    simp [PatchValue.setting,List.lookup_cons,apart,same]

theorem extension_silent {entries : List (String × ExtensionValue)} {key : String} (absent : key ∉ entries.map Prod.fst)
    (keys : List String) : (PatchValue.extensions entries).setting (key :: keys) = none := by
  have unknown : entries.lookup key = none := by
    rw [List.lookup_eq_none_iff]
    intro entry member
    have apart : key ≠ entry.1 := fun same => absent (same ▸ List.mem_map_of_mem member)
    simpa using apart
  simp [PatchValue.setting,unknown]

theorem extensions_outline {entries : List (String × ExtensionValue)} (genuine : (PatchValue.extensions entries).Genuine)
    {inherited result : Entries} (did : extensionEntries inherited entries = .ok result) (key : String) (keys : List String) :
    outline ((Payload.map result).at (key :: keys)) =
      override (outline ((Payload.map inherited).at (key :: keys))) ((PatchValue.extensions entries).setting (key :: keys)) := by
  induction entries generalizing inherited with
  | nil =>
    rw [extensionEntries,pure_ok] at did
    rw [did]
    rfl
  | cons entry rest ih =>
    obtain ⟨name,value⟩ := entry
    obtain ⟨distinct,each⟩ := genuine
    rw [List.map_cons,List.nodup_cons] at distinct
    have later : (PatchValue.extensions rest).Genuine :=
      ⟨distinct.2,fun key value member => each key value (List.mem_cons_of_mem _ member)⟩
    have silent : key = name → (PatchValue.extensions rest).setting (key :: keys) = none :=
      fun same => extension_silent (same ▸ distinct.1) keys
    rw [extension_said]
    cases value with
    | delete =>
      simp only [extensionEntries,check_ok] at did
      rw [ih later did.2]
      by_cases same : key = name
      · have removed : (Payload.map (inherited.filter fun entry => entry.1 != name)).at (key :: keys) = none := by
          simp [Payload.at,lookup_deleted,same]
        rw [silent same,if_pos same,removed]
        rfl
      · have kept : (Payload.map (inherited.filter fun entry => entry.1 != name)).at (key :: keys) =
            (Payload.map inherited).at (key :: keys) := by
          simp [Payload.at,lookup_deleted,same]
        rw [if_neg same,kept]
    | plain value =>
      rw [extensionEntries] at did
      split at did
      · rename_i found inside
        rw [bind_ok] at did
        obtain ⟨merged,nestedly,did⟩ := did
        rw [ih later did,assign_at]
        by_cases same : key = name
        · have below : (Payload.map inherited).at (key :: keys) = found.at keys := by simp [Payload.at,same,inside]
          rw [silent same,if_pos same,if_pos same,below]
          exact merged_outline value (each name value (List.mem_cons_self ..)) nestedly keys
        · rw [if_neg same,if_neg same]
      · rename_i absent
        rw [ih later did,assign_at]
        by_cases same : key = name
        · have below : (Payload.map inherited).at (key :: keys) = none := by simp [Payload.at,same,absent]
          rw [silent same,if_pos same,if_pos same,below]
          exact alone_outline value keys
        · rw [if_neg same,if_neg same]

theorem extensions_merged {lower : Option Payload} {entries : List (String × ExtensionValue)} {merged : Payload}
    (genuine : (PatchValue.extensions entries).Genuine) (did : mergeExtensions lower entries = .ok merged)
    (keys : List String) : outline (merged.at keys) =
      override (outline (lower.bind (·.at keys))) ((PatchValue.extensions entries).setting keys) := by
  have entered : ∀ inherited, Payload.map <$> extensionEntries inherited entries = .ok merged →
      (∀ key keys, outline ((Payload.map inherited).at (key :: keys)) = outline (lower.bind (·.at (key :: keys)))) →
      outline (merged.at keys) = override (outline (lower.bind (·.at keys))) ((PatchValue.extensions entries).setting keys) := by
    intro inherited did below
    cases result : extensionEntries inherited entries with
    | error _ => rw [result] at did; cases did
    | ok written =>
      rw [result] at did
      cases did
      cases keys with
      | nil => rfl
      | cons key keys =>
        rw [extensions_outline genuine result,below]
  unfold mergeExtensions at did
  split at did
  · exact entered [] did fun _ _ => rfl
  · exact entered [] did fun _ _ => rfl
  · exact entered _ did fun _ _ => rfl
  · simp at did

-- What a patch makes of a field it sets, where the field is not keyed.
theorem patched_outline {field : PatchField} {lower : Option Payload} {higher : PatchValue} {value : Payload}
    (plain : field ≠ .keyedItems) (genuine : higher.Genuine) (did : mergePatchValue field lower higher = .ok value)
    (keys : List String) : outline (value.at keys) = override (outline (lower.bind (·.at keys))) (higher.setting keys) := by
  cases higher with
  | extensions entries => exact extensions_merged genuine did keys
  | plain higher =>
    cases lower with
    | none =>
      rw [mergePatchValue,pure_ok] at did
      rw [← did]
      exact alone_outline higher keys
    | some lower =>
      simp only [mergePatchValue,mergeField,plain,false_and,if_false] at did
      exact merged_outline higher genuine did keys

-- A field after a patch: merged when the patch sets it, and else what it was.
def Patched (patch : LayerPatch) (merged : Merged) (field : PatchField) (after : Option Payload) : Prop :=
  match patch.get field with
  | some higher => ∃ value, mergePatchValue field (merged field) higher = .ok value ∧ after = some value
  | none => after = merged field

theorem mem_fieldsSet {patch : LayerPatch} {field : PatchField} : field ∈ patch.fieldsSet ↔ (patch.get field).isSome := by
  have declared : field ∈ patchFields := by cases field <;> decide
  simp [LayerPatch.fieldsSet,declared]

theorem fieldsSet_nodup (patch : LayerPatch) : patch.fieldsSet.Nodup := List.Nodup.filter _ (by decide)

-- The fields are merged one by one and do not meet, so their order does not matter.
theorem mergePatch_fields {patch : LayerPatch} {fields : List PatchField} (distinct : fields.Nodup) {merged after : Merged} :
    mergePatch patch fields merged = .ok after ↔
      ∀ field, if field ∈ fields then Patched patch merged field (after field) else after field = merged field := by
  induction fields generalizing merged with
  | nil =>
    rw [mergePatch,pure_ok,funext_iff]
    simp only [List.not_mem_nil,if_false,eq_comm]
  | cons field rest ih =>
    rw [List.nodup_cons] at distinct
    have kept : ∀ {other}, other ∈ rest → ∀ value, Function.update merged field value other = merged other := by
      intro other member value
      have apart : other ≠ field := fun same => distinct.1 (same ▸ member)
      exact Function.update_of_ne apart ..
    rw [mergePatch]
    cases set : patch.get field with
    | none =>
      simp only [ih distinct.2,List.mem_cons]
      refine forall_congr' fun other => ?_
      by_cases same : other = field
      · subst same
        simp [distinct.1,Patched,set]
      · simp [same]
    | some higher =>
      simp only [bind_ok,ih distinct.2,List.mem_cons]
      constructor
      · rintro ⟨value,did,each⟩ other
        have here := each other
        by_cases same : other = field
        · subst same
          simp only [distinct.1,if_false,Function.update_self] at here
          simp only [true_or,if_true,Patched,set]
          exact ⟨value,did,here⟩
        · by_cases later : other ∈ rest
          · simp only [later,or_true,if_true,Patched,kept later] at here ⊢
            exact here
          · simp only [later,same,or_false,if_false,Function.update_of_ne same] at here ⊢
            exact here
      · intro each
        have here := each field
        simp only [true_or,if_true,Patched,set] at here
        obtain ⟨value,did,written⟩ := here
        refine ⟨value,did,fun other => ?_⟩
        have there := each other
        by_cases same : other = field
        · subst same
          simp only [distinct.1,if_false,Function.update_self]
          exact written
        · by_cases later : other ∈ rest
          · simp only [later,or_true,if_true,Patched,kept later] at there ⊢
            exact there
          · simp only [later,same,or_false,if_false,Function.update_of_ne same] at there ⊢
            exact there

theorem patch_merged (order : SetOrder) (patch : LayerPatch) (merged after : Merged) :
    mergePatch patch (order.iterate patch.fieldsSet) merged = .ok after ↔ ∀ field, Patched patch merged field (after field) := by
  have all := order.all patch.fieldsSet
  rw [mergePatch_fields (all.nodup_iff.mpr (fieldsSet_nodup patch))]
  refine forall_congr' fun field => ?_
  simp only [all.mem_iff,mem_fieldsSet]
  cases set : patch.get field with
  | none => simp [Patched,set]
  | some higher => simp [Patched,set]

end SwapMonitor.Configuration
