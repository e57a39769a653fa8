import SwapMonitor.Configuration.KeyedItems
import SwapMonitor.Configuration.Normalization
import SwapMonitor.Configuration.Overrides

namespace SwapMonitor.Configuration
open Collections

variable {p : Platform} {order other : SetOrder} {r : Resolution} {layers : List (ConfigurationLayer p)}
  {seen : List ConfigurationLayerScope} {merged after : Merged}

-- The outcome of a merge does not depend on how the sets of fields are iterated.
theorem mergeLayers_any (order other : SetOrder) : mergeLayers order r layers seen merged = .ok after ↔
    mergeLayers other r layers seen merged = .ok after := by
  induction layers generalizing seen merged with
  | nil => rfl
  | cons layer rest ih => simp only [mergeLayers,bind_ok,patch_merged,ih]

theorem resolve_any (order other : SetOrder) (snapshot : ResolvedConfigurationSnapshot) :
    resolve order r layers = .ok snapshot ↔ resolve other r layers = .ok snapshot := by
  simp only [resolve,bind_ok,mergeLayers_any order other]

theorem override_or (below : Outline) (lower higher : Option (Option Payload)) :
    override (override below lower) higher = override below (higher.or lower) := by
  cases higher <;> rfl

theorem patched_field {patch : LayerPatch} {field : PatchField} {value : Option Payload} (genuine : patch.Genuine)
    (plain : field ≠ .keyedItems) (patched : Patched patch merged field value) (keys : List String) :
    outline (value.bind (·.at keys)) = override (outline ((merged field).bind (·.at keys))) (patch.setting field keys) := by
  unfold Patched at patched
  unfold LayerPatch.setting
  cases set : patch.get field with
  | none =>
    rw [set] at patched
    rw [patched]
    rfl
  | some higher =>
    rw [set] at patched
    obtain ⟨written,did,rfl⟩ := patched
    exact patched_outline plain (genuine field higher set) did keys

-- Of the layers that say something about a path, the last one counts.
theorem layers_outline (did : mergeLayers order r layers seen merged = .ok after) {field : PatchField}
    (plain : field ≠ .keyedItems) (keys : List String) :
    outline ((after field).bind (·.at keys)) = override (outline ((merged field).bind (·.at keys)))
      (layers.reverse.findSome? fun layer => layer.patch.setting field keys) := by
  induction layers generalizing seen merged with
  | nil =>
    rw [mergeLayers,pure_ok] at did
    rw [did]
    rfl
  | cons layer rest ih =>
    simp only [mergeLayers,bind_ok,patch_merged] at did
    obtain ⟨_,_,between,patched,did⟩ := did
    rw [ih did,patched_field layer.genuine plain (patched field),override_or,List.reverse_cons,List.findSome?_append]
    congr 2
    cases here : layer.patch.setting field keys <;> simp [here]

-- The keyed entries of a patch, their identifiers and what each says about a path below it.
def LayerPatch.entries (patch : LayerPatch) : List Payload := (patch.keyedItems.getD []).map .map

def LayerPatch.keyedIds (patch : LayerPatch) : List String := (patch.keyedItems.getD []).filterMap entryId

def LayerPatch.keyedSetting (patch : LayerPatch) (identifier : String) (keys : List String) : Option (Option Payload) :=
  saidOf patch.entries identifier keys

theorem unique_labelled {items : List Entries} {identifiers : List String}
    (did : requireUniqueKeyedEntries items identifiers = .ok ()) :
    Labelled (items.map .map) (items.filterMap entryId) ∧ ∀ label ∈ items.filterMap entryId, label ∉ identifiers := by
  induction items generalizing identifiers with
  | nil => exact ⟨⟨rfl,List.nodup_nil⟩,fun _ none_there => absurd none_there List.not_mem_nil⟩
  | cons item rest ih =>
    rw [requireUniqueKeyedEntries] at did
    split at did
    · simp at did
    · rename_i label named
      simp only [bind_ok,raiseIf_ok,decide_eq_false_iff_not,exists_const] at did
      obtain ⟨_,new,did⟩ := did
      obtain ⟨labelled,fresh⟩ := ih did
      have known : (Payload.map item).identifier = some label := named
      rw [List.filterMap_cons_some named]
      refine ⟨⟨?_,?_⟩,?_⟩
      · rw [List.map_cons,List.map_cons,List.map_cons,known,labelled.named]
      · rw [List.nodup_cons]
        exact ⟨fun again => fresh label again (List.mem_cons_self ..),labelled.distinct⟩
      · intro other member seen
        rcases List.mem_cons.mp member with rfl | later
        · exact new seen
        · exact fresh other later (List.mem_cons_of_mem _ seen)

theorem patch_labelled (layer : ConfigurationLayer p) : Labelled layer.patch.entries layer.patch.keyedIds := by
  have valid := (layer_established layer).patch
  simp only [LayerPatch.validate,bind_ok] at valid
  obtain ⟨_,_,_,_,_,_,_,_,_,_,unique⟩ := valid
  exact (unique_labelled unique).1

def inherited (value : Option Payload) : List Payload := (value.map Payload.items).getD []

-- The keyed entries merged so far: which there are, and what each holds.
structure KeyedSo (value : Option Payload) (labels : List String)
    (settingOf : String → List String → Option (Option Payload)) : Prop where
  listed : value = none ∨ ∃ items, value = some (.list items)
  labelled : Labelled (inherited value) labels
  told : ∀ identifier keys, outline (entryAt (inherited value) identifier keys) = override .absent (settingOf identifier keys)

theorem patched_keyed (layer : ConfigurationLayer p) {value : Option Payload} {labels : List String}
    {settingOf : String → List String → Option (Option Payload)} (so : KeyedSo (merged .keyedItems) labels settingOf)
    (patched : Patched layer.patch merged .keyedItems value) :
    KeyedSo value (labels ++ layer.patch.keyedIds).eraseDups
      fun identifier keys => (layer.patch.keyedSetting identifier keys).or (settingOf identifier keys) := by
  have labelled := patch_labelled layer
  cases set : layer.patch.keyedItems with
  | none =>
    have unset : layer.patch.get .keyedItems = none := by simp [LayerPatch.get,set]
    have nothing : layer.patch.entries = [] := by simp [LayerPatch.entries,set]
    have unnamed : layer.patch.keyedIds = [] := by simp [LayerPatch.keyedIds,set]
    simp only [Patched,unset] at patched
    rw [patched,unnamed,List.append_nil,eraseDups_fresh so.labelled.distinct]
    refine ⟨so.listed,so.labelled,fun identifier keys => ?_⟩
    have silent : layer.patch.keyedSetting identifier keys = none := by
      rw [LayerPatch.keyedSetting,nothing]
      rfl
    rw [silent]
    exact so.told identifier keys
  | some items =>
    have listed : layer.patch.get .keyedItems = some (.plain (dicts items)) := by simp [LayerPatch.get,set]
    have whole : layer.patch.entries = items.map .map := by simp [LayerPatch.entries,set]
    have genuine : ∀ item ∈ layer.patch.entries, item.Genuine := by
      have held := layer.genuine .keyedItems _ listed
      rw [whole]
      exact genuineItems_each.mp held
    simp only [Patched,listed] at patched
    obtain ⟨written,did,rfl⟩ := patched
    rcases so.listed with absent | ⟨lower,present⟩
    · have before := so.labelled
      rw [absent] at did before
      rw [mergePatchValue,pure_ok] at did
      subst did
      have empty : labels = [] := List.map_eq_nil_iff.mp before.named.symm
      have here : inherited (some (dicts items)) = layer.patch.entries := whole.symm
      rw [empty,List.nil_append,eraseDups_fresh labelled.distinct]
      refine ⟨.inr ⟨_,rfl⟩,here.symm ▸ labelled,fun identifier keys => ?_⟩
      have told := so.told identifier keys
      rw [absent] at told
      rw [here,entry_alone,← override_or,← told]
      rfl
    · rw [present] at did
      have merging : mergePatchValue .keyedItems (some (.list lower)) (.plain (dicts items)) =
          Payload.list <$> mergeKeyedList lower layer.patch.entries PatchField.keyedItems.name := by
        rw [whole]
        rfl
      rw [merging] at did
      cases joined : mergeKeyedList lower layer.patch.entries PatchField.keyedItems.name with
      | error _ => rw [joined] at did; cases did
      | ok result =>
        rw [joined] at did
        cases did
        have held : inherited (merged .keyedItems) = lower := by rw [present]; rfl
        obtain ⟨kept,each⟩ := mergeKeyedList_sound (held ▸ so.labelled) labelled genuine joined
        refine ⟨.inr ⟨_,rfl⟩,kept,fun identifier keys => ?_⟩
        have told := so.told identifier keys
        rw [held] at told
        rw [← override_or,← told]
        exact each identifier keys

theorem layers_keyed (did : mergeLayers order r layers seen merged = .ok after) {labels : List String}
    {settingOf : String → List String → Option (Option Payload)} (so : KeyedSo (merged .keyedItems) labels.eraseDups settingOf) :
    KeyedSo (after .keyedItems) (labels ++ layers.flatMap fun layer => layer.patch.keyedIds).eraseDups
      fun identifier keys => (layers.reverse.findSome? fun layer => layer.patch.keyedSetting identifier keys).or
        (settingOf identifier keys) := by
  induction layers generalizing seen merged labels settingOf with
  | nil =>
    rw [mergeLayers,pure_ok] at did
    subst did
    simpa using so
  | cons layer rest ih =>
    simp only [mergeLayers,bind_ok,patch_merged] at did
    obtain ⟨_,_,between,patched,did⟩ := did
    have step := patched_keyed layer so (patched .keyedItems)
    rw [eraseDups_again so.labelled.distinct] at step
    have run := ih did step
    rw [List.flatMap_cons,← List.append_assoc]
    simpa only [List.reverse_cons,List.findSome?_append,List.findSome?_singleton,Option.or_assoc] using run

theorem required_ok {fields : Merged} {field : PatchField} {value : Payload} :
    required fields field = .ok value ↔ fields field = some value := by
  unfold required
  split
  · rename_i found
    rw [found]
    simp
  · rename_i missing
    rw [missing]
    simp

theorem strictText_ok {value : Payload} {text : String} (did : strictText value = .ok text) : value = .str text := by
  cases value <;> simp [strictText] at did ⊢
  exact did

theorem strictOptionalText_ok {value : Payload} {text : Option String} (did : strictOptionalText value = .ok text) :
    value = optionalText text := by
  unfold strictOptionalText at did
  split at did
  · rw [pure_ok] at did
    rw [← did]
    rfl
  · cases found : strictText value with
    | error _ => rw [found] at did; cases did
    | ok read =>
      rw [found] at did
      cases did
      exact strictText_ok found

theorem strictDict_ok {value : Payload} {entries : Entries} (did : strictDict value = .ok entries) : value = .map entries := by
  cases value <;> simp [strictDict] at did ⊢
  exact did

theorem strictDicts_ok {value : Payload} {items : List Entries} (did : strictDicts value = .ok items) : value = dicts items := by
  have each : ∀ {values : List Payload} {items : List Entries}, values.mapM strictDict = .ok items → values = items.map .map := by
    intro values
    induction values with
    | nil =>
      intro items did
      rw [List.mapM_nil,pure_ok] at did
      rw [← did]
      rfl
    | cons value rest ih =>
      intro items did
      simp only [List.mapM_cons,bind_ok,pure_ok] at did
      obtain ⟨entries,first,others,second,rfl⟩ := did
      rw [strictDict_ok first,ih second,List.map_cons]
  cases value with
  | list values => exact congrArg Payload.list (each did)
  | _ => simp [strictDicts] at did

-- The resolved configuration holds what was merged.
theorem validated_fields {resolved : ResolvedConfiguration} (did : ResolvedConfiguration.modelValidate merged = .ok resolved)
    (field : PatchField) : ∃ value, merged field = some value ∧ resolved.dump.at [field.name] = some value := by
  simp only [ResolvedConfiguration.modelValidate,bind_ok,required_ok,pure_ok] at did
  obtain ⟨_,named,_,first,_,set,_,second,_,ruled,_,third,_,listed,_,fourth,_,extended,_,fifth,_,noted,_,sixth,_,_,_,_,_,_,
    _,_,_,_,rfl⟩ := did
  cases field with
  | configurationName => exact ⟨_,named,by rw [strictText_ok first]; rfl⟩
  | settings => exact ⟨_,set,by rw [strictDict_ok second]; rfl⟩
  | rules => exact ⟨_,ruled,by rw [strictDicts_ok third]; rfl⟩
  | keyedItems => exact ⟨_,listed,by rw [strictDicts_ok fourth]; rfl⟩
  | extensions => exact ⟨_,extended,by rw [strictDict_ok fifth]; rfl⟩
  | nullableNote => exact ⟨_,noted,by rw [strictOptionalText_ok sixth]; rfl⟩

theorem at_appended (value : Payload) (first : String) (keys : List String) :
    value.at (first :: keys) = (value.at [first]).bind (·.at keys) := by
  cases value with
  | map entries =>
    simp only [Payload.at]
    cases entries.lookup first <;> rfl
  | _ => rfl

-- What the last of the layers that say something says.
def deciding (layers : List (ConfigurationLayer p)) (settingOf : LayerPatch → Option (Option Payload)) : Option Payload :=
  (layers.reverse.findSome? fun layer => settingOf layer.patch).join

theorem override_absent (said : Option (Option Payload)) : override .absent said = outline said.join := by
  cases said <;> rfl

def LayerPatch.deletes (patch : LayerPatch) (key : String) : Prop :=
  (patch.extensions.getD []).lookup key = some .delete

-- The documented merge of the layers in order of precedence. Keyed entries are merged by their
-- identifiers; in every other field the highest layer that says something about a path decides it,
-- and a deletion hides all that is below.
structure Documented (layers : List (ConfigurationLayer p)) (snapshot : ResolvedConfigurationSnapshot) : Prop where
  parents : snapshot.parentVersions = layers.map fun layer => layer.parentVersion
  decided : ∀ field keys, field ≠ .keyedItems → outline (snapshot.payload.at (field.name :: keys)) =
    outline (deciding layers fun patch => patch.setting field keys)
  deleted : ∀ lower layer higher key keys, layers = lower ++ layer :: higher → layer.patch.deletes key →
    outline (snapshot.payload.at (PatchField.extensions.name :: key :: keys)) =
      outline (deciding higher fun patch => patch.setting .extensions (key :: keys))
  keyed : ∃ items, snapshot.payload.at [PatchField.keyedItems.name] = some (.tuple items) ∧
    Labelled items (layers.flatMap fun layer => layer.patch.keyedIds).eraseDups ∧
    ∀ identifier keys, outline (entryAt items identifier keys) =
      outline (deciding layers fun patch => patch.keyedSetting identifier keys)

theorem deletion_decides {lower higher : List (ConfigurationLayer p)} {layer : ConfigurationLayer p} {key : String}
    (deleted : layer.patch.deletes key) (keys : List String) :
    deciding (lower ++ layer :: higher) (fun patch => patch.setting .extensions (key :: keys)) =
      deciding higher fun patch => patch.setting .extensions (key :: keys) := by
  have said : layer.patch.setting .extensions (key :: keys) = some none := by
    unfold LayerPatch.deletes at deleted
    cases set : layer.patch.extensions with
    | none =>
      rw [set] at deleted
      cases deleted
    | some entries =>
      rw [set] at deleted
      have gone : entries.lookup key = some .delete := deleted
      simp [LayerPatch.setting,LayerPatch.get,set,PatchValue.setting,gone]
  unfold deciding
  rw [List.reverse_append,List.reverse_cons,List.findSome?_append,List.findSome?_append]
  cases higher.reverse.findSome? fun layer => layer.patch.setting .extensions (key :: keys) with
  | none => simp [said]
  | some _ => rfl

theorem merge_documented (did : mergeLayers order r layers [] (fun _ => none) = .ok merged)
    {resolved : ResolvedConfiguration} (valid : ResolvedConfiguration.modelValidate merged = .ok resolved)
    {snapshot : ResolvedConfigurationSnapshot} (payload : snapshot.payload = resolved.dump.freeze)
    (parents : snapshot.parentVersions = layers.map fun layer => layer.parentVersion) : Documented layers snapshot := by
  have decided : ∀ field keys, field ≠ .keyedItems → outline (snapshot.payload.at (field.name :: keys)) =
      outline (deciding layers fun patch => patch.setting field keys) := by
    intro field keys plain
    obtain ⟨value,held,there⟩ := validated_fields valid field
    have told := layers_outline did plain keys
    rw [payload,freeze_at,freeze_outline,at_appended,there]
    rw [held] at told
    exact told.trans (override_absent _)
  refine ⟨parents,decided,?_,?_⟩
  · intro lower layer higher key keys split deletes
    rw [decided .extensions (key :: keys) (by simp),split,deletion_decides deletes]
  · obtain ⟨value,held,there⟩ := validated_fields valid .keyedItems
    have nothing : KeyedSo none ([] : List String).eraseDups fun _ _ => none :=
      ⟨.inl rfl,⟨rfl,List.nodup_nil⟩,fun _ _ => rfl⟩
    obtain ⟨listed,labelled,told⟩ := layers_keyed did nothing
    rw [held] at listed labelled told
    rcases listed with absent | ⟨items,present⟩
    · cases absent
    · rw [Option.some.inj present] at there labelled told
      refine ⟨items.map Payload.freeze,?_,labelled_frozen labelled,fun identifier keys => ?_⟩
      · rw [payload,freeze_at,there,Option.map_some,Payload.freeze,freeze_items]
      · rw [entry_frozen,freeze_outline]
        have here := told identifier keys
        rw [override_absent,Option.or_none] at here
        exact here

theorem precedence_strict {layers : List (ConfigurationLayer p)} (distinct : (layers.map fun layer => layer.scope).Nodup) :
    (sortBy (fun layer : ConfigurationLayer p => layer.scope.precedence) layers).Pairwise
      fun lower higher => lower.scope.precedence < higher.scope.precedence := by
  have ordered := sortBy_ordered (fun layer : ConfigurationLayer p => layer.scope.precedence) layers
  have apart : (sortBy (fun layer : ConfigurationLayer p => layer.scope.precedence) layers).Pairwise
      fun lower higher => lower.scope ≠ higher.scope := by
    have nodup := ((sortBy_perm (fun layer : ConfigurationLayer p => layer.scope.precedence) layers).map
      fun layer => layer.scope).nodup_iff.mpr distinct
    exact List.pairwise_map.mp nodup
  exact ordered.imp₂ (fun _ _ low different => lt_of_le_of_ne low fun same => different (precedence_injective same)) apart

theorem resolution_documented (distinct : (layers.map fun layer => layer.scope).Nodup) :
    (∀ order other permuted snapshot, layers.Perm permuted →
      (resolve order r layers = .ok snapshot ↔ resolve other r permuted = .ok snapshot)) ∧
    ∀ order snapshot, resolve order r layers = .ok snapshot → ∃ ordered : List (ConfigurationLayer p), ordered.Perm layers ∧
      ordered.Pairwise (fun lower higher => lower.scope.precedence < higher.scope.precedence) ∧
      Documented ordered snapshot := by
  constructor
  · intro order other permuted snapshot same
    have ranks : (layers.map fun layer => layer.scope.precedence).Nodup := by
      have nodup := List.Nodup.map (fun _ _ => precedence_injective) distinct
      rwa [List.map_map] at nodup
    rw [resolve_any order other]
    unfold resolve
    rw [sortBy_same ranks same]
  · intro order snapshot did
    simp only [resolve,bind_ok,pure_ok] at did
    obtain ⟨_,_,merged,merging,resolved,valid,_,_,_,_,rfl⟩ := did
    exact ⟨_,sortBy_perm _ layers,precedence_strict distinct,merge_documented merging valid rfl rfl⟩

-- A hash that tells all texts apart.
def textDigest (text : String) : Digest := text.toList.foldl (fun code letter => code * 1114113 + letter.toNat + 1) 0

def samplePlatform : Platform where
  toUnicodeData := composed
  sha256 := textDigest

def sampleLayer (scope : ConfigurationLayerScope) (ownership : Ownership) (patch : LayerPatch) : LayerFields where
  scope := scope
  patch := patch
  referenceId := 1
  version := 1
  contentHash := ((canonicalContentHash samplePlatform patch.dump CANONICAL_FORMAT_VERSION).toOption).getD 0
  ownership := ownership

def sampleDefaults : LayerPatch where
  configurationName := some "a"
  settings := some [("lots",.map [("limit",.int 1),("odd",.null)])]
  rules := some []
  keyedItems := some [[("id",.str "b")]]
  extensions := some [("memo",.plain (.int 7))]
  nullableNote := some none

def sampleOverrides : LayerPatch where
  settings := some [("lots",.map [("limit",.int 2)])]
  extensions := some [("memo",.delete)]

theorem sampleDefaults_genuine : sampleDefaults.Genuine := by
  intro field value set
  cases field <;> cases set
  all_goals simp [PatchValue.Genuine,dicts,Payload.Genuine,GenuineItems,GenuineEntries,optionalText]

theorem sampleOverrides_genuine : sampleOverrides.Genuine := by
  intro field value set
  cases field <;> cases set
  all_goals simp [PatchValue.Genuine,Payload.Genuine,GenuineEntries]

theorem sampleOverrides_accepted : (sampleLayer .user (.user 5) sampleOverrides).postInit samplePlatform = .ok () := by decide +kernel

def sampleLayers : List (ConfigurationLayer samplePlatform) :=
  [⟨sampleLayer .user (.user 5) sampleOverrides,sampleOverrides_genuine,sampleOverrides_accepted⟩,
    ⟨sampleLayer .system .system sampleDefaults,sampleDefaults_genuine,by decide +kernel⟩]

def sampleResolution : Resolution where
  maximumRuntimeTtl := 60
  accessContext := ⟨5,false⟩
  createdBy := 5
  createdAt := 0
  now := 0
  runDeadline := 30

theorem resolution_documented_sample : ∃ snapshot ordered,
    resolve ⟨id,fun _ => .refl _⟩ sampleResolution sampleLayers = .ok snapshot ∧ ordered.Perm sampleLayers ∧
      ordered.Pairwise (fun lower higher => lower.scope.precedence < higher.scope.precedence) ∧
      Documented ordered snapshot := by
  have resolves : (resolve ⟨id,fun _ => .refl _⟩ sampleResolution sampleLayers).toOption.isSome = true := by decide +kernel
  cases did : resolve ⟨id,fun _ => .refl _⟩ sampleResolution sampleLayers with
  | error _ => rw [did] at resolves; cases resolves
  | ok snapshot =>
    obtain ⟨ordered,parts⟩ := (resolution_documented (by decide)).2 _ snapshot did
    exact ⟨snapshot,ordered,rfl,parts⟩

end SwapMonitor.Configuration
