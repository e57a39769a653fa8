import SwapMonitor.Configuration.Genuineness
import SwapMonitor.Persistence.ConfigurationSnapshots

namespace SwapMonitor.Configuration
open Clocks Collections

theorem Reshapes.after {outer inner : Payload → Payload} (last : Reshapes outer) (first : Reshapes inner) :
    Reshapes fun value => outer (inner value) where
  maps entries := by rw [first.maps,last.maps,List.map_map]; rfl
  lists items := by
    rcases first.lists items with same | same <;> rw [same]
    · rcases last.lists (items.map inner) with again | again <;> rw [again,List.map_map]
      · exact .inl rfl
      · exact .inr rfl
    · rcases last.tuples (items.map inner) with again | again <;> rw [again,List.map_map]
      · exact .inl rfl
      · exact .inr rfl
  tuples items := by
    rcases first.tuples items with same | same <;> rw [same]
    · rcases last.lists (items.map inner) with again | again <;> rw [again,List.map_map]
      · exact .inl rfl
      · exact .inr rfl
    · rcases last.tuples (items.map inner) with again | again <;> rw [again,List.map_map]
      · exact .inl rfl
      · exact .inr rfl
  scalars value scalar := last.scalars _ (first.scalars value scalar)
  rendered value scalar u := (last.rendered _ (first.scalars value scalar) u).trans (first.rendered value scalar u)
  genuine value scalar genuine := last.genuine _ (first.scalars value scalar) (first.genuine value scalar genuine)
  texts value text named := last.texts _ text (first.texts value text named)
  plain text := by rw [first.plain,last.plain]
  absent := by rw [first.absent,last.absent]

-- The values of the fields, by which dump renders a configuration.
def ResolvedConfiguration.part (resolved : ResolvedConfiguration) : PatchField → Payload
  | .configurationName => .str resolved.configurationName
  | .settings => .map resolved.settings
  | .rules => dicts resolved.rules
  | .keyedItems => dicts resolved.keyedItems
  | .extensions => .map resolved.extensions
  | .nullableNote => optionalText resolved.nullableNote

theorem dump_parts (resolved : ResolvedConfiguration) :
    resolved.dump = .map (patchFields.map fun field => (field.name,resolved.part field)) := rfl

-- What the validators of the fields and of the whole ask of a configuration.
structure ResolvedConfiguration.Sound (resolved : ResolvedConfiguration) : Prop where
  settings : rejectDeleteOperations (.map resolved.settings) = .ok ()
  rules : rejectDeleteOperations (dicts resolved.rules) = .ok ()
  keyedItems : rejectDeleteOperations (dicts resolved.keyedItems) = .ok ()
  extensions : rejectDeleteOperations (.map resolved.extensions) = .ok ()
  unique : requireUniqueKeyedEntries resolved.keyedItems [] = .ok ()

theorem strictDicts_dicts (items : List Entries) : strictDicts (dicts items) = .ok items := by
  have each : (items.map Payload.map).mapM strictDict = .ok items := by
    induction items with
    | nil => rfl
    | cons item rest ih =>
      rw [List.map_cons,List.mapM_cons,ih]
      rfl
  exact each

theorem strictOptionalText_text (text : Option String) : strictOptionalText (optionalText text) = .ok text := by
  cases text <;> rfl

-- A configuration is what validation makes of its fields exactly when it meets the validators.
theorem modelValidate_exact {fields : Merged} {resolved : ResolvedConfiguration} :
    ResolvedConfiguration.modelValidate fields = .ok resolved ↔
      (∀ field, fields field = some (resolved.part field)) ∧ resolved.Sound := by
  simp only [ResolvedConfiguration.modelValidate,bind_ok,required_ok,pure_ok]
  constructor
  · intro parts
    obtain ⟨_,named,_,first,_,set,_,second,_,ruled,_,third,_,listed,_,fourth,_,extended,_,fifth,_,noted,_,sixth,_,settings,_,
      rules,_,keyed,_,extensions,_,unique,same⟩ := parts
    subst same
    refine ⟨fun field => ?_,settings,rules,keyed,extensions,unique⟩
    cases field with
    | configurationName => rw [named,strictText_ok first]; rfl
    | settings => rw [set,strictDict_ok second]; rfl
    | rules => rw [ruled,strictDicts_ok third]; rfl
    | keyedItems => rw [listed,strictDicts_ok fourth]; rfl
    | extensions => rw [extended,strictDict_ok fifth]; rfl
    | nullableNote => rw [noted,strictOptionalText_ok sixth]; rfl
  · intro parts
    obtain ⟨held,sound⟩ := parts
    exact ⟨_,held .configurationName,_,rfl,_,held .settings,_,rfl,_,held .rules,_,strictDicts_dicts _,_,held .keyedItems,_,
      strictDicts_dicts _,_,held .extensions,_,rfl,_,held .nullableNote,_,strictOptionalText_text _,(),sound.settings,(),
      sound.rules,(),sound.keyedItems,(),sound.extensions,(),sound.unique,rfl⟩

theorem dump_lookup (resolved : ResolvedConfiguration) (field : PatchField) :
    (patchFields.map fun field => (field.name,resolved.part field)).lookup field.name = some (resolved.part field) := by
  cases field <;> rfl

theorem ofPayload_dump {resolved other : ResolvedConfiguration} :
    ResolvedConfiguration.ofPayload resolved.dump = .ok other ↔ other = resolved ∧ resolved.Sound := by
  have known : ((patchFields.map fun field => (field.name,resolved.part field)).any
      fun entry => !(patchFields.map PatchField.name).contains entry.1) = false := by
    rw [List.any_map]
    exact (by decide : (patchFields.any fun field => !(patchFields.map PatchField.name).contains field.name) = false)
  rw [dump_parts]
  simp only [ResolvedConfiguration.ofPayload,check_ok,raiseIf_ok,known,true_and,modelValidate_exact,dump_lookup,
    Option.some.injEq]
  constructor
  · intro held
    obtain ⟨same,sound⟩ := held
    have parts : other = resolved := by
      obtain ⟨name,settings,rules,keyed,extensions,note⟩ := other
      obtain ⟨name',settings',rules',keyed',extensions',note'⟩ := resolved
      have dictsInjective : ∀ {items others : List Entries}, dicts items = dicts others → items = others := by
        intro items others same
        injection same with same
        exact List.map_injective_iff.mpr (fun _ _ => Payload.map.inj) same
      have first := Payload.str.inj (same .configurationName)
      have second := Payload.map.inj (same .settings)
      have third := dictsInjective (same .rules)
      have fourth := dictsInjective (same .keyedItems)
      have fifth := Payload.map.inj (same .extensions)
      have sixth : note' = note := by
        have shown : optionalText note' = optionalText note := same .nullableNote
        cases note <;> cases note' <;> simp_all [optionalText]
      simp only at first second third fourth fifth
      rw [first,second,third,fourth,fifth,sixth]
    exact ⟨parts,parts ▸ sound⟩
  · intro held
    obtain ⟨same,sound⟩ := held
    subst same
    exact ⟨fun _ => rfl,sound⟩

def entriesBy (reshape : Payload → Payload) (entries : Entries) : Entries := entries.map fun entry => (entry.1,reshape entry.2)

def ResolvedConfiguration.reshaped (reshape : Payload → Payload) (resolved : ResolvedConfiguration) : ResolvedConfiguration where
  configurationName := resolved.configurationName
  settings := entriesBy reshape resolved.settings
  rules := resolved.rules.map (entriesBy reshape)
  keyedItems := resolved.keyedItems.map (entriesBy reshape)
  extensions := entriesBy reshape resolved.extensions
  nullableNote := resolved.nullableNote

section Reshaped
variable {reshape : Payload → Payload} (reshapes : Reshapes reshape)
  (listed : ∀ items, reshape (.list items) = .list (items.map reshape)) (resolved : ResolvedConfiguration)
include reshapes listed

theorem dicts_reshaped (items : List Entries) : reshape (dicts items) = dicts (items.map (entriesBy reshape)) := by
  rw [dicts,listed,dicts,List.map_map,List.map_map]
  congr 1
  exact List.map_congr_left fun entries _ => reshapes.maps entries

theorem part_reshaped (field : PatchField) : reshape (resolved.part field) = (resolved.reshaped reshape).part field := by
  cases field with
  | configurationName => exact reshapes.plain _
  | settings => exact reshapes.maps _
  | rules => exact dicts_reshaped reshapes listed _
  | keyedItems => exact dicts_reshaped reshapes listed _
  | extensions => exact reshapes.maps _
  | nullableNote =>
    simp only [ResolvedConfiguration.part,ResolvedConfiguration.reshaped]
    cases resolved.nullableNote with
    | none => exact reshapes.absent
    | some text => exact reshapes.plain text

theorem dump_reshaped : reshape resolved.dump = (resolved.reshaped reshape).dump := by
  rw [dump_parts,dump_parts,reshapes.maps,List.map_map]
  congr 1
  refine List.map_congr_left fun field _ => ?_
  rw [← part_reshaped reshapes listed]
  rfl

end Reshaped

theorem unique_reshaped {reshape : Payload → Payload} (reshapes : Reshapes reshape) {items : List Entries}
    {identifiers : List String} (unique : requireUniqueKeyedEntries items identifiers = .ok ()) :
    requireUniqueKeyedEntries (items.map (entriesBy reshape)) identifiers = .ok () := by
  induction items generalizing identifiers with
  | nil => rfl
  | cons item rest ih =>
    rw [requireUniqueKeyedEntries] at unique
    split at unique
    · simp at unique
    · rename_i identifier named
      have kept : entryId (entriesBy reshape item) = some identifier := entryId_reshaped reshapes named
      simp only [bind_ok,raiseIf_ok,exists_const] at unique
      obtain ⟨shown,fresh,unique⟩ := unique
      rw [List.map_cons,requireUniqueKeyedEntries,kept]
      simp only [bind_ok,raiseIf_ok,exists_const]
      exact ⟨shown,fresh,ih unique⟩

theorem dump_deletes (resolved : ResolvedConfiguration) : resolved.dump.holdsDelete = false ↔
    ∀ field, (resolved.part field).holdsDelete = false := by
  have keys : ((patchFields.map fun field => (field.name,resolved.part field)).map Prod.fst).contains deleteKey = false := by
    rw [List.map_map]
    exact (by decide : ((patchFields.map PatchField.name).contains deleteKey) = false)
  rw [dump_parts,Payload.holdsDelete,keys]
  simp only [patchFields,List.map_cons,List.map_nil,entriesHoldDelete,Bool.or_eq_false_iff,and_true,true_and]
  constructor
  · rintro ⟨name,settings,rules,keyed,extensions,note⟩ field
    cases field <;> assumption
  · intro each
    exact ⟨each _,each _,each _,each _,each _,each _⟩

-- What was frozen and perhaps read back from a row, as it is thawed for validation.
section Thawed
variable {reshape : Payload → Payload} (reshapes : Reshapes reshape) (resolved : ResolvedConfiguration)
include reshapes

theorem thawed_listed (items : List Payload) :
    (reshape (.list items)).thaw = .list (items.map fun item => (reshape item).thaw) := by
  rcases reshapes.lists items with same | same <;> rw [same,Payload.thaw,thawItems_map,List.map_map] <;> rfl

theorem thawed_sound (unique : requireUniqueKeyedEntries resolved.keyedItems [] = .ok ()) :
    (resolved.reshaped fun value => (reshape value).thaw).Sound ↔ resolved.dump.holdsDelete = false := by
  have whole := thaw_reshapes.after reshapes
  have rejects : ∀ field, rejectDeleteOperations ((resolved.reshaped fun value => (reshape value).thaw).part field) = .ok () ↔
      (resolved.part field).holdsDelete = false := by
    intro field
    rw [← part_reshaped whole (thawed_listed reshapes),thawed_rejects,deletes_reshaped reshapes]
  rw [dump_deletes]
  constructor
  · intro sound field
    cases field with
    | configurationName => rfl
    | settings => exact (rejects .settings).mp sound.settings
    | rules => exact (rejects .rules).mp sound.rules
    | keyedItems => exact (rejects .keyedItems).mp sound.keyedItems
    | extensions => exact (rejects .extensions).mp sound.extensions
    | nullableNote =>
      simp only [ResolvedConfiguration.part]
      cases resolved.nullableNote <;> rfl
  · intro each
    exact ⟨(rejects .settings).mpr (each _),(rejects .rules).mpr (each _),(rejects .keyedItems).mpr (each _),
      (rejects .extensions).mpr (each _),unique_reshaped whole unique⟩

end Thawed

variable (p : Platform)

-- A snapshot whose evidence is that of a configuration.
structure Evidenced (resolved : ResolvedConfiguration) (stored : ResolvedConfigurationSnapshot) : Prop where
  format : stored.canonicalFormatVersion = CANONICAL_FORMAT_VERSION
  rendered : canonicalJson p.toUnicodeData resolved.dump = .ok stored.canonicalJson
  hashed : canonicalContentHash p resolved.dump CANONICAL_FORMAT_VERSION = .ok stored.contentHash

variable {p}

theorem hash_reshaped {reshape : Payload → Payload} (reshapes : Reshapes reshape) (value : Payload) (format : String) :
    canonicalContentHash p (reshape value) format = canonicalContentHash p value format := by
  simp only [canonicalContentHash,canonicalJson,canonical_reshaped reshapes]

-- Restoring takes a snapshot back exactly when no directive has come to stand in a list.
theorem restore_exact {resolved : ResolvedConfiguration} {stored restored : ResolvedConfigurationSnapshot}
    {reshape : Payload → Payload} (reshapes : Reshapes reshape)
    (unique : requireUniqueKeyedEntries resolved.keyedItems [] = .ok ()) (evidenced : Evidenced p resolved stored)
    (payload : stored.payload = reshape resolved.dump) :
    restoreResolvedConfigurationSnapshot p stored = .ok restored ↔
      resolved.dump.holdsDelete = false ∧ restored = {stored with payload := stored.payload.freeze} := by
  have whole := thaw_reshapes.after reshapes
  have shape : stored.payload.thaw = (resolved.reshaped fun value => (reshape value).thaw).dump := by
    rw [payload]
    exact dump_reshaped whole (thawed_listed reshapes) resolved
  have sound := thawed_sound reshapes resolved unique
  have rendered : canonicalJson p.toUnicodeData stored.payload.thaw = .ok stored.canonicalJson := by
    rw [payload,canonicalJson,canonical_reshaped whole]
    exact evidenced.rendered
  have hashed : canonicalContentHash p stored.payload.thaw CANONICAL_FORMAT_VERSION = .ok stored.contentHash := by
    rw [payload,hash_reshaped whole]
    exact evidenced.hashed
  have frozen : stored.payload.thaw.freeze = stored.payload.freeze := freeze_thaw _
  rw [restoreResolvedConfigurationSnapshot,evidenced.format,check_ok]
  by_cases clean : resolved.dump.holdsDelete = false
  · obtain ⟨other,parsed,same⟩ : ∃ other, ResolvedConfiguration.ofPayload stored.payload.thaw = .ok other ∧
        other.dump = stored.payload.thaw := by
      rw [shape]
      exact ⟨_,ofPayload_dump.mpr ⟨rfl,sound.mpr clean⟩,rfl⟩
    simp only [parsed,same,rendered,hashed,frozen,clean,bind_ok,raiseIf_ok,pure_ok,Except.ok.injEq,exists_eq_left',
      exists_const,ne_eq,not_true,decide_false,true_and]
    exact eq_comm
  · have refused : ∀ other, ResolvedConfiguration.ofPayload stored.payload.thaw ≠ .ok other := by
      intro other parsed
      rw [shape] at parsed
      exact clean (sound.mp (ofPayload_dump.mp parsed).2)
    cases parsed : ResolvedConfiguration.ofPayload stored.payload.thaw with
    | error _ => simp [clean]
    | ok other => exact absurd parsed (refused other)

mutual
theorem regular_supported {u : UnicodeData} (value : Payload) (regular : value.Regular u) : value.Supported := by
  cases value with
  | enumMember typeName member => cases member <;> first | rfl | cases regular
  | foreign refused => cases regular
  | list items => exact regularItems_supported items regular
  | tuple items => exact regularItems_supported items regular
  | map entries => exact regularEntries_supported entries regular.2
  | _ => trivial

theorem regularItems_supported {u : UnicodeData} (items : List Payload) (regular : RegularItems u items) : SupportedItems items := by
  cases items with
  | nil => trivial
  | cons item rest => exact ⟨regular_supported item regular.1,regularItems_supported rest regular.2⟩

theorem regularEntries_supported {u : UnicodeData} (entries : Entries) (regular : RegularEntries u entries) :
    SupportedEntries entries := by
  cases entries with
  | nil => trivial
  | cons entry rest => exact ⟨regular_supported entry.2 regular.1,regularEntries_supported rest regular.2⟩
end

theorem dump_genuine {resolved : ResolvedConfiguration} (each : ∀ field, (resolved.part field).Genuine) : resolved.dump.Genuine := by
  rw [dump_parts]
  refine ⟨?_,genuineEntries_each.mpr fun entry member => ?_⟩
  · rw [List.map_map]
    exact (by decide : (patchFields.map PatchField.name).Nodup)
  · obtain ⟨field,_,rfl⟩ := List.mem_map.mp member
    exact each field

-- What a resolved snapshot is made of.
structure Made (resolved : ResolvedConfiguration) (layers : List (ConfigurationLayer p))
    (snapshot : ResolvedConfigurationSnapshot) : Prop extends Evidenced p resolved snapshot where
  payload : snapshot.payload = resolved.dump.freeze
  unique : requireUniqueKeyedEntries resolved.keyedItems [] = .ok ()
  genuine : resolved.dump.Genuine
  parents : ∀ parent ∈ snapshot.parentVersions, ∃ layer ∈ layers, parent.referenceId = layer.referenceId

variable {order : SetOrder} {r : Resolution} {layers : List (ConfigurationLayer p)} {snapshot : ResolvedConfigurationSnapshot}

theorem resolve_made (did : resolve order r layers = .ok snapshot) : ∃ resolved, Made resolved layers snapshot := by
  simp only [resolve,bind_ok,pure_ok] at did
  obtain ⟨_,_,merged,merging,resolved,valid,serialized,rendered,hash,hashed,rfl⟩ := did
  obtain ⟨fields,sound⟩ := modelValidate_exact.mp valid
  have held := layers_genuine (fun _ _ absent => by cases absent) merging
  refine ⟨resolved,⟨rfl,rendered,hashed⟩,rfl,sound.unique,dump_genuine fun field => held field _ (fields field),?_⟩
  intro parent member
  obtain ⟨layer,inside,rfl⟩ := List.mem_map.mp member
  exact ⟨layer,mem_sortBy.mp inside,rfl⟩

mutual
theorem strings_supported (value : Payload) (supported : value.Supported) : value.strings.Supported := by
  cases value with
  | enumMember typeName member =>
    obtain ⟨text,named⟩ := Option.isSome_iff_exists.mp supported
    rw [Payload.strings,named]
    trivial
  | list items => exact stringItems_supported items supported
  | tuple items => exact stringItems_supported items supported
  | map entries => exact stringEntries_supported entries supported
  | _ => exact supported

theorem stringItems_supported (items : List Payload) (supported : SupportedItems items) : SupportedItems (stringItems items) := by
  cases items with
  | nil => trivial
  | cons item rest => exact ⟨strings_supported item supported.1,stringItems_supported rest supported.2⟩

theorem stringEntries_supported (entries : Entries) (supported : SupportedEntries entries) :
    SupportedEntries (stringEntries entries) := by
  cases entries with
  | nil => trivial
  | cons entry rest => exact ⟨strings_supported entry.2 supported.1,stringEntries_supported rest supported.2⟩
end

mutual
theorem strings_steady (value : Payload) : value.strings.steady = value.steady := by
  cases value with
  | enumMember typeName member =>
    rcases enum_strings typeName member with same | ⟨text,_,same⟩
    · rw [same]
    · rw [same]
      rfl
  | list items => exact stringItems_steady items
  | tuple items => exact stringItems_steady items
  | map entries => exact stringEntries_steady entries
  | _ => rfl

theorem stringItems_steady (items : List Payload) : steadyItems (stringItems items) = steadyItems items := by
  cases items with
  | nil => rfl
  | cons item rest => rw [stringItems,steadyItems,steadyItems,strings_steady item,stringItems_steady rest]

theorem stringEntries_steady (entries : Entries) : steadyEntries (stringEntries entries) = steadyEntries entries := by
  cases entries with
  | nil => rfl
  | cons entry rest =>
    obtain ⟨key,value⟩ := entry
    rw [stringEntries,steadyEntries,steadyEntries,strings_steady value,stringEntries_steady rest]
end

theorem scalar_equals {value : Payload} (scalar : value.kind = .scalar) (supported : value.Supported) :
    value.equalScalars value = true := by
  cases value with
  | enumMember typeName member =>
    cases member with
    | mixin text => simp [Payload.equalScalars,Payload.number,Payload.text]
    | plain text => simp [Payload.equalScalars]
    | other => cases supported
  | datetime value => exact AwareDatetime.same_refl _
  | foreign refused => cases supported
  | list items => cases scalar
  | tuple items => cases scalar
  | map entries => cases scalar
  | _ => simp [Payload.equalScalars,Payload.number,Payload.text]

mutual
-- What is read back without its regions is equal to what was stored when fold changes no reading of it.
theorem unzoned_equals (value : Payload) (genuine : value.Genuine) (supported : value.Supported) :
    value.unzoned.equals value = value.steady := by
  cases value with
  | datetime value =>
    have instants : decide (value.unzoned.instant = value.aware.instant) = true := decide_eq_true rfl
    refine (AwareDatetime.offset_same ..).trans ?_
    rw [instants,Bool.true_and]
    rfl
  | list items => exact unzonedItems_equal items genuine supported
  | tuple items => exact unzonedItems_equal items genuine supported
  | map entries =>
    have entered := unzonedEntries_equal entries entries genuine.2 supported fun entry member => (lookup_member genuine.1).mpr member
    have lengths : (unzonedEntries entries).length = entries.length := by rw [unzonedEntries_map,List.length_map]
    rw [Payload.unzoned,Payload.equals,lengths,beq_self_eq_true,Bool.true_and,entered]
    rfl
  | _ => exact scalar_equals rfl supported

theorem unzonedItems_equal (items : List Payload) (genuine : GenuineItems items) (supported : SupportedItems items) :
    equalItems (unzonedItems items) items = steadyItems items := by
  cases items with
  | nil => rfl
  | cons item rest =>
    rw [unzonedItems,equalItems,steadyItems,unzoned_equals item genuine.1 supported.1,
      unzonedItems_equal rest genuine.2 supported.2]

theorem unzonedEntries_equal (entries others : Entries) (genuine : GenuineEntries entries) (supported : SupportedEntries entries)
    (held : ∀ entry ∈ entries, others.lookup entry.1 = some entry.2) :
    equalEntries (unzonedEntries entries) others = steadyEntries entries := by
  cases entries with
  | nil => rfl
  | cons entry rest =>
    obtain ⟨key,value⟩ := entry
    have here := held (key,value) (List.mem_cons_self ..)
    have later := unzonedEntries_equal rest others genuine.2 supported.2 fun other member =>
      held other (List.mem_cons_of_mem _ member)
    simp only at here
    rw [unzonedEntries,equalEntries,steadyEntries,here,later]
    simp only [unzoned_equals value genuine.1 supported.1]
end

-- A record as it is read back, with strings for the Enum members of its payload and without regions.
def PersistedConfigurationSnapshot.stored (record : PersistedConfigurationSnapshot) : PersistedConfigurationSnapshot :=
  {record with resolvedSnapshot := {record.resolvedSnapshot with payload := record.resolvedSnapshot.payload.strings.unzoned}}

def PersistsExactly (p : Platform) (record : PersistedConfigurationSnapshot) : Prop :=
  (∃ model, configurationSnapshotToModel p record = .ok model ∧ configurationSnapshotFromModel p model = .ok record.stored) ∧
    record.stored.resolvedSnapshot.payload.equals record.resolvedSnapshot.payload.strings = true

-- The datetimes of a record have a UTC reading.
structure PersistedConfigurationSnapshot.Datable (record : PersistedConfigurationSnapshot) : Prop where
  created : Shown record.resolvedSnapshot.createdAt
  expires : ∀ expiry, record.resolvedSnapshot.runtimeExpiresAt = some expiry → Shown expiry

theorem made_restored {resolved : ResolvedConfiguration} (made : Made resolved layers snapshot)
    {restored : ResolvedConfigurationSnapshot} : restoreResolvedConfigurationSnapshot p snapshot = .ok restored ↔
      resolved.dump.holdsDelete = false ∧ restored = snapshot := by
  rw [restore_exact freeze_reshapes made.unique made.toEvidenced made.payload]
  have same : {snapshot with payload := snapshot.payload.freeze} = snapshot := by
    have frozen : snapshot.payload.freeze = snapshot.payload := by rw [made.payload,freeze_frozen]
    rw [frozen]
  rw [same]

theorem made_payload {resolved : ResolvedConfiguration} (made : Made resolved layers snapshot) :
    snapshot.payload.Genuine ∧ snapshot.payload.Supported := by
  have rendered : canonicalJson p.toUnicodeData snapshot.payload = .ok snapshot.canonicalJson := by
    rw [made.payload,canonicalJson,canonical_reshaped freeze_reshapes]
    exact made.rendered
  exact ⟨made.payload ▸ genuine_reshaped freeze_reshapes _ made.genuine,
    regular_supported _ (value_rendered p.toUnicodeData _ _ rendered).1⟩

theorem made_persists {record : PersistedConfigurationSnapshot} {resolved : ResolvedConfiguration}
    (made : Made resolved layers record.resolvedSnapshot) (room : ∀ layer ∈ layers, layer.referenceId < 2 ^ 128)
    (clean : resolved.dump.holdsDelete = false) (datable : record.Datable) :
    ∃ model, configurationSnapshotToModel p record = .ok model ∧ configurationSnapshotFromModel p model = .ok record.stored := by
  have restored := (made_restored made).mpr ⟨clean,rfl⟩
  obtain ⟨genuine,supported⟩ := made_payload made
  obtain ⟨encoded,written,read⟩ := payload_restored _ genuine supported
  obtain ⟨members,object⟩ : ∃ members, encoded = .obj members := by
    rw [made.payload,dump_parts,Payload.freeze,encodeConfigurationPayload,bind_ok] at written
    obtain ⟨items,_,same⟩ := written
    exact ⟨_,((pure_ok _ _).mp same).symm⟩
  have mapping : record.resolvedSnapshot.payload.strings.unzoned.kind = .map := by rw [made.payload]; rfl
  have parents := parents_read fun parent member => by
    obtain ⟨layer,inside,same⟩ := made.parents parent member
    exact same ▸ room layer inside
  have frozen : record.resolvedSnapshot.payload.strings.unzoned.freeze = record.resolvedSnapshot.payload.strings.unzoned := by
    rw [← unzoned_freeze,← strings_freeze,made.payload,freeze_frozen]
  have evidenced : Evidenced p resolved record.stored.resolvedSnapshot := ⟨made.format,made.rendered,made.hashed⟩
  have again : restoreResolvedConfigurationSnapshot p record.stored.resolvedSnapshot = .ok record.stored.resolvedSnapshot := by
    rw [restore_exact (unzoned_reshapes.after (strings_reshapes.after freeze_reshapes)) made.unique evidenced
      (congrArg (fun payload => payload.strings.unzoned) made.payload)]
    exact ⟨clean,by simp only [PersistedConfigurationSnapshot.stored,frozen]⟩
  have expires := expiry_persisted.mpr ⟨datable.expires,rfl⟩
  have created := persistInstant_ok.mpr ⟨datable.created,rfl⟩
  obtain ⟨model,modelled⟩ : ∃ model, configurationSnapshotToModel p record = .ok model := by
    simp only [configurationSnapshotToModel,bind_ok,raiseIf_ok,exists_const,pure_ok]
    exact ⟨_,_,restored,_,written,by rw [object],_,expires,_,created,rfl⟩
  have row := modelled
  simp only [configurationSnapshotToModel,bind_ok,raiseIf_ok,exists_const,pure_ok,restored,Except.ok.injEq,exists_eq_left',
    written,expires,created] at row
  obtain ⟨_,rfl⟩ := row
  refine ⟨_,modelled,?_⟩
  simp only [configurationSnapshotFromModel,bind_ok,raiseIf_ok,exists_const,ownership_read]
  refine ⟨_,read,by simp [mapping],_,parents,_,restoreInstant_ok.mpr ⟨datable.created,rfl⟩,_,expiry_restored datable.expires,_,
    again,?_⟩
  rw [dif_pos record.positive]
  rfl

-- The payload of a record is equal to itself as it is read back when fold changes no reading of it.
theorem made_equals {resolved : ResolvedConfiguration} (made : Made resolved layers snapshot) :
    snapshot.payload.strings.unzoned.equals snapshot.payload.strings = snapshot.payload.steady := by
  obtain ⟨genuine,supported⟩ := made_payload made
  rw [unzoned_equals _ (genuine_reshaped strings_reshapes _ genuine) (strings_supported _ supported),strings_steady]

theorem keys_distinct {keys normalizedKeys : List String} (distinct : keys.Nodup) (fresh : ∀ key ∈ keys, key ∉ normalizedKeys) :
    requireDistinctKeys keys normalizedKeys = .ok () := by
  induction keys generalizing normalizedKeys with
  | nil => rfl
  | cons key rest ih =>
    rw [List.nodup_cons] at distinct
    simp only [requireDistinctKeys,check_ok,raiseIf_ok,decide_eq_false_iff_not]
    refine ⟨fresh key (List.mem_cons_self ..),ih distinct.2 fun other member known => ?_⟩
    rcases List.mem_cons.mp known with rfl | before
    · exact distinct.1 member
    · exact fresh other (List.mem_cons_of_mem _ member) before

-- Canonical JSON does not depend on the order of the keys.
theorem canonical_permuted {u : UnicodeData} {entries others : Entries} (same : entries.Perm others) {text : String}
    (rendered : canonicalValue u (.map others) = .ok text) : canonicalValue u (.map entries) = .ok text := by
  simp only [canonicalValue,check_ok] at rendered ⊢
  have permuted : (canonicalEntries u entries).Perm (canonicalEntries u others) := by
    rw [canonicalEntries_map,canonicalEntries_map]
    exact same.map _
  have distinct := (distinct_keys rendered.1).1
  have ranks : ((canonicalEntries u entries).map fun entry => utf8 entry.1).Nodup := by
    have nodup := List.Nodup.map (fun _ _ => utf8_injective) ((permuted.map Prod.fst).nodup_iff.mpr distinct)
    rwa [List.map_map] at nodup
  rw [sortBy_same ranks permuted]
  exact ⟨keys_distinct ((permuted.map Prod.fst).nodup_iff.mpr distinct) fun _ _ => List.not_mem_nil,rendered.2⟩

-- What validation accepts holds the fields of the configuration and nothing else.
theorem accepted_entries {entries : Entries} (distinct : (entries.map Prod.fst).Nodup) {resolved : ResolvedConfiguration}
    (did : ResolvedConfiguration.ofPayload (.map entries) = .ok resolved) :
    entries.Perm (patchFields.map fun field => (field.name,resolved.part field)) := by
  simp only [ResolvedConfiguration.ofPayload,check_ok,raiseIf_ok,modelValidate_exact,List.any_eq_false,Bool.not_eq_true,
    Bool.not_eq_false',List.contains_iff_mem] at did
  obtain ⟨known,held,_⟩ := did
  have names : ((patchFields.map fun field => (field.name,resolved.part field)).map Prod.fst).Nodup := by
    rw [List.map_map]
    exact (by decide : (patchFields.map PatchField.name).Nodup)
  rw [List.perm_ext_iff_of_nodup distinct.of_map names.of_map]
  intro entry
  constructor
  · intro member
    obtain ⟨field,declared,named⟩ := List.mem_map.mp (known entry member)
    have found := (lookup_member distinct).mpr (by rw [named]; exact member : (field.name,entry.2) ∈ entries)
    rw [held field] at found
    exact List.mem_map.mpr ⟨field,declared,by rw [Option.some.inj found,named]⟩
  · intro member
    obtain ⟨field,_,rfl⟩ := List.mem_map.mp member
    exact (lookup_member distinct).mp (held field)

-- A row that is accepted has the canonical text of what it stores, and its hash.
theorem row_evidence {model : ConfigurationSnapshotModel} {record : PersistedConfigurationSnapshot}
    (did : configurationSnapshotFromModel p model = .ok record) :
    ∃ payload, decodeConfigurationPayload model.mergedPayload = .ok payload ∧
      canonicalJson p.toUnicodeData payload = .ok model.canonicalJson ∧
      model.contentHash = p.sha256 (CANONICAL_FORMAT_VERSION ++ "\x00" ++ model.canonicalJson) := by
  simp only [configurationSnapshotFromModel,bind_ok,raiseIf_ok,exists_const,decide_eq_false_iff_not,ne_eq,not_not] at did
  obtain ⟨payload,decoded,mapping,parents,_,_,_,_,_,restored,did,_⟩ := did
  simp only [restoreResolvedConfigurationSnapshot,check_ok,raiseIf_ok,decide_eq_false_iff_not,ne_eq,not_not] at did
  obtain ⟨format,did⟩ := did
  cases parsed : ResolvedConfiguration.ofPayload payload.thaw with
  | error _ => simp [parsed] at did
  | ok resolved =>
    simp only [parsed,bind_ok,raiseIf_ok,exists_const,decide_eq_false_iff_not,not_not,pure_ok] at did
    obtain ⟨text,rendered,same,hash,hashed,equal,_⟩ := did
    cases payload with
    | map entries =>
      have distinct : ((thawEntries entries).map Prod.fst).Nodup := by
        rw [thawEntries_map,keys_reshaped]
        exact (decoded_genuine _ decoded).1
      have shown := canonical_permuted (accepted_entries distinct parsed) rendered
      refine ⟨_,decoded,?_,?_⟩
      · have thawed : canonicalValue p.toUnicodeData (Payload.map entries).thaw = .ok text := shown
        rw [canonical_reshaped thaw_reshapes] at thawed
        rw [same]
        exact thawed
      · simp only [canonicalContentHash,bind_ok,pure_ok,rendered,Except.ok.injEq,exists_eq_left',format] at hashed
        obtain ⟨_,_,digest⟩ := hashed
        rw [equal,same]
        exact digest.symm
    | _ => cases mapping

-- Of the payload, the canonical text and the hash, none changes without the others.
theorem rows_agree (injective : Function.Injective p.sha256) {model other : ConfigurationSnapshotModel}
    {record record' : PersistedConfigurationSnapshot} (did : configurationSnapshotFromModel p model = .ok record)
    (did' : configurationSnapshotFromModel p other = .ok record') :
    (other.contentHash = model.contentHash ↔ other.canonicalJson = model.canonicalJson) ∧
    (other.canonicalJson = model.canonicalJson ↔
      (decodeConfigurationPayload other.mergedPayload >>= canonicalJson p.toUnicodeData) =
        (decodeConfigurationPayload model.mergedPayload >>= canonicalJson p.toUnicodeData)) := by
  obtain ⟨payload,decoded,rendered,hashed⟩ := row_evidence did
  obtain ⟨payload',decoded',rendered',hashed'⟩ := row_evidence did'
  constructor
  · rw [hashed,hashed',injective.eq_iff,String.append_right_inj]
  · rw [decoded,decoded']
    have shown : ((.ok payload : Except PyError Payload) >>= canonicalJson p.toUnicodeData) = .ok model.canonicalJson := rendered
    have shown' : ((.ok payload' : Except PyError Payload) >>= canonicalJson p.toUnicodeData) = .ok other.canonicalJson := rendered'
    rw [shown,shown',Except.ok.injEq]

theorem made_deletes {resolved : ResolvedConfiguration} (made : Made resolved layers snapshot) :
    snapshot.payload.holdsDelete = resolved.dump.holdsDelete := by
  rw [made.payload,deletes_reshaped freeze_reshapes]

theorem snapshots_persist (injective : Function.Injective p.sha256) :
    (∀ value : Payload, value.Genuine → value.Supported →
      (encodeConfigurationPayload value >>= decodeConfigurationPayload) = .ok value.strings.unzoned ∧
      value.strings.unzoned.equals value.strings = value.steady) ∧
    (∀ (order : SetOrder) (r : Resolution) (layers : List (ConfigurationLayer p)) (record : PersistedConfigurationSnapshot),
      (∀ layer ∈ layers, layer.referenceId < 2 ^ 128) → resolve order r layers = .ok record.resolvedSnapshot →
        (PersistsExactly p record ↔ record.resolvedSnapshot.payload.holdsDelete = false ∧
          record.resolvedSnapshot.payload.steady = true ∧ record.Datable)) ∧
    ∀ model other record, configurationSnapshotFromModel p model = .ok record →
      ¬((other.contentHash = model.contentHash ↔ other.canonicalJson = model.canonicalJson) ∧
        (other.canonicalJson = model.canonicalJson ↔
          (decodeConfigurationPayload other.mergedPayload >>= canonicalJson p.toUnicodeData) =
            (decodeConfigurationPayload model.mergedPayload >>= canonicalJson p.toUnicodeData))) →
      ∀ record', configurationSnapshotFromModel p other ≠ .ok record' := by
  refine ⟨?_,?_,?_⟩
  · intro value genuine supported
    obtain ⟨encoded,written,read⟩ := payload_restored value genuine supported
    refine ⟨(bind_ok ..).mpr ⟨encoded,written,read⟩,?_⟩
    rw [unzoned_equals _ (genuine_reshaped strings_reshapes _ genuine) (strings_supported _ supported),strings_steady]
  · intro order r layers record room did
    obtain ⟨resolved,made⟩ := resolve_made did
    have equal : record.stored.resolvedSnapshot.payload.equals record.resolvedSnapshot.payload.strings =
        record.resolvedSnapshot.payload.steady := made_equals made
    rw [made_deletes made,PersistsExactly,equal]
    constructor
    · rintro ⟨⟨model,modelled,_⟩,steady⟩
      simp only [configurationSnapshotToModel,bind_ok,persistInstant_ok,expiry_persisted] at modelled
      obtain ⟨_,restored,_,_,_,_,_,expires,_,created,_⟩ := modelled
      obtain ⟨clean,rfl⟩ := (made_restored made).mp restored
      exact ⟨clean,steady,created.1,expires.1⟩
    · rintro ⟨clean,steady,datable⟩
      exact ⟨made_persists made room clean datable,steady⟩
  · intro model other record did tampered record' did'
    exact tampered (rows_agree injective did did')

theorem letters_injective : Function.Injective
    fun letters : List Char => letters.foldr (fun letter code => code * 1114113 + letter.toNat + 1) 0 := by
  intro letters others same
  induction letters generalizing others with
  | nil =>
    cases others with
    | nil => rfl
    | cons other rest => simp at same
  | cons letter rest ih =>
    cases others with
    | nil => simp at same
    | cons other rest' =>
      simp only [List.foldr_cons] at same
      have small : letter.toNat < 1114112 := by
        rcases letter.valid with low | high <;> simp only [Char.toNat,UInt32.toNat] at * <;> omega
      have small' : other.toNat < 1114112 := by
        rcases other.valid with low | high <;> simp only [Char.toNat,UInt32.toNat] at * <;> omega
      have codes : rest.foldr (fun letter code => code * 1114113 + letter.toNat + 1) 0 =
          rest'.foldr (fun letter code => code * 1114113 + letter.toNat + 1) 0 := by omega
      have first : letter.toNat = other.toNat := by omega
      rw [ih codes,Char.toNat_inj.mp first]

theorem textDigest_injective : Function.Injective textDigest := by
  intro text other same
  unfold textDigest at same
  rw [List.foldl_eq_foldr_reverse,List.foldl_eq_foldr_reverse] at same
  exact String.toList_inj.mp (List.reverse_injective (letters_injective same))

def sampleRecord (snapshot : ResolvedConfigurationSnapshot) : PersistedConfigurationSnapshot := ⟨1,snapshot,1,.system,1,first_version⟩

def sampleOrder : SetOrder := ⟨id,fun _ => .refl _⟩

theorem snapshots_persist_sample : ∃ snapshot, resolve sampleOrder sampleResolution sampleLayers = .ok snapshot ∧
    PersistsExactly samplePlatform (sampleRecord snapshot) := by
  have outcome : ((resolve sampleOrder sampleResolution sampleLayers).toOption.map fun snapshot =>
      (snapshot.payload.holdsDelete,snapshot.payload.steady,snapshot.createdAt,snapshot.runtimeExpiresAt)) =
        some (false,true,0,none) := by decide +kernel
  cases did : resolve sampleOrder sampleResolution sampleLayers with
  | error _ => rw [did] at outcome; cases outcome
  | ok snapshot =>
    rw [did] at outcome
    have persists := (snapshots_persist (p := samplePlatform) textDigest_injective).2.1 sampleOrder sampleResolution sampleLayers
      (sampleRecord snapshot) (by decide) did
    obtain ⟨clean,steady,created,expires⟩ :
        snapshot.payload.holdsDelete = false ∧ snapshot.payload.steady = true ∧ snapshot.createdAt = 0 ∧
          snapshot.runtimeExpiresAt = none := by
      simpa only [Prod.mk.injEq] using Option.some.inj outcome
    have datable : (sampleRecord snapshot).Datable := by
      refine ⟨?_,fun expiry given => ?_⟩
      · show Shown snapshot.createdAt
        rw [created]
        decide
      · exact nomatch expires.symm.trans given
    exact ⟨snapshot,rfl,persists.mpr ⟨clean,steady,datable⟩⟩

-- A directive in a tuple of the settings.
def hiddenDirective : LayerPatch where
  configurationName := some "a"
  settings := some [("steps",.tuple [.map [("$delete",.bool true)]])]
  rules := some []
  keyedItems := some []
  extensions := some []
  nullableNote := some none

theorem hiddenDirective_genuine : hiddenDirective.Genuine := by
  intro field value set
  cases field <;> cases set
  all_goals simp [PatchValue.Genuine,dicts,Payload.Genuine,GenuineItems,GenuineEntries,optionalText]

def hiddenLayers : List (ConfigurationLayer samplePlatform) :=
  [⟨sampleLayer .system .system hiddenDirective,hiddenDirective_genuine,by decide +kernel⟩]

theorem hidden_directive_rejected : ¬∀ (p : Platform) (order : SetOrder) (r : Resolution) (layers : List (ConfigurationLayer p))
    (record : PersistedConfigurationSnapshot), Function.Injective p.sha256 → (∀ layer ∈ layers, layer.referenceId < 2 ^ 128) →
      resolve order r layers = .ok record.resolvedSnapshot → PersistsExactly p record := by
  intro persists
  have outcome : ((resolve sampleOrder sampleResolution hiddenLayers).toOption.map fun snapshot =>
      (restoreResolvedConfigurationSnapshot samplePlatform snapshot).toOption.isSome) = some false := by decide +kernel
  cases did : resolve sampleOrder sampleResolution hiddenLayers with
  | error _ => rw [did] at outcome; cases outcome
  | ok snapshot =>
    rw [did] at outcome
    have refused : (restoreResolvedConfigurationSnapshot samplePlatform snapshot).toOption.isSome = false :=
      Option.some.inj outcome
    obtain ⟨⟨model,modelled,_⟩,_⟩ := persists samplePlatform sampleOrder sampleResolution hiddenLayers (sampleRecord snapshot)
      textDigest_injective (by decide) did
    simp only [configurationSnapshotToModel,bind_ok] at modelled
    obtain ⟨_,restored,_⟩ := modelled
    have kept : restoreResolvedConfigurationSnapshot samplePlatform snapshot = .ok _ := restored
    rw [kept] at refused
    cases refused

end SwapMonitor.Configuration
