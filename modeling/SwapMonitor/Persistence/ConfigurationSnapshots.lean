import SwapMonitor.Configuration.Reshaping
import SwapMonitor.Configuration.Resolver
import SwapMonitor.Persistence.Columns

namespace SwapMonitor.Configuration
open Clocks

-- ResolvedConfigurationSchema.model_validate of a mapping, which may hold no other keys.
def ResolvedConfiguration.ofPayload : Payload → Except PyError ResolvedConfiguration
  | .map entries => do
    raiseIf (entries.any fun entry => !(patchFields.map PatchField.name).contains entry.1) .validationError
      "Extra inputs are not permitted"
    ResolvedConfiguration.modelValidate fun field => entries.lookup field.name
  | _ => raise .validationError "Input should be a valid dictionary"

variable (p : Platform)

-- restore_resolved_configuration_snapshot
def restoreResolvedConfigurationSnapshot (stored : ResolvedConfigurationSnapshot) :
    Except PyError ResolvedConfigurationSnapshot := do
  raiseIf (decide (stored.canonicalFormatVersion ≠ CANONICAL_FORMAT_VERSION)) .configurationCanonicalizationError
    "stored configuration snapshot canonical format is unsupported"
  match ResolvedConfiguration.ofPayload stored.payload.thaw with
  | .error _ => raise .valueError "stored resolved configuration payload is invalid"
  | .ok resolved => do
    let expectedCanonicalJson ← canonicalJson p.toUnicodeData resolved.dump
    raiseIf (decide (stored.canonicalJson ≠ expectedCanonicalJson)) .valueError
      "stored configuration snapshot canonical_json does not match payload"
    let expectedContentHash ← canonicalContentHash p resolved.dump stored.canonicalFormatVersion
    raiseIf (decide (stored.contentHash ≠ expectedContentHash)) .valueError
      "stored configuration snapshot content_hash does not match payload"
    pure {stored with payload := resolved.dump.freeze}

structure PersistedConfigurationSnapshot where
  snapshotId : UUID
  resolvedSnapshot : ResolvedConfigurationSnapshot
  configVersion : Int
  targetOwnership : Ownership
  targetReferenceId : UUID
  positive : 1 ≤ configVersion

theorem first_version : (1 : Int) ≤ 1 := by decide

-- A row of configuration_snapshots.
structure ConfigurationSnapshotModel where
  snapshotId : UUID
  contentHash : Digest
  canonicalFormatVersion : String
  parentVersions : List Json
  mergedPayload : Json
  canonicalJson : String
  configVersion : Int
  targetScope : String
  targetOwnerId : Option UUID
  targetReferenceId : UUID
  runtimeExpiresAt : Option ColumnDatetime
  createdAt : ColumnDatetime
  createdBy : UUID

def ownerId : Ownership → Option UUID
  | .system => none
  | .user owner => some owner
  | .portfolio owner => some owner

-- Ownership.__post_init__
def createOwnership (scope : OwnershipScope) (owner : Option UUID) : Except PyError Ownership :=
  match scope,owner with
  | .system,none => pure .system
  | .system,some _ => raise .valueError "SYSTEM ownership must not have an owner_id"
  | .user,some owner => pure (.user owner)
  | .portfolio,some owner => pure (.portfolio owner)
  | scope,none => raise .valueError (scope.value ++ " ownership requires an owner_id")

def ownershipScopes : List OwnershipScope := [.system,.user,.portfolio]

-- Ownership(Scope(value), owner)
def readOwnership (value : String) (owner : Option UUID) : Except PyError Ownership :=
  match ownershipScopes.find? fun scope => scope.value = value with
  | none => raise .valueError ("'" ++ value ++ "' is not a valid Scope")
  | some scope => createOwnership scope owner

def ParentVersion.row (parent : ParentVersion) : Json :=
  .obj [("scope",.str (.plain parent.scope.value)),
    ("reference_id",.str (.plain (uuidText parent.referenceId))),
    ("version",.int parent.version),
    ("content_hash",.str (.digest parent.contentHash)),
    ("content_hash_format_version",.str (.plain parent.contentHashFormatVersion))]

def layerScopes : List ConfigurationLayerScope := [.system,.market,.strategy,.user,.portfolio,.rotationPlan,.runtimeOverride]

-- ConfigurationLayerScope(value)
def ConfigurationLayerScope.ofValue (value : String) : Option ConfigurationLayerScope :=
  layerScopes.find? fun scope => scope.value = value

-- The parent of a row; a text that is no digest has no code.
def ParentVersion.ofRow (raw : Json) : Option ParentVersion :=
  match raw.get "scope",raw.get "reference_id",raw.get "version",raw.get "content_hash",raw.get "content_hash_format_version" with
  | some (.str (.plain rawScope)),some (.str (.plain rawReferenceId)),some (.int rawVersion),some (.str (.digest rawContentHash)),
      some (.str (.plain rawHashFormat)) => do
    let scope ← ConfigurationLayerScope.ofValue rawScope
    let referenceId ← parseUUID rawReferenceId
    pure ⟨scope,referenceId,rawVersion,rawContentHash,rawHashFormat⟩
  | _,_,_,_,_ => none

def readParents : List Json → Except PyError (List ParentVersion)
  | [] => pure []
  | raw :: rest => match ParentVersion.ofRow raw with
    | none => raise .valueError "stored configuration snapshot parent version is malformed"
    | some parent => do
      let parents ← readParents rest
      pure (parent :: parents)

def persistInstant (value : Instant) : Except PyError ColumnDatetime := do
  let persisted ← persistDatetime ⟨value,{}⟩
  pure (.aware persisted)

def restoreInstant (column : ColumnDatetime) : Except PyError Instant := do
  let restored ← restoreDatetime column
  pure restored.instant

@[simp] theorem persistInstant_ok {value : Instant} {column : ColumnDatetime} :
    persistInstant value = .ok column ↔ Shown value ∧ .aware ⟨value,{}⟩ = column := by
  simp only [persistInstant,persistDatetime,bind_ok,AwareDatetime.astimezoneUtc_ok,pure_ok,and_assoc,exists_and_left,
    exists_eq_left']

@[simp] theorem restoreInstant_ok {column : ColumnDatetime} {value : Instant} :
    restoreInstant column = .ok value ↔ column.Readable ∧ column.restored = value := by
  simp only [restoreInstant,bind_ok,restore_ok,pure_ok,and_assoc,exists_and_left,exists_eq_left']

theorem expiry_persisted {expiry : Option Instant} {column : Option ColumnDatetime} :
    expiry.mapM persistInstant = .ok column ↔
      (∀ value, expiry = some value → Shown value) ∧ (expiry.map fun value => .aware ⟨value,{}⟩) = column := by
  cases expiry with
  | none => simp
  | some value =>
    rw [Option.mapM_some,map_eq_pure_bind,bind_ok]
    simp only [persistInstant_ok,pure_ok,and_assoc,exists_and_left,exists_eq_left',Option.some.injEq,forall_eq',Option.map_some]

theorem expiry_restored {expiry : Option Instant} (shown : ∀ value, expiry = some value → Shown value) :
    (expiry.map fun value => ColumnDatetime.aware ⟨value,{}⟩).mapM restoreInstant = .ok expiry := by
  cases expiry with
  | none => rfl
  | some value =>
    have read : restoreInstant (.aware ⟨value,{}⟩) = .ok value := restoreInstant_ok.mpr ⟨shown value rfl,rfl⟩
    simp [read]

def configurationSnapshotToModel (snapshot : PersistedConfigurationSnapshot) : Except PyError ConfigurationSnapshotModel := do
  let resolvedSnapshot ← restoreResolvedConfigurationSnapshot p snapshot.resolvedSnapshot
  let encoded ← encodeConfigurationPayload resolvedSnapshot.payload
  raiseIf (match encoded with | .obj _ => false | _ => true) .valueError
    "encoded configuration snapshot payload must be a JSON object"
  let runtimeExpiresAt ← resolvedSnapshot.runtimeExpiresAt.mapM persistInstant
  let createdAt ← persistInstant resolvedSnapshot.createdAt
  pure {
    snapshotId := snapshot.snapshotId
    contentHash := resolvedSnapshot.contentHash
    canonicalFormatVersion := resolvedSnapshot.canonicalFormatVersion
    parentVersions := resolvedSnapshot.parentVersions.map ParentVersion.row
    mergedPayload := encoded
    canonicalJson := resolvedSnapshot.canonicalJson
    configVersion := snapshot.configVersion
    targetScope := (ownershipScope snapshot.targetOwnership).value
    targetOwnerId := ownerId snapshot.targetOwnership
    targetReferenceId := snapshot.targetReferenceId
    runtimeExpiresAt := runtimeExpiresAt
    createdAt := createdAt
    createdBy := resolvedSnapshot.createdBy}

def configurationSnapshotFromModel (model : ConfigurationSnapshotModel) : Except PyError PersistedConfigurationSnapshot := do
  let payload ← decodeConfigurationPayload model.mergedPayload
  raiseIf (decide (payload.kind ≠ .map)) .valueError "stored configuration snapshot payload must decode to a mapping"
  let parents ← readParents model.parentVersions
  let createdAt ← restoreInstant model.createdAt
  let runtimeExpiresAt ← model.runtimeExpiresAt.mapM restoreInstant
  let resolvedSnapshot ← restoreResolvedConfigurationSnapshot p {
    payload := payload
    parentVersions := parents
    createdBy := model.createdBy
    createdAt := createdAt
    runtimeExpiresAt := runtimeExpiresAt
    canonicalFormatVersion := model.canonicalFormatVersion
    contentHash := model.contentHash
    canonicalJson := model.canonicalJson}
  match readOwnership model.targetScope model.targetOwnerId with
  | .error _ => raise .valueError "stored configuration snapshot target ownership is malformed"
  | .ok targetOwnership =>
    if positive : 1 ≤ model.configVersion then
      pure ⟨model.snapshotId,resolvedSnapshot,model.configVersion,targetOwnership,model.targetReferenceId,positive⟩
    else raise .valueError "config_version must be positive"

theorem ownership_read (ownership : Ownership) :
    readOwnership (ownershipScope ownership).value (ownerId ownership) = .ok ownership := by
  cases ownership <;> rfl

theorem scope_read (scope : ConfigurationLayerScope) : ConfigurationLayerScope.ofValue scope.value = some scope := by
  cases scope <;> decide

theorem parent_read {parent : ParentVersion} (room : parent.referenceId < 2 ^ 128) : ParentVersion.ofRow parent.row = some parent := by
  simp [ParentVersion.ofRow,ParentVersion.row,Json.get,List.lookup_cons,scope_read,uuid_restored room]

theorem parents_read {parents : List ParentVersion} (room : ∀ parent ∈ parents, parent.referenceId < 2 ^ 128) :
    readParents (parents.map ParentVersion.row) = .ok parents := by
  induction parents with
  | nil => rfl
  | cons parent rest ih =>
    have here := room parent (List.mem_cons_self ..)
    have later := ih fun other member => room other (List.mem_cons_of_mem _ member)
    rw [List.map_cons,readParents,parent_read here,later]
    rfl

end SwapMonitor.Configuration
