import SwapMonitor.Configuration.Layers
import SwapMonitor.Configuration.Merging

namespace SwapMonitor.Configuration
open Collections

structure ParentVersion where
  scope : ConfigurationLayerScope
  referenceId : UUID
  version : Int
  contentHash : Digest
  contentHashFormatVersion : String
  deriving DecidableEq

def LayerFields.parentVersion (layer : LayerFields) : ParentVersion where
  scope := layer.scope
  referenceId := layer.referenceId
  version := layer.version
  contentHash := layer.contentHash
  contentHashFormatVersion := layer.contentHashFormatVersion

structure ResolvedConfigurationSnapshot where
  payload : Payload
  parentVersions : List ParentVersion
  createdBy : UUID
  createdAt : Instant
  runtimeExpiresAt : Option Instant
  canonicalFormatVersion : String
  contentHash : Digest
  canonicalJson : String

-- The order in which a set of fields happens to be iterated.
structure SetOrder where
  iterate : List PatchField → List PatchField
  all : ∀ fields, (iterate fields).Perm fields

-- The arguments of resolve apart from the layers, and the resolver's own limit.
structure Resolution where
  maximumRuntimeTtl : Int
  accessContext : AccessContext
  createdBy : UUID
  createdAt : Instant
  now : Instant
  runDeadline : Instant

-- _validate_runtime_expiry
def Resolution.validateRuntimeExpiry (r : Resolution) (expiresAt : Option Instant) : Except PyError Unit :=
  match expiresAt with
  | none => raise .runtimeOverrideExpiryError "runtime overrides require an expiry"
  | some expiresAt => do
    raiseIf (decide (expiresAt ≤ r.now)) .runtimeOverrideExpiryError "runtime override is expired"
    raiseIf (decide (r.runDeadline < expiresAt)) .runtimeOverrideExpiryError "runtime override expires after the run deadline"
    raiseIf (decide (r.maximumRuntimeTtl < expiresAt - r.now)) .runtimeOverrideExpiryError
      "runtime override exceeds the configured maximum TTL"

abbrev Merged := PatchField → Option Payload

-- The loop over the fields a patch sets.
def mergePatch (patch : LayerPatch) : List PatchField → Merged → Except PyError Merged
  | [],merged => pure merged
  | field :: rest,merged => match patch.get field with
    | none => mergePatch patch rest merged
    | some higher => do
      let value ← mergePatchValue field (merged field) higher
      mergePatch patch rest (Function.update merged field (some value))

variable {p : Platform} (order : SetOrder) (r : Resolution)

-- What resolve checks of a layer before it merges its patch.
def Resolution.admit (layer : ConfigurationLayer p) (seenScopes : List ConfigurationLayerScope) : Except PyError Unit := do
  raiseIf (decide (layer.scope ∈ seenScopes)) .configurationMergeError
    ("duplicate " ++ layer.scope.value ++ " configuration layer")
  r.accessContext.requireRead layer.ownership layer.portfolioOwnerId
  if layer.scope = .runtimeOverride then r.validateRuntimeExpiry layer.runtimeExpiresAt
  else
    raiseIf layer.runtimeExpiresAt.isSome .runtimeOverrideExpiryError
      "only a RUNTIME_OVERRIDE layer may specify runtime_expires_at"

-- The loop over the ordered layers.
def mergeLayers : List (ConfigurationLayer p) → List ConfigurationLayerScope → Merged → Except PyError Merged
  | [],_,merged => pure merged
  | layer :: rest,seenScopes,merged => do
    r.admit layer seenScopes
    let merged ← mergePatch layer.patch (order.iterate layer.patch.fieldsSet) merged
    mergeLayers rest (layer.scope :: seenScopes) merged

-- runtime_expires_at as the loop leaves it.
def runtimeExpiry (layers : List (ConfigurationLayer p)) : Option Instant :=
  (layers.filter fun layer => layer.scope = .runtimeOverride).foldl (fun _ layer => layer.runtimeExpiresAt) none

-- ConfigurationResolver.resolve
def resolve (layers : List (ConfigurationLayer p)) : Except PyError ResolvedConfigurationSnapshot := do
  raiseIf (decide (r.runDeadline ≤ r.now)) .runtimeOverrideExpiryError "run_deadline must be later than now"
  let orderedLayers := sortBy (fun layer => layer.scope.precedence) layers
  let merged ← mergeLayers order r orderedLayers [] fun _ => none
  let resolved ← ResolvedConfiguration.modelValidate merged
  let serialized ← canonicalJson p.toUnicodeData resolved.dump
  let contentHash ← canonicalContentHash p resolved.dump CANONICAL_FORMAT_VERSION
  pure {
    payload := resolved.dump.freeze
    parentVersions := orderedLayers.map fun layer => layer.parentVersion
    createdBy := r.createdBy
    createdAt := r.createdAt
    runtimeExpiresAt := runtimeExpiry orderedLayers
    canonicalFormatVersion := CANONICAL_FORMAT_VERSION
    contentHash := contentHash
    canonicalJson := serialized}

end SwapMonitor.Configuration
