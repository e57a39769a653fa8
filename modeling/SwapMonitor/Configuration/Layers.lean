import SwapMonitor.Configuration.CanonicalJson
import SwapMonitor.Configuration.Schemas

namespace SwapMonitor.Configuration

-- unicodedata and hashlib.
structure Platform extends UnicodeData where
  sha256 : String → Digest

def CANONICAL_FORMAT_VERSION : String := "1"

-- canonical_content_hash
def canonicalContentHash (p : Platform) (value : Payload) (formatVersion : String) : Except PyError Digest := do
  raiseIf (decide (formatVersion = "")) .configurationCanonicalizationError "canonical format version must not be blank"
  let content ← canonicalJson p.toUnicodeData value
  pure (p.sha256 (formatVersion ++ "\x00" ++ content))

inductive OwnershipScope where
  | system
  | user
  | portfolio
  deriving DecidableEq

def OwnershipScope.value : OwnershipScope → String
  | .system => "SYSTEM"
  | .user => "USER"
  | .portfolio => "PORTFOLIO"

def ownershipScope : Ownership → OwnershipScope
  | .system => .system
  | .user _ => .user
  | .portfolio _ => .portfolio

-- EXPECTED_OWNERSHIP_SCOPE_BY_LAYER
def ConfigurationLayerScope.expectedOwnershipScope : ConfigurationLayerScope → OwnershipScope
  | .system => .system
  | .market => .system
  | .strategy => .system
  | .user => .user
  | .portfolio => .portfolio
  | .rotationPlan => .portfolio
  | .runtimeOverride => .portfolio

structure LayerFields where
  scope : ConfigurationLayerScope
  patch : LayerPatch
  referenceId : UUID
  version : Int
  contentHash : Digest
  ownership : Ownership
  contentHashFormatVersion : String := CANONICAL_FORMAT_VERSION
  portfolioOwnerId : Option UUID := none
  runtimeExpiresAt : Option Instant := none

-- ConfigurationLayer.__post_init__; validating a valid patch once more leaves it as it is.
def LayerFields.postInit (p : Platform) (layer : LayerFields) : Except PyError Unit := do
  let expected := layer.scope.expectedOwnershipScope
  raiseIf (decide (ownershipScope layer.ownership ≠ expected)) .valueError
    (layer.scope.value ++ " layers require " ++ expected.value ++ " ownership")
  raiseIf (decide (expected = .portfolio) && layer.portfolioOwnerId.isNone) .valueError
    (layer.scope.value ++ " layers require a portfolio owner")
  raiseIf (decide (expected ≠ .portfolio) && layer.portfolioOwnerId.isSome) .valueError
    (layer.scope.value ++ " layers must not specify a portfolio owner")
  layer.patch.validate layer.scope
  raiseIf (decide (layer.version < 1)) .valueError "configuration layer version must be positive"
  raiseIf (decide (layer.contentHashFormatVersion ≠ CANONICAL_FORMAT_VERSION)) .configurationCanonicalizationError
    "unsupported layer content hash format version"
  let expectedContentHash ← canonicalContentHash p layer.patch.dump layer.contentHashFormatVersion
  raiseIf (decide (layer.contentHash ≠ expectedContentHash)) .configurationCanonicalizationError
    "content_hash does not match the canonical patch"

-- A layer that exists has passed its constructor.
structure ConfigurationLayer (p : Platform) extends LayerFields where
  genuine : patch.Genuine
  accepted : toLayerFields.postInit p = .ok ()

variable {p : Platform}

def ConfigurationLayer.create (fields : LayerFields) (genuine : fields.patch.Genuine) : Except PyError (ConfigurationLayer p) :=
  match accepted : fields.postInit p with
  | .ok () => .ok ⟨fields,genuine,accepted⟩
  | .error error => .error error

-- What a constructed layer establishes of its fields.
structure Established (layer : ConfigurationLayer p) : Prop where
  owned : ownershipScope layer.ownership = layer.scope.expectedOwnershipScope
  patch : layer.patch.validate layer.scope = .ok ()
  hashed : canonicalContentHash p layer.patch.dump CANONICAL_FORMAT_VERSION = .ok layer.contentHash

theorem layer_established (layer : ConfigurationLayer p) : Established layer := by
  have accepted := layer.accepted
  simp only [LayerFields.postInit,bind_ok,raiseIf_ok,decide_eq_false_iff_not,ne_eq,not_not,exists_const] at accepted
  obtain ⟨owned,_,_,_,patch,_,format,hash,hashed,same⟩ := accepted
  rw [← same,format] at hashed
  exact ⟨owned,patch,hashed⟩

end SwapMonitor.Configuration
