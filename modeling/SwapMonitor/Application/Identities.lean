import SwapMonitor.Domain.Entities

namespace SwapMonitor

-- The scan identity carries the plan id, so an accepted request names its plan twice.
structure ScanLockRequest where
  plan : RotationPlan
  identity : ScanIdentity
  deriving DecidableEq

def ScanLockRequest.key (d : Deployment) (r : ScanLockRequest) : Digest := r.identity.key d

-- len(value) of a string
def Text.length : Text → Nat
  | .plain value => value.length
  | .digest _ => 64
  | .snapshotId _ => 79

-- Of a snapshot the coordinator reads its content hash and whether it may act on it; the id
-- is derived from the hash.
structure MarketDataSnapshot where
  contentHash : Digest
  isActionable : Bool
  deriving DecidableEq, Repr

def MarketDataSnapshot.snapshotId (s : MarketDataSnapshot) : Text := .snapshotId s.contentHash

def FINAL_STRATEGY_IDENTITY_FORMAT_VERSION : String := "strategy-run:v1"

-- The format version is the one constant the constructor insists on.
structure FinalStrategyIdentity where
  scanLockKey : Digest
  marketDataContentHash : Digest
  deriving DecidableEq, Repr

-- The constructor also checks that the snapshot id is the one of the content hash.
def FinalStrategyIdentity.marketDataSnapshotId (i : FinalStrategyIdentity) : Text :=
  .snapshotId i.marketDataContentHash

def FinalStrategyIdentity.create (scanLockKey marketDataSnapshotId marketDataContentHash : Text) :
    Except PyError FinalStrategyIdentity :=
  match scanLockKey,marketDataContentHash with
  | .digest key,.digest hash => do
    raiseIf (decide (marketDataSnapshotId ≠ .snapshotId hash)) .valueError
      "market_data_snapshot_id must reference market_data_content_hash"
    pure ⟨key,hash⟩
  | .digest _,_ => raise .valueError "market_data_content_hash must be a SHA-256 hexadecimal digest"
  | _,_ => raise .valueError "scan_lock_key must be a SHA-256 hexadecimal digest"

def FinalStrategyIdentity.formatVersion (_ : FinalStrategyIdentity) : String :=
  FINAL_STRATEGY_IDENTITY_FORMAT_VERSION

def FinalStrategyIdentity.key (d : Deployment) (i : FinalStrategyIdentity) : Digest :=
  d.sha256 (.finalStrategy i.scanLockKey i.marketDataSnapshotId i.marketDataContentHash)

def FinalStrategyIdentity.fromSnapshot (scanLockKey : Digest) (s : MarketDataSnapshot) : FinalStrategyIdentity :=
  ⟨scanLockKey,s.contentHash⟩

theorem identity_from_snapshot (key : Digest) (s : MarketDataSnapshot) :
    FinalStrategyIdentity.create (.digest key) s.snapshotId (.digest s.contentHash) =
      .ok (.fromSnapshot key s) := by
  simp [FinalStrategyIdentity.create,MarketDataSnapshot.snapshotId,raiseIf,FinalStrategyIdentity.fromSnapshot,
    Bind.bind,Except.bind,pure,Except.pure]

inductive ChildIntentPurpose where
  | notification
  deriving DecidableEq, Repr

def ChildIntentPurpose.value : ChildIntentPurpose → String
  | .notification => "NOTIFICATION"

def childIntentKey (d : Deployment) (finalStrategyKey : Digest) (purpose : ChildIntentPurpose) : Digest :=
  d.sha256 (.childIntent finalStrategyKey purpose.value)

-- The intent key and the format version are what the constructor insists on.
structure ChildIntent where
  childIntentId : UUID
  rotationPlanId : UUID
  portfolioId : UUID
  strategyRunId : UUID
  finalStrategyKey : Digest
  finalStrategyIdentityFormatVersion : String
  purpose : ChildIntentPurpose
  intentKey : Digest
  createdAt : Instant
  deriving DecidableEq, Repr

def buildChildIntent (d : Deployment) (childIntentId rotationPlanId portfolioId strategyRunId : UUID)
    (finalStrategyKey : Digest) (purpose : ChildIntentPurpose) (createdAt : Instant) : ChildIntent :=
  ⟨childIntentId,rotationPlanId,portfolioId,strategyRunId,finalStrategyKey,
    FINAL_STRATEGY_IDENTITY_FORMAT_VERSION,purpose,childIntentKey d finalStrategyKey purpose,createdAt⟩

def sameLogicalChildIntent (existing candidate : ChildIntent) : Bool :=
  existing.rotationPlanId == candidate.rotationPlanId && existing.portfolioId == candidate.portfolioId &&
    existing.strategyRunId == candidate.strategyRunId &&
    existing.finalStrategyKey == candidate.finalStrategyKey &&
    existing.finalStrategyIdentityFormatVersion == candidate.finalStrategyIdentityFormatVersion &&
    existing.purpose == candidate.purpose && existing.intentKey == candidate.intentKey

end SwapMonitor
