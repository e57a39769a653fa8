import SwapMonitor.Domain.Errors
import Mathlib.Data.Rat.Defs
import Mathlib.Algebra.Order.Field.Rat
import Mathlib.Tactic.NormNum

namespace SwapMonitor

-- A digest stands for the 64 hexadecimal digits of a SHA-256 value; its length and
-- alphabet checks hold by type. An instant is an aware datetime, compared as Python does.
abbrev UUID := Nat
abbrev Digest := Nat
abbrev Instant := Int
abbrev Date := Int

-- The strings the coordinator stores: literal text, and the two kinds derived from a hash.
inductive Text where
  | plain (value : String)
  | digest (value : Digest)
  | snapshotId (contentHash : Digest)
  deriving DecidableEq, Repr

-- str.isspace on the characters str.strip removes.
def isSpace (c : Char) : Bool :=
  c.val ∈ [0x09,0x0A,0x0B,0x0C,0x0D,0x1C,0x1D,0x1E,0x1F,0x20,0x85,0xA0,0x1680,0x2000,0x2001,0x2002,
    0x2003,0x2004,0x2005,0x2006,0x2007,0x2008,0x2009,0x200A,0x2028,0x2029,0x202F,0x205F,0x3000]

-- not value.strip()
def blank (value : String) : Bool := value.toList.all isSpace

def Text.blank : Text → Bool
  | .plain value => SwapMonitor.blank value
  | _ => false

-- A finite Decimal: sign, coefficient digits as a number, exponent.
structure Decimal where
  negative : Bool
  coefficient : Nat
  exponent : Int
  deriving DecidableEq, Repr

def Decimal.toRat (d : Decimal) : ℚ :=
  (if d.negative then -1 else 1) * (d.coefficient : ℚ) *
    (if 0 ≤ d.exponent then (10 : ℚ) ^ d.exponent.toNat else ((10 : ℚ) ^ (-d.exponent).toNat)⁻¹)

def Decimal.ofNat (n : Nat) : Decimal := ⟨false,n,0⟩

-- The ordering operators compare the exact numerical values.
def Decimal.lt (a b : Decimal) : Bool := decide (a.toRat < b.toRat)
def Decimal.le (a b : Decimal) : Bool := decide (a.toRat ≤ b.toRat)

structure Quantity where
  value : Decimal
  nonneg : 0 ≤ value.toRat
  deriving DecidableEq

inductive Ownership where
  | system
  | user (owner : UUID)
  | portfolio (owner : UUID)
  deriving DecidableEq, Repr

structure ConfigurationSnapshotRef where
  snapshotId : UUID
  contentHash : Digest
  createdAt : Instant
  deriving DecidableEq, Repr

-- The versioned components of the preliminary scan lock. Two windows are equal when they
-- are the same instant, and the canonical payload renders them in the market timezone.
structure ScanIdentity where
  rotationPlanId : UUID
  marketSessionDate : Date
  scanWindowStart : Instant
  scanInterval : String
  configurationSnapshotHash : Digest
  marketTimezone : String
  deriving DecidableEq, Repr

-- What the three SHA-256 keys are taken of.
inductive CanonicalPayload where
  | scanIdentity (identity : ScanIdentity)
  | finalStrategy (scanLockKey : Digest) (marketDataSnapshotId : Text) (marketDataContentHash : Digest)
  | childIntent (finalStrategyKey : Digest) (purpose : String)
  deriving DecidableEq, Repr

-- Facts of the running system outside the modelled files: the hashes, the timezone database
-- as the market-local date of an instant, and who owns which portfolio.
structure Deployment where
  sha256 : CanonicalPayload → Digest
  -- uuid5(NAMESPACE_URL, "rotation-child-intent:v1:" + final key + ":" + run id)
  uuid5 : Digest → UUID → UUID
  zone : String → Option (Instant → Date)
  portfolioOwners : UUID → Option UUID

def ScanIdentity.key (d : Deployment) (identity : ScanIdentity) : Digest :=
  d.sha256 (.scanIdentity identity)

-- ScanIdentity.__post_init__ on values whose types already are right.
def ScanIdentity.postInit (d : Deployment) (identity : ScanIdentity) : Except PyError Unit := do
  raiseIf (blank identity.scanInterval) .valueError "scan_interval must not be blank"
  match d.zone identity.marketTimezone with
  | none => raise .valueError "market_timezone must be a valid IANA timezone"
  | some localDate =>
    raiseIf (decide (identity.marketSessionDate ≠ localDate identity.scanWindowStart)) .valueError
      "market_session_date must match scan_window_start in market_timezone"

structure AccessContext where
  actorUserId : UUID
  isAdministrator : Bool
  deriving DecidableEq, Repr

def AccessContext.canRead (a : AccessContext) (ownership : Ownership)
    (portfolioOwnerId : Option UUID) : Bool :=
  a.isAdministrator || match ownership with
    | .system => true
    | .user owner => owner == a.actorUserId
    | .portfolio _ => portfolioOwnerId == some a.actorUserId

def AccessContext.canMutate (a : AccessContext) (ownership : Ownership)
    (portfolioOwnerId : Option UUID) : Bool :=
  a.isAdministrator || match ownership with
    | .system => false
    | .user owner => owner == a.actorUserId
    | .portfolio _ => portfolioOwnerId == some a.actorUserId

def AccessContext.requireRead (a : AccessContext) (ownership : Ownership)
    (portfolioOwnerId : Option UUID) : Except PyError Unit :=
  raiseIf (!a.canRead ownership portfolioOwnerId) .notFoundForActor "resource was not found for actor"

def AccessContext.requireMutation (a : AccessContext) (ownership : Ownership)
    (portfolioOwnerId : Option UUID) : Except PyError Unit :=
  if a.canMutate ownership portfolioOwnerId then .ok ()
  else if ownership = .system then
    raise .authorizationDenied "only administrators may mutate SYSTEM resources"
  else raise .notFoundForActor "resource was not found for actor"

-- _PortfolioScopedAdapter
def portfolioOwner (d : Deployment) (portfolioId : UUID) : Except PyError UUID :=
  match d.portfolioOwners portfolioId with
  | some owner => .ok owner
  | none => raise .notFoundForActor "portfolio was not found for actor"

def requirePortfolioRead (d : Deployment) (portfolioId : UUID) (a : AccessContext) : Except PyError UUID := do
  let owner ← portfolioOwner d portfolioId
  a.requireRead (.portfolio portfolioId) (some owner)
  pure owner

def requirePortfolioMutation (d : Deployment) (portfolioId : UUID) (a : AccessContext) :
    Except PyError UUID := do
  let owner ← portfolioOwner d portfolioId
  a.requireMutation (.portfolio portfolioId) (some owner)
  pure owner

end SwapMonitor
