import SwapMonitor.Domain.Invariants
import SwapMonitor.Domain.DecimalContexts
import SwapMonitor.Exceptions.Checks

namespace SwapMonitor.Scoring
open Exceptions

inductive FactorDirection where
  | higherIsBetter | lowerIsBetter
  deriving DecidableEq, Repr

inductive TieBreakPolicy where
  | instrumentIdAscending
  deriving DecidableEq, Repr

inductive FactorScoreStatus where
  | scored | missing | invalid
  deriving DecidableEq, Repr

inductive CandidateScoreStatus where
  | ranked | missingMetric | invalidMetric
  deriving DecidableEq, Repr

def requireBounds (lowerBound upperBound : Decimal) : Except PyError Unit :=
  raiseIf (decide (upperBound.toRat ≤ lowerBound.toRat)) .scoringError "normalization lower_bound must be smaller than upper_bound"

-- An inclusive range that is normalized linearly and clamped to zero through one.
structure LinearNormalization where
  lowerBound : Decimal
  upperBound : Decimal
  accepted : requireBounds lowerBound upperBound = .ok ()

def LinearNormalization.normalize (normalization : LinearNormalization) (value : Decimal) : Except PyError Decimal := do
  let offset ← value.subtract normalization.lowerBound
  let range ← normalization.upperBound.subtract normalization.lowerBound
  let normalized ← divideDecimal offset range
  if normalized.toRat < 0 then pure (.ofNat 0)
  else if 1 < normalized.toRat then pure (.ofNat 1)
  else pure normalized

def requireWeight (weight : Decimal) : Except PyError Unit :=
  raiseIf (decide (weight.toRat ≤ 0)) .scoringError "factor weight must be positive"

structure FactorConfiguration where
  factorId : String
  weight : Decimal
  direction : FactorDirection
  normalization : LinearNormalization
  accepted : requireWeight weight = .ok ()

def requireFactors (factors : List FactorConfiguration) : Except PyError Unit := do
  raiseIf factors.isEmpty .scoringError "scoring configuration must contain at least one factor"
  raiseIf (!decide (factors.map FactorConfiguration.factorId).Nodup) .scoringError "factor ids must be unique"

structure ScoringConfiguration where
  factors : List FactorConfiguration
  tieBreaker : TieBreakPolicy
  accepted : requireFactors factors = .ok ()

-- A supplied metric: a finite Decimal, or a value of which only that it is none matters.
inductive Metric where
  | decimal (value : Decimal)
  | other
  deriving DecidableEq, Repr

structure CandidateMetrics where
  instrument : UUID
  metrics : List (String × Metric)

def requireCandidates (candidates : List CandidateMetrics) : Except PyError Unit := do
  raiseIf candidates.isEmpty .scoringError "scoring request must contain at least one candidate"
  raiseIf (!decide (candidates.map CandidateMetrics.instrument).Nodup) .scoringError "candidates must be unique by instrument"

structure ScoringRequest where
  plan : RotationPlan
  candidateGroup : CandidateGroup
  portfolioOwnerId : UUID
  configuration : ScoringConfiguration
  candidates : List CandidateMetrics
  accepted : requireCandidates candidates = .ok ()
  -- A UUID has 128 bits.
  room : ∀ candidate ∈ candidates, candidate.instrument < 2 ^ 128

structure ContributionFields where
  factorId : String
  status : FactorScoreStatus
  weight : Decimal
  metricValue : Option Decimal
  normalizedValue : Option Decimal
  contribution : Option Decimal
  reason : Option String
  deriving DecidableEq, Repr

def requireScored (value : Option Decimal) (fieldName : String) : Except PyError Unit :=
  raiseIf value.isNone .scoringError ("scored factor requires " ++ fieldName)

-- reason is None or not reason.strip()
def unexplained : Option String → Bool
  | none => true
  | some reason => blank reason

-- FactorContribution.__post_init__; that the identifier is one and the numbers are finite was checked where they came from.
def ContributionFields.postInit (fields : ContributionFields) : Except PyError Unit :=
  match fields.status with
  | .scored => do
    requireScored fields.metricValue "metric_value"
    requireScored fields.normalizedValue "normalized_value"
    requireScored fields.contribution "contribution"
    raiseIf fields.reason.isSome .scoringError "scored factor cannot have a reason"
  | .missing | .invalid => do
    raiseIf (fields.normalizedValue.isSome || fields.contribution.isSome) .scoringError
      "unavailable factor cannot have a normalized value or contribution"
    raiseIf (unexplained fields.reason) .scoringError "unavailable factor requires an audit reason"

structure FactorContribution extends ContributionFields where
  accepted : toContributionFields.postInit = .ok ()

def FactorContribution.create : ContributionFields → Except PyError FactorContribution := build ContributionFields.postInit .mk

structure ScoreFields where
  instrument : UUID
  status : CandidateScoreStatus
  score : Option Decimal
  rank : Option Nat
  factorContributions : List FactorContribution

-- CandidateScore.__post_init__
def ScoreFields.postInit (fields : ScoreFields) : Except PyError Unit := do
  raiseIf fields.factorContributions.isEmpty .scoringError "candidate score must retain factor contributions"
  match fields.status with
  | .ranked =>
    raiseIf (fields.score.isNone || decide (fields.rank.getD 0 < 1)) .scoringError
      "ranked candidate requires a score and positive rank"
  | .missingMetric | .invalidMetric =>
    raiseIf (fields.score.isSome || fields.rank.isSome) .scoringError "non-rankable candidate cannot have a score or rank"

structure CandidateScore extends ScoreFields where
  accepted : toScoreFields.postInit = .ok ()

def CandidateScore.create : ScoreFields → Except PyError CandidateScore := build ScoreFields.postInit .mk

def CandidateScore.isRanked (candidate : CandidateScore) : Bool := decide (candidate.status = .ranked)

structure ResultFields where
  candidates : List CandidateScore
  tieBreaker : TieBreakPolicy
  actionable : Bool

-- ScoringResult.__post_init__
def ResultFields.postInit (fields : ResultFields) : Except PyError Unit := do
  raiseIf fields.candidates.isEmpty .scoringError "scoring result must contain candidate outcomes"
  raiseIf (fields.actionable != fields.candidates.any CandidateScore.isRanked) .scoringError
    "actionable must match whether a candidate was ranked"

structure ScoringResult extends ResultFields where
  accepted : toResultFields.postInit = .ok ()

def ScoringResult.create : ResultFields → Except PyError ScoringResult := build ResultFields.postInit .mk

end SwapMonitor.Scoring
