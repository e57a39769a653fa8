import SwapMonitor.Scoring.Base
import SwapMonitor.Collections.Orders
import Mathlib.Data.Prod.Lex
import Mathlib.Data.String.Basic

namespace SwapMonitor.Scoring
open Collections

-- A normalized metric is turned around in the caller's context.
def directed (context : DecimalContext) (direction : FactorDirection) (normalized : Decimal) : Except PyError Decimal :=
  match direction with
  | .higherIsBetter => pure normalized
  | .lowerIsBetter => context.subtract (.ofNat 1) normalized

-- DeterministicScoringEngine._contribution
def contribution (context : DecimalContext) (candidate : CandidateMetrics) (factor : FactorConfiguration) :
    Except PyError FactorContribution :=
  match candidate.metrics.lookup factor.factorId with
  | none => FactorContribution.create ⟨factor.factorId,.missing,factor.weight,none,none,none,some "metric_not_supplied"⟩
  | some .other => FactorContribution.create ⟨factor.factorId,.invalid,factor.weight,none,none,none,some "metric_must_be_finite_decimal"⟩
  | some (.decimal rawValue) => do
    let normalized ← factor.normalization.normalize rawValue
    let normalized ← directed context factor.direction normalized
    let contribution ← normalized.multiply factor.weight
    FactorContribution.create ⟨factor.factorId,.scored,factor.weight,some rawValue,some normalized,some contribution,none⟩

-- DeterministicScoringEngine._score_candidate
def scoreCandidate (context : DecimalContext) (request : ScoringRequest) (candidate : CandidateMetrics) :
    Except PyError CandidateScore := do
  ensureCandidateInstrumentIsAuthorized request.plan request.candidateGroup candidate.instrument request.portfolioOwnerId
  let contributions ← request.configuration.factors.mapM (contribution context candidate)
  if contributions.any fun item => item.status = .invalid then
    CandidateScore.create ⟨candidate.instrument,.invalidMetric,none,none,contributions⟩
  else if contributions.any fun item => item.status = .missing then
    CandidateScore.create ⟨candidate.instrument,.missingMetric,none,none,contributions⟩
  else do
    let total ← sumDecimals (.ofNat 0) (contributions.filterMap fun item => item.contribution)
    CandidateScore.create ⟨candidate.instrument,.ranked,some total,some 1,contributions⟩

-- The first half of the sort key, which the caller's context negates.
def negated (context : DecimalContext) (candidate : CandidateScore) : Except PyError (Decimal × CandidateScore) := do
  let key ← context.minus (candidate.score.getD (.ofNat 0))
  pure (key,candidate)

def sortKey (entry : Decimal × CandidateScore) : ℚ ×ₗ String := toLex (entry.1.toRat,uuidText entry.2.instrument)

def placed (entry : (Decimal × CandidateScore) × Nat) : Except PyError CandidateScore :=
  CandidateScore.create ⟨entry.1.2.instrument,entry.1.2.status,entry.1.2.score,some entry.2,entry.1.2.factorContributions⟩

-- DeterministicScoringEngine._rank; there is no other policy.
def rank (context : DecimalContext) (candidates : List CandidateScore) : TieBreakPolicy → Except PyError (List CandidateScore)
  | .instrumentIdAscending => do
    let keyed ← candidates.mapM (negated context)
    ((sortBy sortKey keyed).zipIdx 1).mapM placed

-- DeterministicScoringEngine.score in a context of the caller.
def score (context : DecimalContext) (request : ScoringRequest) : Except PyError ScoringResult := do
  let outcomes ← request.candidates.mapM (scoreCandidate context request)
  let orderedRanked ← rank context (outcomes.filter CandidateScore.isRanked) request.configuration.tieBreaker
  ScoringResult.create ⟨orderedRanked ++ outcomes.filter fun outcome => !outcome.isRanked,request.configuration.tieBreaker,
    !orderedRanked.isEmpty⟩

end SwapMonitor.Scoring
