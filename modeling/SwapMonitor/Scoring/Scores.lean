import SwapMonitor.Scoring.Engine
import SwapMonitor.Domain.FixedArithmetic
import SwapMonitor.Exceptions.Traversals

namespace SwapMonitor.Scoring
open Collections Exceptions

variable {context : DecimalContext} {request : ScoringRequest} {candidate : CandidateMetrics} {factor : FactorConfiguration}

-- What a metric that is scored comes to.
structure Worth (context : DecimalContext) (candidate : CandidateMetrics) (factor : FactorConfiguration) (item : FactorContribution)
    (rawValue normalized turned worth : Decimal) : Prop where
  supplied : candidate.metrics.lookup factor.factorId = some (.decimal rawValue)
  normalizes : factor.normalization.normalize rawValue = .ok normalized
  turns : directed context factor.direction normalized = .ok turned
  weighs : turned.multiply factor.weight = .ok worth
  recorded : item.toContributionFields = ⟨factor.factorId,.scored,factor.weight,some rawValue,some turned,some worth,none⟩

theorem contribution_exact {item : FactorContribution} (returned : contribution context candidate factor = .ok item) :
    (item.status = .missing ∧ item.toContributionFields =
        ⟨factor.factorId,.missing,factor.weight,none,none,none,some "metric_not_supplied"⟩) ∨
      (item.status = .invalid ∧ item.toContributionFields =
        ⟨factor.factorId,.invalid,factor.weight,none,none,none,some "metric_must_be_finite_decimal"⟩) ∨
      ∃ rawValue normalized turned worth, Worth context candidate factor item rawValue normalized turned worth := by
  have recorded : ∀ {fields : ContributionFields}, FactorContribution.create fields = .ok item → item.toContributionFields = fields := by
    intro fields created
    obtain ⟨_,rfl⟩ := build_exact.mp created
    rfl
  unfold contribution at returned
  split at returned
  · have fields := recorded returned
    exact .inl ⟨by rw [fields],fields⟩
  · have fields := recorded returned
    exact .inr (.inl ⟨by rw [fields],fields⟩)
  · rename_i rawValue supplied
    simp only [bind_ok] at returned
    obtain ⟨normalized,normalizes,turned,turns,worth,weighs,created⟩ := returned
    exact .inr (.inr ⟨rawValue,normalized,turned,worth,supplied,normalizes,turns,weighs,recorded created⟩)

-- The parts of a score, factor by factor.
def Parts (context : DecimalContext) (candidate : CandidateMetrics) (factors : List FactorConfiguration) (worths : List Decimal) : Prop :=
  List.Forall₂ (fun factor worth => ∃ item rawValue normalized turned, Worth context candidate factor item rawValue normalized turned worth)
    factors worths

theorem parts_exact {factors : List FactorConfiguration} {items : List FactorContribution}
    (each : List.Forall₂ (fun factor item => contribution context candidate factor = .ok item) factors items)
    (valid : items.any (fun item => item.status = .invalid) = false) (complete : items.any (fun item => item.status = .missing) = false) :
    Parts context candidate factors (items.filterMap fun item => item.contribution) := by
  induction each with
  | nil => exact .nil
  | @cons factor item factors items head _ ih =>
    rw [List.any_cons,Bool.or_eq_false_iff,decide_eq_false_iff_not] at valid complete
    rcases contribution_exact head with ⟨missing,_⟩ | ⟨invalid,_⟩ | ⟨rawValue,normalized,turned,worth,scored⟩
    · exact absurd missing complete.1
    · exact absurd invalid valid.1
    · have own : item.contribution = some worth := by rw [scored.recorded]
      rw [List.filterMap_cons]
      simp only [own]
      exact .cons ⟨item,rawValue,normalized,turned,scored⟩ (ih valid.2 complete.2)

-- An outcome, and what its score is when it has one.
structure Outcome (context : DecimalContext) (request : ScoringRequest) (candidate : CandidateMetrics) (outcome : CandidateScore) : Prop where
  authorized : AuthorizedCandidate request.plan request.candidateGroup candidate.instrument request.portfolioOwnerId
  instrument : outcome.instrument = candidate.instrument
  ranked : outcome.status = .ranked → outcome.rank = some 1 ∧ ∃ worths total, outcome.score = some total ∧
    Parts context candidate request.configuration.factors worths ∧ sumDecimals (.ofNat 0) worths = .ok total

theorem outcome_exact {outcome : CandidateScore} (returned : scoreCandidate context request candidate = .ok outcome) :
    Outcome context request candidate outcome := by
  unfold scoreCandidate at returned
  rw [check_ok,candidate_exact] at returned
  obtain ⟨authorized,rest⟩ := returned
  obtain ⟨items,made,rest⟩ := bind_ok.mp rest
  have recorded : ∀ {fields : ScoreFields}, CandidateScore.create fields = .ok outcome → outcome.toScoreFields = fields := by
    intro fields created
    obtain ⟨_,rfl⟩ := build_exact.mp created
    rfl
  split at rest
  · have fields := recorded rest
    exact ⟨authorized,by rw [fields],fun ranked => nomatch (congrArg ScoreFields.status fields).symm.trans ranked⟩
  rename_i valid
  split at rest
  · have fields := recorded rest
    exact ⟨authorized,by rw [fields],fun ranked => nomatch (congrArg ScoreFields.status fields).symm.trans ranked⟩
  rename_i complete
  obtain ⟨total,summed,created⟩ := bind_ok.mp rest
  have fields := recorded created
  refine ⟨authorized,by rw [fields],fun _ => ⟨by rw [fields],_,total,by rw [fields],?_,summed⟩⟩
  exact parts_exact (mapM_exact.mp made) (Bool.eq_false_iff.mpr valid) (Bool.eq_false_iff.mpr complete)

theorem factors_some (configuration : ScoringConfiguration) : configuration.factors ≠ [] := by
  have accepted := configuration.accepted
  simp only [requireFactors,check_ok,raiseIf_ok,List.isEmpty_eq_false_iff] at accepted
  exact accepted.1

-- A score is a number of the fixed context.
theorem score_held {outcome : CandidateScore} (made : Outcome context request candidate outcome) (ranked : outcome.status = .ranked) :
    ∃ total, outcome.score = some total ∧ DecimalContext.default.Holds total.toRat := by
  obtain ⟨_,worths,total,scored,parts,summed⟩ := made.ranked ranked
  refine ⟨total,scored,sum_holds ?_ summed⟩
  intro none
  have counted := parts.length_eq
  rw [none,List.length_nil,List.length_eq_zero_iff] at counted
  exact factors_some request.configuration counted

section Ranks
variable {candidates ranking : List CandidateScore}

-- A candidate with the rank it is given.
def CandidateScore.ranks (candidate : CandidateScore) (place : Nat) (given : CandidateScore) : Prop :=
  given.toScoreFields = ⟨candidate.instrument,candidate.status,candidate.score,some place,candidate.factorContributions⟩

theorem rank_exact (policy : TieBreakPolicy) (returned : rank context candidates policy = .ok ranking) : ∃ keyed,
    List.Forall₂ (fun candidate entry => context.minus (candidate.score.getD (.ofNat 0)) = .ok entry.1 ∧ entry.2 = candidate) candidates keyed ∧
      List.Forall₂ (fun entry given => entry.1.2.ranks entry.2 given) ((sortBy sortKey keyed).zipIdx 1) ranking := by
  cases policy
  obtain ⟨keyed,keys,rest⟩ := bind_ok.mp returned
  refine ⟨keyed,(mapM_exact.mp keys).imp ?_,(mapM_exact.mp rest).imp ?_⟩
  · intro candidate entry made
    simp only [negated,bind_ok,pure_ok] at made
    obtain ⟨key,turned,rfl⟩ := made
    exact ⟨turned,rfl⟩
  · intro entry given created
    obtain ⟨_,rfl⟩ := build_exact.mp created
    rfl

end Ranks
end SwapMonitor.Scoring
