import SwapMonitor.Scoring.Scores

namespace SwapMonitor.Scoring
open Collections

-- Whether one value of a metric is at least as good as another.
def FactorDirection.AtLeast (direction : FactorDirection) (x y : Decimal) : Prop :=
  match direction with
  | .higherIsBetter => y.toRat ≤ x.toRat
  | .lowerIsBetter => x.toRat ≤ y.toRat

-- A candidate is at least as good as another on every configured factor.
def Dominates (configuration : ScoringConfiguration) (left right : CandidateMetrics) : Prop :=
  ∀ factor ∈ configuration.factors, ∀ x y, left.metrics.lookup factor.factorId = some (.decimal x) →
    right.metrics.lookup factor.factorId = some (.decimal y) → factor.direction.AtLeast x y

section Factors
variable {normalization : LinearNormalization} {factor : FactorConfiguration} {x y n m : Decimal}

theorem bounds_ordered (normalization : LinearNormalization) : normalization.lowerBound.toRat < normalization.upperBound.toRat := by
  have accepted := normalization.accepted
  rw [requireBounds,raiseIf_ok,decide_eq_false_iff_not,not_le] at accepted
  exact accepted

theorem weight_positive (factor : FactorConfiguration) : 0 < factor.weight.toRat := by
  have accepted := factor.accepted
  rw [requireWeight,raiseIf_ok,decide_eq_false_iff_not,not_le] at accepted
  exact accepted

def clamped (x : ℚ) : ℚ := max 0 (min 1 x)

theorem clamped_mono {x y : ℚ} (order : x ≤ y) : clamped x ≤ clamped y := max_le_max_left _ (min_le_min_left _ order)

theorem normalize_value (normalized : normalization.normalize x = .ok n) : ∃ range : ℚ,
    range = DecimalContext.default.round (normalization.upperBound.toRat - normalization.lowerBound.toRat) ∧ 0 < range ∧
      n.toRat = clamped (DecimalContext.default.round (DecimalContext.default.round (x.toRat - normalization.lowerBound.toRat) / range)) := by
  simp only [LinearNormalization.normalize,bind_ok] at normalized
  obtain ⟨offset,offsets,range,ranges,quotient,divides,chosen⟩ := normalized
  have width := subtracted_round ranges
  obtain ⟨nonzero,value⟩ := divided_round divides
  have nonneg : 0 ≤ range.toRat := by
    rw [width,← round_held (holds_zero DecimalContext.default)]
    exact fixed_mono (sub_nonneg.mpr (bounds_ordered normalization).le)
  refine ⟨range.toRat,width,lt_of_le_of_ne nonneg (Ne.symm nonzero),?_⟩
  rw [← subtracted_round offsets,← value]
  unfold clamped
  have zero : (Decimal.ofNat 0).toRat = 0 := by norm_num [Decimal.ofNat,Decimal.toRat]
  have one : (Decimal.ofNat 1).toRat = 1 := by norm_num [Decimal.ofNat,Decimal.toRat]
  split at chosen
  · rename_i below
    cases chosen
    rw [zero,min_eq_right (by linarith),max_eq_left below.le]
  split at chosen
  · rename_i above
    cases chosen
    rw [one,min_eq_left above.le,max_eq_right zero_le_one]
  · rename_i low high
    cases chosen
    rw [min_eq_right (not_lt.mp high),max_eq_right (not_lt.mp low)]

-- A greater metric is normalized to no less.
theorem normalize_mono (order : y.toRat ≤ x.toRat) (left : normalization.normalize x = .ok n) (right : normalization.normalize y = .ok m) :
    m.toRat ≤ n.toRat := by
  obtain ⟨range,width,positive,value⟩ := normalize_value left
  obtain ⟨range',width',_,value'⟩ := normalize_value right
  rw [value,value',width',← width]
  have offsets := fixed_mono (sub_le_sub_right order normalization.lowerBound.toRat)
  exact clamped_mono (fixed_mono (div_le_div_of_nonneg_right offsets positive.le))

-- A better metric, turned the way of its factor, is worth no less.
theorem directed_mono {turned turned' : Decimal} (better : factor.direction.AtLeast x y) (left : factor.normalization.normalize x = .ok n)
    (right : factor.normalization.normalize y = .ok m) (turns : directed .default factor.direction n = .ok turned)
    (turns' : directed .default factor.direction m = .ok turned') : turned'.toRat ≤ turned.toRat := by
  cases direction : factor.direction with
  | higherIsBetter =>
    rw [direction] at better turns turns'
    cases turns
    cases turns'
    exact normalize_mono better left right
  | lowerIsBetter =>
    rw [direction] at better turns turns'
    rw [context_subtracted turns,context_subtracted turns']
    exact fixed_mono (sub_le_sub_left (normalize_mono better right left) _)

theorem worth_mono {candidate candidate' : CandidateMetrics} {item item' : FactorContribution} {t t' p p' : Decimal}
    (left : Worth .default candidate factor item x n t p) (right : Worth .default candidate' factor item' y m t' p')
    (better : factor.direction.AtLeast x y) : p'.toRat ≤ p.toRat := by
  rw [multiplied_round left.weighs,multiplied_round right.weighs]
  have turned := directed_mono better left.normalizes right.normalizes left.turns right.turns
  exact fixed_mono (mul_le_mul_of_nonneg_right turned (weight_positive factor).le)

end Factors

theorem parts_mono {configuration : ScoringConfiguration} {candidate candidate' : CandidateMetrics} {worths worths' : List Decimal}
    (dominates : Dominates configuration candidate candidate') (left : Parts .default candidate configuration.factors worths)
    (right : Parts .default candidate' configuration.factors worths') : List.Forall₂ (fun p' p => p'.toRat ≤ p.toRat) worths' worths := by
  unfold Dominates at dominates
  unfold Parts at left right
  generalize configuration.factors = factors at dominates left right
  induction left generalizing worths' with
  | nil =>
    cases right
    exact .nil
  | cons head _ ih =>
    cases right with
    | cons head' tail' =>
      obtain ⟨_,x,_,_,scored⟩ := head
      obtain ⟨_,y,_,_,scored'⟩ := head'
      have better := dominates _ (List.mem_cons_self ..) x y scored.supplied scored'.supplied
      exact .cons (worth_mono scored scored' better) (ih (fun factor member => dominates factor (List.mem_cons_of_mem _ member)) tail')

-- A candidate that dominates another scores no less.
theorem score_mono {request : ScoringRequest} {candidate candidate' : CandidateMetrics} {outcome outcome' : CandidateScore} {total total' : Decimal}
    (dominates : Dominates request.configuration candidate candidate')
    (left : Outcome .default request candidate outcome) (right : Outcome .default request candidate' outcome')
    (ranked : outcome.status = .ranked) (ranked' : outcome'.status = .ranked)
    (scored : outcome.score = some total) (scored' : outcome'.score = some total') : total'.toRat ≤ total.toRat := by
  obtain ⟨_,worths,sum,same,parts,summed⟩ := left.ranked ranked
  obtain ⟨_,worths',sum',same',parts',summed'⟩ := right.ranked ranked'
  obtain rfl : total = sum := Option.some.inj (scored.symm.trans same)
  obtain rfl : total' = sum' := Option.some.inj (scored'.symm.trans same')
  exact sum_mono (parts_mono dominates parts parts') (le_refl _) summed' summed

end SwapMonitor.Scoring
