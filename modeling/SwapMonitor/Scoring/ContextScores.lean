import SwapMonitor.Scoring.Rankings
import SwapMonitor.Domain.ContextExtremes

namespace SwapMonitor.Scoring
open Collections Exceptions

-- Two writings of a number, or none.
def SameOption (a b : Option Decimal) : Prop := a.map Decimal.toRat = b.map Decimal.toRat

structure FactorContribution.Same (a b : FactorContribution) : Prop where
  factorId : a.factorId = b.factorId
  status : a.status = b.status
  weight : a.weight = b.weight
  metricValue : a.metricValue = b.metricValue
  normalizedValue : SameOption a.normalizedValue b.normalizedValue
  contribution : SameOption a.contribution b.contribution
  reason : a.reason = b.reason

structure CandidateScore.Same (a b : CandidateScore) : Prop where
  instrument : a.instrument = b.instrument
  status : a.status = b.status
  score : SameOption a.score b.score
  rank : a.rank = b.rank
  factorContributions : List.Forall₂ FactorContribution.Same a.factorContributions b.factorContributions

structure ScoringResult.Same (a b : ScoringResult) : Prop where
  candidates : List.Forall₂ CandidateScore.Same a.candidates b.candidates
  tieBreaker : a.tieBreaker = b.tieBreaker
  actionable : a.actionable = b.actionable

-- What is left of one when a normalized metric is turned around has one digit.
def TurnsExactly (candidate : CandidateMetrics) (factor : FactorConfiguration) : Prop :=
  factor.direction = .lowerIsBetter → ∀ rawValue normalized, candidate.metrics.lookup factor.factorId = some (.decimal rawValue) →
    factor.normalization.normalize rawValue = .ok normalized → OneDigit (1 - normalized.toRat)

section Contributions
variable {c c' : DecimalContext} {request : ScoringRequest} {candidate : CandidateMetrics} {factor : FactorConfiguration}

theorem same_option {a b : Option Decimal} (same : SameOption a b) : a.isNone = b.isNone ∧ a.isSome = b.isSome := by
  unfold SameOption at same
  cases a <;> cases b <;> simp_all

theorem option_related {a b : Option Decimal} (same : SameOption a b) : Option.Rel SameNumber a b := by
  unfold SameOption at same
  cases a <;> cases b
  · exact .none
  · cases same
  · cases same
  · exact .some (Option.some.inj same)

theorem same_contribution {fields fields' : ContributionFields} (factorId : fields.factorId = fields'.factorId)
    (status : fields.status = fields'.status) (weight : fields.weight = fields'.weight) (metricValue : fields.metricValue = fields'.metricValue)
    (normalizedValue : SameOption fields.normalizedValue fields'.normalizedValue)
    (worth : SameOption fields.contribution fields'.contribution) (reason : fields.reason = fields'.reason) :
    Agree FactorContribution.Same (FactorContribution.create fields) (FactorContribution.create fields') := by
  refine agree_build ?_ fun _ _ => ⟨factorId,status,weight,metricValue,normalizedValue,worth,reason⟩
  obtain ⟨normalizedNone,normalizedSome⟩ := same_option normalizedValue
  obtain ⟨worthNone,worthSome⟩ := same_option worth
  simp only [ContributionFields.postInit,requireScored,status,metricValue,reason,normalizedNone,normalizedSome,worthNone,worthSome]

theorem directed_agrees {normalized : Decimal} (one : factor.direction = .lowerIsBetter → OneDigit (1 - normalized.toRat)) :
    Agree SameNumber (directed c factor.direction normalized) (directed c' factor.direction normalized) := by
  cases way : factor.direction with
  | higherIsBetter => exact .returned rfl
  | lowerIsBetter =>
    have unit : (Decimal.ofNat 1).toRat = 1 := by decide +kernel
    exact held_subtracted rfl rfl (by rw [unit]; exact one way)

theorem contribution_agrees (exact : TurnsExactly candidate factor) :
    Agree FactorContribution.Same (contribution c candidate factor) (contribution c' candidate factor) := by
  unfold contribution
  cases supplied : candidate.metrics.lookup factor.factorId with
  | none => exact same_contribution rfl rfl rfl rfl rfl rfl rfl
  | some metric =>
    cases metric with
    | other => exact same_contribution rfl rfl rfl rfl rfl rfl rfl
    | decimal rawValue =>
      refine agree_check fun normalized made => ?_
      refine agree_bind (directed_agrees fun way => exact way rawValue normalized supplied made) fun turned turned' _ same => ?_
      refine agree_bind (multiply_agrees same rfl) fun worth worth' _ weighed => ?_
      exact same_contribution rfl rfl rfl rfl (congrArg some same) (congrArg some weighed) rfl

theorem same_statuses {items items' : List FactorContribution} (each : List.Forall₂ FactorContribution.Same items items')
    (status : FactorScoreStatus) : items.any (fun item => item.status = status) = items'.any fun item => item.status = status := by
  induction each with
  | nil => rfl
  | cons head _ ih => rw [List.any_cons,List.any_cons,ih,head.status]

theorem same_worths {items items' : List FactorContribution} (each : List.Forall₂ FactorContribution.Same items items') :
    List.Forall₂ SameNumber (items.filterMap fun item => item.contribution) (items'.filterMap fun item => item.contribution) := by
  refine List.rel_filterMap (R := FactorContribution.Same) ?_ each
  exact fun _ _ same => option_related same.contribution

theorem same_candidate {fields fields' : ScoreFields} (instrument : fields.instrument = fields'.instrument)
    (status : fields.status = fields'.status) (score : SameOption fields.score fields'.score) (rank : fields.rank = fields'.rank)
    (each : List.Forall₂ FactorContribution.Same fields.factorContributions fields'.factorContributions) :
    Agree CandidateScore.Same (CandidateScore.create fields) (CandidateScore.create fields') := by
  refine agree_build ?_ fun _ _ => ⟨instrument,status,score,rank,each⟩
  obtain ⟨scoreNone,scoreSome⟩ := same_option score
  simp only [ScoreFields.postInit,status,rank,scoreNone,scoreSome,forall₂_empty each]

-- The factors are scored one after the other, for a candidate that may be.
def CandidateSettled (request : ScoringRequest) (candidate : CandidateMetrics) : Prop :=
  AuthorizedCandidate request.plan request.candidateGroup candidate.instrument request.portfolioOwnerId →
    Reached (TurnsExactly candidate) (fun factor => ∃ item, contribution .default candidate factor = .ok item) request.configuration.factors

theorem candidate_agrees (settled : CandidateSettled request candidate) :
    Agree CandidateScore.Same (scoreCandidate c request candidate) (scoreCandidate c' request candidate) := by
  unfold scoreCandidate
  refine agree_check fun _ authorized => ?_
  refine agree_bind (agree_reached (settled (candidate_exact.mp authorized)) (fun _ exact => contribution_agrees exact)
    fun _ exact => contribution_agrees exact) fun items items' _ each => ?_
  rw [same_statuses each,same_statuses each]
  split
  · exact same_candidate rfl rfl rfl rfl each
  split
  · exact same_candidate rfl rfl rfl rfl each
  · exact agree_bind (sum_agrees (same_worths each) rfl) fun _ _ _ same => same_candidate rfl rfl (congrArg some same) rfl each

end Contributions

-- No score is too great to be negated, and none is rounded to that of a candidate it is ranked before in spite of the identifiers.
structure RankSettled (candidates : List CandidateScore) : Prop where
  within : ∀ candidate ∈ candidates, |candidate.points| ≤ ONE_DIGIT.greatest
  told : ∀ a ∈ candidates, ∀ b ∈ candidates, b.points < a.points → uuidText b.instrument ≤ uuidText a.instrument →
    ∀ c : DecimalContext, c.round (-a.points) ≠ c.round (-b.points)

section Ranking
variable {c c' : DecimalContext} {candidates candidates' : List CandidateScore}

theorem same_points {a b : CandidateScore} (same : a.Same b) : a.points = b.points := by
  have scores := option_related same.score
  unfold CandidateScore.points
  generalize a.score = score at scores ⊢
  generalize b.score = score' at scores ⊢
  cases scores with
  | none => rfl
  | some number => exact number

theorem settled_related (each : List.Forall₂ CandidateScore.Same candidates candidates') (settled : RankSettled candidates) :
    RankSettled candidates' := by
  constructor
  · intro b member
    obtain ⟨a,place,same⟩ := forall₂_left each.flip b member
    rw [← same_points same]
    exact settled.within a place
  · intro b member b' member' less texts
    obtain ⟨a,place,same⟩ := forall₂_left each.flip b member
    obtain ⟨a',place',same'⟩ := forall₂_left each.flip b' member'
    rw [← same_points same,← same_points same'] at less ⊢
    rw [← same.instrument,← same'.instrument] at texts
    exact settled.told a place a' place' less texts

-- Rounded scores order the candidates as the scores do.
theorem keys_ordered (settled : RankSettled candidates) {a b : CandidateScore} (left : a ∈ candidates) (right : b ∈ candidates)
    (order : toLex (c.round (-a.points),uuidText a.instrument) ≤ toLex (c.round (-b.points),uuidText b.instrument)) :
    position a ≤ position b := by
  rw [position,position,Prod.Lex.toLex_le_toLex]
  rw [Prod.Lex.toLex_le_toLex] at order
  rcases lt_trichotomy a.points b.points with less | same | more
  · have rounded := round_mono c (neg_le_neg less.le)
    rcases order with below | ⟨tied,texts⟩
    · exact absurd below (not_lt.mpr rounded)
    · exact absurd tied.symm (settled.told b right a left less texts c)
  · rw [same] at order ⊢
    exact .inr ⟨rfl,(order.resolve_left (lt_irrefl _)).2⟩
  · exact .inl (neg_lt_neg more)

theorem keyed_sorted (settled : RankSettled candidates) (distinct : (candidates.map position).Nodup) :
    ∃ keyed, candidates.mapM (negated c) = .ok keyed ∧ (sortBy sortKey keyed).map Prod.snd = sortBy position candidates := by
  obtain ⟨keyed,made⟩ : ∃ keyed, candidates.mapM (negated c) = .ok keyed := by
    rw [mapM_returns]
    intro candidate member
    obtain ⟨key,turned,_⟩ := minus_rounded (c := c) (settled.within candidate member)
    exact ⟨(key,candidate),by rw [negated,turned]; rfl⟩
  have keys : List.Forall₂ (fun candidate entry => entry.2 = candidate ∧ entry.1.toRat = c.round (-candidate.points)) candidates keyed := by
    refine (mapM_exact.mp made).imp ?_
    intro candidate entry returned
    simp only [negated,bind_ok,pure_ok] at returned
    obtain ⟨key,turned,rfl⟩ := returned
    exact ⟨rfl,context_minus turned⟩
  have known : ∀ entry ∈ keyed, entry.2 ∈ candidates ∧ sortKey entry = toLex (c.round (-entry.2.points),uuidText entry.2.instrument) := by
    intro entry member
    obtain ⟨candidate,place,own,value⟩ := forall₂_left keys.flip entry member
    rw [own,sortKey,value,own]
    exact ⟨place,rfl⟩
  have firsts : List.Forall₂ Eq candidates (keyed.map Prod.snd) := List.forall₂_map_right_iff.mpr (keys.imp fun _ _ own => own.1.symm)
  rw [List.forall₂_eq_eq_eq] at firsts
  refine ⟨keyed,made,?_⟩
  have perm : ((sortBy sortKey keyed).map Prod.snd).Perm candidates := by
    rw [firsts]
    exact (sortBy_perm sortKey keyed).map Prod.snd
  have sorted : ((sortBy sortKey keyed).map Prod.snd).Pairwise fun a b => position a ≤ position b := by
    rw [List.pairwise_map]
    refine (sortBy_ordered sortKey keyed).imp_of_mem fun left right order => ?_
    obtain ⟨inside,key⟩ := known _ (mem_sortBy.mp left)
    obtain ⟨inside',key'⟩ := known _ (mem_sortBy.mp right)
    rw [key,key'] at order
    exact keys_ordered settled inside inside' order
  rw [← sortBy_sorted sorted]
  exact (sortBy_same distinct perm.symm).symm

theorem places_related {entries entries' : List (Decimal × CandidateScore)}
    (each : List.Forall₂ (fun entry entry' => entry.2.Same entry'.2) entries entries') (n : Nat) :
    List.Forall₂ (fun place place' => place.1.2.Same place'.1.2 ∧ place.2 = place'.2) (entries.zipIdx n) (entries'.zipIdx n) := by
  induction each generalizing n with
  | nil => exact .nil
  | cons head _ ih => exact .cons ⟨head,rfl⟩ (ih (n + 1))

theorem rank_agrees (each : List.Forall₂ CandidateScore.Same candidates candidates') (settled : RankSettled candidates)
    (distinct : (candidates.map position).Nodup) (policy : TieBreakPolicy) :
    Agree (List.Forall₂ CandidateScore.Same) (rank c candidates policy) (rank c' candidates' policy) := by
  have positions : ∀ a b : CandidateScore, a.Same b → position a = position b := by
    intro a b same
    rw [position,position,same_points same,same.instrument]
  have distinct' : (candidates'.map position).Nodup := by
    have equal : List.Forall₂ Eq (candidates.map position) (candidates'.map position) := by
      rw [List.forall₂_map_left_iff,List.forall₂_map_right_iff]
      exact each.imp positions
    rw [List.forall₂_eq_eq_eq] at equal
    rwa [← equal]
  obtain ⟨keyed,made,order⟩ := keyed_sorted (c := c) settled distinct
  obtain ⟨keyed',made',order'⟩ := keyed_sorted (c := c') (settled_related each settled) distinct'
  cases policy
  rw [rank,rank,made,made']
  have sorted := sortBy_related positions each
  rw [← order,← order',List.forall₂_map_left_iff,List.forall₂_map_right_iff] at sorted
  refine agree_related (places_related sorted 1) fun place place' same => ?_
  obtain ⟨same,index⟩ := same
  exact same_candidate same.instrument same.status same.score (congrArg some index) same.factorContributions

end Ranking

-- What keeps the caller's context out of a score: every metric that is turned around, and every rank.
structure ScoreSettled (request : ScoringRequest) : Prop where
  turned : Reached (CandidateSettled request) (fun candidate => ∃ outcome, scoreCandidate .default request candidate = .ok outcome)
    request.candidates
  ranked : ∀ outcomes, request.candidates.mapM (scoreCandidate .default request) = .ok outcomes →
    RankSettled (outcomes.filter CandidateScore.isRanked)

theorem same_ranked {a b : CandidateScore} (same : a.Same b) : a.isRanked = b.isRanked := by
  unfold CandidateScore.isRanked
  rw [same.status]

theorem kept_related {candidates candidates' : List CandidateScore} {kept : CandidateScore → Bool}
    (each : List.Forall₂ CandidateScore.Same candidates candidates') (alike : ∀ a b : CandidateScore, a.Same b → kept a = kept b) :
    List.Forall₂ CandidateScore.Same (candidates.filter kept) (candidates'.filter kept) := by
  refine List.rel_filter (R := CandidateScore.Same) ?_ each
  exact fun a b same => by simp only [alike a b same]

theorem some_ranked {candidates candidates' : List CandidateScore} (each : List.Forall₂ CandidateScore.Same candidates candidates') :
    candidates.any CandidateScore.isRanked = candidates'.any CandidateScore.isRanked := by
  induction each with
  | nil => rfl
  | cons head _ ih => rw [List.any_cons,List.any_cons,ih,same_ranked head]

theorem same_result {fields fields' : ResultFields} (each : List.Forall₂ CandidateScore.Same fields.candidates fields'.candidates)
    (tieBreaker : fields.tieBreaker = fields'.tieBreaker) (actionable : fields.actionable = fields'.actionable) :
    Agree ScoringResult.Same (ScoringResult.create fields) (ScoringResult.create fields') := by
  refine agree_build ?_ fun _ _ => ⟨each,tieBreaker,actionable⟩
  simp only [ResultFields.postInit,forall₂_empty each,some_ranked each,actionable]

theorem outcomes_agree {request : ScoringRequest} (turned : Reached (CandidateSettled request)
      (fun candidate => ∃ outcome, scoreCandidate .default request candidate = .ok outcome) request.candidates) (c c' : DecimalContext) :
    Agree (List.Forall₂ CandidateScore.Same) (request.candidates.mapM (scoreCandidate c request))
      (request.candidates.mapM (scoreCandidate c' request)) :=
  agree_reached turned (fun _ own => candidate_agrees own) fun _ own => candidate_agrees own

theorem score_agrees {request : ScoringRequest} (settled : ScoreSettled request) (c c' : DecimalContext) :
    Agree ScoringResult.Same (score c request) (score c' request) := by
  unfold score
  refine agree_bind (outcomes_agree settled.turned c c') fun made made' known each => ?_
  obtain ⟨first,returned,kept⟩ := agree_returned (agree_symm (outcomes_agree settled.turned .default c)) known
  have ranks := settled_related (kept_related kept fun _ _ => same_ranked) (settled.ranked first returned)
  refine agree_bind (rank_agrees (kept_related each fun _ _ => same_ranked) ranks (positions_apart known) _) fun ordered ordered' _ same => ?_
  have others : List.Forall₂ CandidateScore.Same (made.filter fun outcome => !outcome.isRanked) (made'.filter fun outcome => !outcome.isRanked) :=
    kept_related each fun _ _ same => by rw [same_ranked same]
  refine same_result (List.rel_append same others) rfl ?_
  rw [forall₂_empty same]

-- The contexts of one digit tell whether a request is settled.
section Extremes
variable {c : DecimalContext} {request : ScoringRequest} {candidate : CandidateMetrics} {factor : FactorConfiguration}

def FactorContribution.turned (item : FactorContribution) : ℚ := (item.normalizedValue.map Decimal.toRat).getD 0

-- The normalized metrics of an outcome, added up.
def CandidateScore.turned (outcome : CandidateScore) : ℚ := (outcome.factorContributions.map FactorContribution.turned).sum

theorem same_turned {a b : CandidateScore} (same : a.Same b) : a.turned = b.turned := by
  have each : a.factorContributions.map FactorContribution.turned = b.factorContributions.map FactorContribution.turned := by
    rw [← List.forall₂_eq_eq_eq,List.forall₂_map_left_iff,List.forall₂_map_right_iff]
    refine same.factorContributions.imp fun item item' own => ?_
    rw [FactorContribution.turned,FactorContribution.turned,own.normalizedValue]
  rw [CandidateScore.turned,CandidateScore.turned,each]

theorem supplied_turned {item : FactorContribution} {rawValue : Decimal}
    (supplied : candidate.metrics.lookup factor.factorId = some (.decimal rawValue)) (returned : contribution c candidate factor = .ok item) :
    ∃ normalized turned, factor.normalization.normalize rawValue = .ok normalized ∧ directed c factor.direction normalized = .ok turned ∧
      item.turned = turned.toRat := by
  unfold contribution at returned
  rw [supplied] at returned
  simp only [bind_ok] at returned
  obtain ⟨normalized,normalizes,turned,turns,_,_,created⟩ := returned
  obtain ⟨_,rfl⟩ := build_exact.mp created
  exact ⟨normalized,turned,normalizes,turns,rfl⟩

theorem unsupplied_turned {item : FactorContribution}
    (unsupplied : ∀ rawValue, candidate.metrics.lookup factor.factorId ≠ some (.decimal rawValue))
    (returned : contribution c candidate factor = .ok item) : item.turned = 0 := by
  rcases contribution_exact returned with ⟨_,fields⟩ | ⟨_,fields⟩ | ⟨rawValue,_,_,_,worth⟩
  · rw [FactorContribution.turned,fields]
    rfl
  · rw [FactorContribution.turned,fields]
    rfl
  · exact absurd worth.supplied (unsupplied rawValue)

theorem contribution_between {item item' : FactorContribution} (one : contribution ONE_DIGIT candidate factor = .ok item)
    (two : contribution UP_DIGIT candidate factor = .ok item') : item.turned ≤ item'.turned ∧
      (item.turned = item'.turned → TurnsExactly candidate factor) := by
  by_cases some : ∃ rawValue, candidate.metrics.lookup factor.factorId = some (.decimal rawValue)
  · obtain ⟨rawValue,supplied⟩ := some
    obtain ⟨normalized,turned,normalizes,turns,value⟩ := supplied_turned supplied one
    obtain ⟨normalized',turned',normalizes',turns',value'⟩ := supplied_turned supplied two
    obtain rfl : normalized = normalized' := Except.ok.inj (normalizes.symm.trans normalizes')
    rw [value,value']
    cases way : factor.direction with
    | higherIsBetter =>
      rw [way] at turns turns'
      cases turns
      cases turns'
      exact ⟨le_refl _,fun _ lower => nomatch way.symm.trans lower⟩
    | lowerIsBetter =>
      rw [way] at turns turns'
      have unit : (Decimal.ofNat 1).toRat = 1 := by decide +kernel
      have nonneg : 0 ≤ (Decimal.ofNat 1).toRat - normalized.toRat := by
        obtain ⟨_,_,_,bounded⟩ := normalize_value normalizes
        rw [unit,bounded,sub_nonneg,clamped]
        exact max_le zero_le_one (min_le_left _ _)
      have low := down_below nonneg
      have high := up_above nonneg
      rw [← context_subtracted turns] at low
      rw [← context_subtracted turns'] at high
      refine ⟨low.trans high,fun same _ rawValue' normalized' supplied' normalizes' => ?_⟩
      obtain rfl : rawValue = rawValue' := Metric.decimal.inj (Option.some.inj (supplied.symm.trans supplied'))
      obtain rfl : normalized = normalized' := Except.ok.inj (normalizes.symm.trans normalizes')
      rw [← unit]
      exact difference_held nonneg turns turns' same
  · rw [not_exists] at some
    rw [unsupplied_turned some one,unsupplied_turned some two]
    exact ⟨le_refl _,fun _ _ rawValue _ supplied => absurd supplied (some rawValue)⟩

theorem outcome_contributions {outcome : CandidateScore} (returned : scoreCandidate c request candidate = .ok outcome) :
    List.Forall₂ (fun factor item => contribution c candidate factor = .ok item) request.configuration.factors outcome.factorContributions := by
  unfold scoreCandidate at returned
  rw [check_ok] at returned
  obtain ⟨items,made,rest⟩ := bind_ok.mp returned.2
  have recorded : ∀ {fields : ScoreFields}, CandidateScore.create fields = .ok outcome → fields.factorContributions = outcome.factorContributions := by
    intro fields created
    obtain ⟨_,rfl⟩ := build_exact.mp created
    rfl
  rw [← mapM_exact,made]
  refine congrArg Except.ok ?_
  split at rest
  · exact recorded rest
  split at rest
  · exact recorded rest
  · obtain ⟨total,_,created⟩ := bind_ok.mp rest
    exact recorded created

theorem candidate_between {outcome outcome' : CandidateScore} (one : scoreCandidate ONE_DIGIT request candidate = .ok outcome)
    (two : scoreCandidate UP_DIGIT request candidate = .ok outcome') : outcome.turned ≤ outcome'.turned ∧
      (outcome.turned = outcome'.turned → ∀ factor ∈ request.configuration.factors, TurnsExactly candidate factor) := by
  have items := outcome_contributions one
  have items' := outcome_contributions two
  have order : ∀ factor item item', contribution ONE_DIGIT candidate factor = .ok item → contribution UP_DIGIT candidate factor = .ok item' →
      item.turned ≤ item'.turned := fun _ _ _ own own' => (contribution_between own own').1
  constructor
  · refine List.Forall₂.sum_le_sum ?_
    rw [List.forall₂_map_left_iff,List.forall₂_map_right_iff]
    exact forall₂_common items items' order
  · intro same factor member
    obtain ⟨item,item',own,own',equal⟩ := forall₂_sums items items' order same factor member
    exact (contribution_between own own').2 equal

theorem rank_perm {β : Type} {f : CandidateScore → β} {candidates ranking : List CandidateScore} {policy : TieBreakPolicy}
    (kept : ∀ (candidate : CandidateScore) place given, candidate.ranks place given → f given = f candidate)
    (returned : rank c candidates policy = .ok ranking) : (ranking.map f).Perm (candidates.map f) := by
  obtain ⟨keyed,keys,given⟩ := rank_exact policy returned
  have names : candidates = keyed.map Prod.snd := by
    rw [← List.forall₂_eq_eq_eq,List.forall₂_map_right_iff]
    exact keys.imp fun _ _ own => own.2.symm
  have values : ranking.map f = ((sortBy sortKey keyed).map Prod.snd).map f := by
    have each : ((sortBy sortKey keyed).zipIdx 1).map (fun entry => f entry.1.2) = ranking.map f := by
      rw [← List.forall₂_eq_eq_eq,List.forall₂_map_left_iff,List.forall₂_map_right_iff]
      exact given.imp fun _ _ own => (kept _ _ _ own).symm
    rw [← each]
    refine Eq.trans ?_ (congrArg (fun entries => (entries.map Prod.snd).map f) (List.zipIdx_map_fst 1 (sortBy sortKey keyed)))
    simp only [List.map_map]
    rfl
  rw [values,names]
  exact ((sortBy_perm sortKey keyed).map Prod.snd).map f

-- The key a context sorts a score by.
def contextKey (c : DecimalContext) (candidate : CandidateScore) : ℚ ×ₗ String :=
  toLex (c.round (-candidate.points),uuidText candidate.instrument)

theorem rank_sorted {candidates ranking : List CandidateScore} {policy : TieBreakPolicy} (returned : rank c candidates policy = .ok ranking) :
    (∀ candidate ∈ candidates, ∃ key, c.minus (candidate.score.getD (.ofNat 0)) = .ok key) ∧
      ranking.Pairwise fun a b => contextKey c a ≤ contextKey c b := by
  obtain ⟨keyed,keys,given⟩ := rank_exact policy returned
  constructor
  · intro candidate member
    obtain ⟨entry,_,turned,_⟩ := forall₂_left keys candidate member
    exact ⟨entry.1,turned⟩
  · have named : ∀ entry ∈ sortBy sortKey keyed, sortKey entry = contextKey c entry.2 := by
      intro entry member
      obtain ⟨candidate,_,turned,own⟩ := forall₂_left keys.flip entry (mem_sortBy.mp member)
      rw [sortKey,contextKey,context_minus turned,own]
      rfl
    have order : ((sortBy sortKey keyed).zipIdx 1).Pairwise fun left right => contextKey c left.1.2 ≤ contextKey c right.1.2 := by
      rw [← List.pairwise_map (f := Prod.fst) (R := fun left right : Decimal × CandidateScore => contextKey c left.2 ≤ contextKey c right.2),
        List.zipIdx_map_fst]
      refine (sortBy_ordered sortKey keyed).imp_of_mem fun left right less => ?_
      rwa [named _ left,named _ right] at less
    refine forall₂_pairwise given ?_ order
    intro left right a b own own' less
    unfold CandidateScore.ranks at own own'
    simp only [contextKey,CandidateScore.points,own,own'] at less ⊢
    exact less

-- What a result is made of.
theorem score_parts {result : ScoringResult} (returned : score c request = .ok result) : ∃ outcomes ranking,
    request.candidates.mapM (scoreCandidate c request) = .ok outcomes ∧
      rank c (outcomes.filter CandidateScore.isRanked) request.configuration.tieBreaker = .ok ranking ∧ result.ranked = ranking ∧
        (result.candidates.map CandidateScore.turned).sum = (outcomes.map CandidateScore.turned).sum := by
  obtain ⟨outcomes,made,rest⟩ := bind_ok.mp returned
  obtain ⟨ranking,ranked,created⟩ := bind_ok.mp rest
  obtain ⟨_,rfl⟩ := build_exact.mp created
  refine ⟨outcomes,ranking,made,ranked,?_,?_⟩
  · have statuses := rank_perm (f := CandidateScore.isRanked) (fun _ _ _ own => by rw [CandidateScore.isRanked,own]; rfl) ranked
    have all : ∀ given ∈ ranking, given.isRanked = true := by
      intro given member
      obtain ⟨candidate,place,same⟩ := List.mem_map.mp (statuses.mem_iff.mp (List.mem_map_of_mem member))
      rw [← same]
      exact (List.mem_filter.mp place).2
    have none : ∀ outcome ∈ outcomes.filter (fun outcome => !outcome.isRanked), ¬outcome.isRanked = true := by
      intro outcome member
      simpa using (List.mem_filter.mp member).2
    rw [ScoringResult.ranked,List.filter_append,List.filter_eq_self.mpr all,List.filter_eq_nil_iff.mpr none,List.append_nil]
  · have turned := rank_perm (f := CandidateScore.turned) (fun _ _ _ own => by rw [CandidateScore.turned,own]; rfl) ranked
    rw [List.map_append,List.sum_append,turned.sum_eq,← List.sum_append,← List.map_append]
    exact ((List.filter_append_perm CandidateScore.isRanked outcomes).map CandidateScore.turned).sum_eq

-- Contexts that score alike round no normalized metric.
theorem score_turns {result : ScoringResult} (returned : score .default request = .ok result)
    (agrees : ∀ c, Agree ScoringResult.Same (score .default request) (score c request)) :
    ∀ candidate ∈ request.candidates, ∀ factor ∈ request.configuration.factors, TurnsExactly candidate factor := by
  have runs : ∀ c : DecimalContext, ∃ outcomes, request.candidates.mapM (scoreCandidate c request) = .ok outcomes ∧
      (result.candidates.map CandidateScore.turned).sum = (outcomes.map CandidateScore.turned).sum := by
    intro c
    obtain ⟨result',returned',same⟩ := agree_returned (agrees c) returned
    obtain ⟨outcomes,_,made,_,_,turned⟩ := score_parts returned'
    refine ⟨outcomes,made,?_⟩
    have each : result.candidates.map CandidateScore.turned = result'.candidates.map CandidateScore.turned := by
      rw [← List.forall₂_eq_eq_eq,List.forall₂_map_left_iff,List.forall₂_map_right_iff]
      exact same.candidates.imp fun _ _ => same_turned
    rw [each,turned]
  obtain ⟨least,one,low⟩ := runs ONE_DIGIT
  obtain ⟨most,two,high⟩ := runs UP_DIGIT
  have equal := forall₂_sums (mapM_exact.mp one) (mapM_exact.mp two) (fun _ _ _ own own' => (candidate_between own own').1)
    (low.symm.trans high)
  intro candidate member
  obtain ⟨outcome,outcome',own,own',same⟩ := equal candidate member
  exact (candidate_between own own').2 same

theorem ordered_keys {ranking : List CandidateScore}
    (ordered : ranking.Pairwise fun a b => b.points < a.points ∨ a.points = b.points ∧ uuidText a.instrument < uuidText b.instrument)
    (sorted : ranking.Pairwise fun a b => contextKey c a ≤ contextKey c b) {a b : CandidateScore} (left : a ∈ ranking) (right : b ∈ ranking)
    (less : b.points < a.points) : contextKey c a ≤ contextKey c b := by
  obtain ⟨i,inI,rfl⟩ := List.getElem_of_mem left
  obtain ⟨j,inJ,rfl⟩ := List.getElem_of_mem right
  rcases lt_trichotomy i j with before | rfl | after
  · exact List.pairwise_iff_getElem.mp sorted i j inI inJ before
  · exact absurd less (lt_irrefl _)
  · rcases List.pairwise_iff_getElem.mp ordered j i inJ inI after with more | ⟨same,_⟩
    · exact absurd more (lt_asymm less)
    · exact absurd same.symm less.ne'

-- They order the ranked candidates as their scores do.
theorem score_ranked {result : ScoringResult} {outcomes : List CandidateScore} (returned : score .default request = .ok result)
    (agrees : ∀ c, Agree ScoringResult.Same (score .default request) (score c request))
    (made : request.candidates.mapM (scoreCandidate .default request) = .ok outcomes)
    (alike : ∀ c, Agree (List.Forall₂ CandidateScore.Same) (request.candidates.mapM (scoreCandidate .default request))
      (request.candidates.mapM (scoreCandidate c request))) : RankSettled (outcomes.filter CandidateScore.isRanked) := by
  have runs : ∀ c : DecimalContext, ∃ outcomes' ranking', List.Forall₂ CandidateScore.Same outcomes outcomes' ∧
      rank c (outcomes'.filter CandidateScore.isRanked) request.configuration.tieBreaker = .ok ranking' ∧
        List.Forall₂ CandidateScore.Same result.ranked ranking' := by
    intro c
    obtain ⟨result',returned',same⟩ := agree_returned (agrees c) returned
    obtain ⟨outcomes',ranking',made',ranked,rfl,_⟩ := score_parts returned'
    obtain ⟨other,own,each⟩ := agree_returned (alike c) made
    obtain rfl : other = outcomes' := Except.ok.inj (own.symm.trans made')
    exact ⟨other,_,each,ranked,kept_related same.candidates fun _ _ => same_ranked⟩
  constructor
  · intro candidate member
    obtain ⟨outcomes',ranking',each,ranked,_⟩ := runs UP_DIGIT
    obtain ⟨candidate',place,same⟩ := forall₂_left (kept_related each fun _ _ => same_ranked) candidate member
    obtain ⟨key,turned⟩ := (rank_sorted ranked).1 candidate' place
    have size := round_up (c := UP_DIGIT) rfl (-candidate'.points)
    have value := context_minus turned
    rw [same_points same,← abs_neg]
    refine size.trans ?_
    rw [CandidateScore.points,← value]
    have held : UP_DIGIT.Holds key.toRat := fix_holds turned
    exact holds_within held
  · intro a inA b inB less texts c same
    obtain ⟨outcomes',ranking',_,ranked,each⟩ := runs c
    obtain ⟨built,ranking,scored,parts⟩ := score_exact made
    obtain rfl : built = result := Except.ok.inj (scored.symm.trans returned)
    obtain rfl := parts.ranked
    have placed : ∀ candidate ∈ outcomes.filter CandidateScore.isRanked, ∃ given ∈ built.ranked,
        given.points = candidate.points ∧ uuidText given.instrument = uuidText candidate.instrument := by
      intro candidate member
      have inside : candidate ∈ sortBy position (outcomes.filter CandidateScore.isRanked) := mem_sortBy.mpr member
      have among := List.mem_map_of_mem (f := position) inside
      rw [← (ranking_positions parts.given).1] at among
      obtain ⟨given,place,equal⟩ := List.mem_map.mp among
      obtain ⟨points,names⟩ := Prod.mk.inj (toLex_inj.mp equal)
      exact ⟨given,place,neg_injective points,names⟩
    obtain ⟨a',inA',pointsA,nameA⟩ := placed a inA
    obtain ⟨b',inB',pointsB,nameB⟩ := placed b inB
    have sorted : built.ranked.Pairwise fun a b => contextKey c a ≤ contextKey c b := by
      refine forall₂_pairwise each.flip ?_ (rank_sorted ranked).2
      intro x y x' y' one two order
      simpa only [contextKey,same_points one,same_points two,one.instrument,two.instrument] using order
    have order := ordered_keys (ranking_ordered made parts) sorted inA' inB' (by rwa [pointsA,pointsB])
    rw [contextKey,contextKey,Prod.Lex.toLex_le_toLex,pointsA,pointsB,nameA,nameB,same] at order
    have equal := le_antisymm (order.resolve_left (lt_irrefl _)).2 texts
    have twice : a = b := outcome_named made (List.mem_filter.mp inA).1 (List.mem_filter.mp inB).1 equal
    rw [twice] at less
    exact absurd less (lt_irrefl _)

theorem score_settled {result : ScoringResult} (returned : score .default request = .ok result)
    (agrees : ∀ c, Agree ScoringResult.Same (score .default request) (score c request)) : ScoreSettled request := by
  have turned : Reached (CandidateSettled request) (fun candidate => ∃ outcome, scoreCandidate .default request candidate = .ok outcome)
      request.candidates :=
    reached_all fun candidate member _ => reached_all fun factor place => score_turns returned agrees candidate member factor place
  exact ⟨turned,fun outcomes made => score_ranked returned agrees made (outcomes_agree turned .default)⟩

end Extremes
end SwapMonitor.Scoring
