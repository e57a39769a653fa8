import SwapMonitor.Rules.Decisions
import Mathlib.Algebra.BigOperators.Group.List.Basic

namespace SwapMonitor.Rules

section Permuted
variable {raws : List RawJson} {rules rules' : List Rule} {ruleInput : RuleInput} {threshold : Option Decimal}
  {r r' : RuleEvaluation}

theorem weigh_permuted (permuted : rules.Perm rules') : weigh rules = weigh rules' := (permuted.map _).sum_eq

theorem exact_permuted (permuted : rules.Perm rules') (exact : ExactWeights rules) : ExactWeights rules' := by
  intro part listed
  obtain ⟨same,shuffled,within⟩ := listed.subperm.trans permuted.symm.subperm
  have held := exact same within
  change Representable (weigh same) at held
  rwa [weigh_permuted shuffled] at held

-- The evidence is prepared once and for all rules alike.
theorem same_values (one : Decision rules ruleInput threshold r) (two : Decision rules' ruleInput threshold r') :
    two.values = one.values := by
  have prepared := two.prepared
  rw [one.prepared,Except.ok.injEq] at prepared
  exact prepared.symm

theorem same_asked (one : Decision rules ruleInput threshold r) (two : Decision rules' ruleInput threshold r') :
    two.asked = one.asked := Option.some.inj (two.given.symm.trans one.given)

theorem ids_permuted (permuted : rules.Perm rules') (one : Decision rules ruleInput threshold r)
    (two : Decision rules' ruleInput threshold r') : r.matchedRuleIds.Perm r'.matchedRuleIds ∧
      r.failedRuleIds.Perm r'.failedRuleIds ∧ r.missingRuleIds.Perm r'.missingRuleIds := by
  simp only [matched_ids one,matched_ids two,failed_ids one,failed_ids two,missing_ids one,missing_ids two,
    same_values one two]
  exact ⟨(permuted.filter _).map _,(permuted.filter _).map _,(permuted.filter _).map _⟩

theorem scores_permuted (permuted : rules.Perm rules') (near : ∀ rule ∈ rules, Near rule.weight)
    (exact : ExactWeights rules) (one : Decision rules ruleInput threshold r) (two : Decision rules' ruleInput threshold r') :
    two.tally.totalScore.toRat = one.tally.totalScore.toRat ∧ two.potential.toRat = one.potential.toRat := by
  have near' : ∀ rule ∈ rules', Near rule.weight := fun rule listed => near rule (permuted.mem_iff.mpr listed)
  obtain ⟨total,potential⟩ := decision_exact near exact one
  obtain ⟨total',potential'⟩ := decision_exact near' (exact_permuted permuted exact) two
  rw [total,total',potential,potential',same_values one two]
  exact ⟨(weigh_permuted (permuted.filter _)).symm,(weigh_permuted (permuted.filter _)).symm⟩

-- Whatever was rounded on the way, a sum of weights is a number the precision holds.
theorem weights_held {score total : Decimal} (added : addWeights score rules = .ok total) (near : Near score)
    (held : Representable score.toRat) : Near total ∧ Representable total.toRat := by
  induction rules generalizing score with
  | nil =>
    cases added
    exact ⟨near,held⟩
  | cons rule rest ih =>
    simp only [addWeights,bind_ok] at added
    obtain ⟨sum,first,added⟩ := added
    obtain ⟨exact,rounded,bounded,rfl⟩ := scores_added first
    refine ih added (canonical_near bounded) ?_
    rw [canonical_value]
    exact fix_representable rounded

-- With nothing missing the score could not have been higher.
theorem sufficient (d : Decision rules ruleInput threshold r) (complete : r.missingRuleIds = []) :
    r.status ≠ .insufficient := by
  have none : rules.filter (counts d.values .missing) = [] := List.map_eq_nil_iff.mp ((missing_ids d).symm.trans complete)
  have zero : (Decimal.mk false 0 0).toRat = 0 := (toRat_zero _).mpr rfl
  have start : Near (Decimal.mk false 0 0) := by unfold Near; decide
  have missing := d.tallied.missingScore
  rw [none] at missing
  have same : d.tally.missingScore = ⟨false,0,0⟩ := (Except.ok.inj missing).symm
  obtain ⟨near,held⟩ := weights_held d.tallied.total start ⟨0,0,by simp [Tally.empty,zero],by decide⟩
  have potential : d.potential.toRat = d.tally.totalScore.toRat := by
    have added := d.added
    rw [same] at added
    have sum := (scores_exact added near start (by rwa [zero,add_zero])).1
    rw [sum,zero,add_zero]
  rw [d.status,potential]
  split <;> simp

-- The matched rules are those whose ids are reported.
theorem reported_rules (distinct : (rules.map Rule.ruleId).Nodup) (d : Decision rules ruleInput threshold r) :
    rules.filter (fun rule => decide (rule.ruleId ∈ r.matchedRuleIds)) = rules.filter (counts d.values .matched) := by
  apply List.filter_congr
  intro rule listed
  rw [matched_ids d,Bool.eq_iff_iff,decide_eq_true_iff,List.mem_map]
  constructor
  · intro ⟨other,member,same⟩
    obtain ⟨listed',counted⟩ := List.mem_filter.mp member
    rwa [List.inj_on_of_nodup_map distinct listed' listed same] at counted
  · exact fun counted => ⟨rule,List.mem_filter.mpr ⟨listed,counted⟩,rfl⟩

-- The order of the rules decides nothing where no sum of weights loses a digit.
theorem order_irrelevant (raws : List RawJson) (rules : List Rule) (parsed : parseRules raws = .ok rules)
    (rules' : List Rule) (permuted : rules.Perm rules') (ruleInput : RuleInput) (threshold : Option Decimal)
    (evaluatedAt evaluatedAt' : AwareDatetime) (r r' : RuleEvaluation)
    (ran : evaluateRuleset rules ruleInput threshold evaluatedAt = .ok r)
    (ran' : evaluateRuleset rules' ruleInput threshold evaluatedAt' = .ok r') :
    (r.matchedRuleIds.Perm r'.matchedRuleIds ∧ r.failedRuleIds.Perm r'.failedRuleIds ∧
      r.missingRuleIds.Perm r'.missingRuleIds) ∧ (r.missingRuleIds = [] → r.status ≠ .insufficient) ∧
    (ExactWeights rules → r.status = r'.status ∧ r.totalScore.toRat = r'.totalScore.toRat ∧
      ∀ d, threshold = some d → d.toRat ≤ weigh (rules.filter fun rule => decide (rule.ruleId ∈ r.matchedRuleIds)) →
        r.status = .matched) := by
  have built := rules_built parsed
  obtain ⟨one⟩ := evaluation_decided ran
  obtain ⟨two⟩ := evaluation_decided ran'
  refine ⟨ids_permuted permuted one two,sufficient one,fun exact => ?_⟩
  obtain ⟨total,potential⟩ := scores_permuted permuted (weights_near built) exact one two
  refine ⟨?_,?_,?_⟩
  · rw [one.status,two.status,total,potential,same_asked one two]
  · rw [one.total,two.total,total]
  · intro d given reached
    have same : one.asked = d := Option.some.inj (one.given.symm.trans given)
    rw [status_matched one,(decision_exact (weights_near built) exact one).1,← reported_rules built.distinct one,same]
    exact reached

end Permuted

section Rounded

-- Weights of 10^28, 5 and 5: the great one swallows each five, but not the two together.
def great : Rule := ⟨"great",.literal .boolean (.boolean true),⟨false,10 ^ 28,0⟩⟩
def five : Rule := ⟨"five",.literal .boolean (.boolean true),⟨false,5,0⟩⟩
def other : Rule := ⟨"other",.literal .boolean (.boolean true),⟨false,5,0⟩⟩

def rawTrue (ruleId : String) (weight : RawJson) : RawJson :=
  .obj [("id",.str ruleId),("expression",.bool true),("weight",weight)]

def reach : Decimal := ⟨false,10 ^ 28 + 10,0⟩

def outcome (result : Except PyError RuleEvaluation) : Option (RulesetStatus × Decimal) :=
  result.toOption.map fun r => (r.status,r.totalScore)

theorem outcome_returned {result : Except PyError RuleEvaluation} {decided : RulesetStatus × Decimal}
    (found : outcome result = some decided) : ∃ r, result = .ok r := by
  cases result with
  | error error => cases found
  | ok r => exact ⟨r,rfl⟩

theorem great_parsed :
    parseRules [rawTrue "great" (.float ⟨some ⟨false,1,28⟩,5⟩),rawTrue "five" (.int 5),rawTrue "other" (.int 5)] =
      .ok [great,five,other] := by with_unfolding_all rfl

theorem reverse_reported : reported flags.reverse someFlags 1 = some (["actionable"],["stale"],.matched) := by decide +kernel

theorem great_moved : [great,five,other].Perm [five,other,great] :=
  (List.Perm.swap five great [other]).trans ((List.Perm.swap other great []).cons five)

theorem great_first :
    outcome (evaluateRuleset [great,five,other] noEvidence (some reach) epoch) = some (.failed,⟨false,10 ^ 28,0⟩) := by
  decide +kernel

theorem great_last : outcome (evaluateRuleset [five,other,great] noEvidence (some reach) epoch) = some (.matched,reach) := by
  decide +kernel

-- The lists of ids are the same for any weights, the status and the total where the sums are exact.
theorem great_irrelevant : (∃ r r', evaluateRuleset [great,five,other] noEvidence (some reach) epoch = .ok r ∧
      evaluateRuleset [five,other,great] noEvidence (some reach) epoch = .ok r' ∧
      (r.matchedRuleIds.Perm r'.matchedRuleIds ∧ r.failedRuleIds.Perm r'.failedRuleIds ∧
        r.missingRuleIds.Perm r'.missingRuleIds) ∧ (r.missingRuleIds = [] → r.status ≠ .insufficient)) ∧
    ∃ r r', evaluateRuleset flags someFlags (some ⟨false,1,0⟩) epoch = .ok r ∧
      evaluateRuleset flags.reverse someFlags (some ⟨false,1,0⟩) epoch = .ok r' ∧ r'.status = .matched ∧
      r.totalScore.toRat = r'.totalScore.toRat := by
  constructor
  · obtain ⟨r,ran⟩ := outcome_returned great_first
    obtain ⟨r',ran'⟩ := outcome_returned great_last
    have kept := order_irrelevant _ _ great_parsed _ great_moved noEvidence (some reach) epoch epoch r r' ran ran'
    exact ⟨r,r',ran,ran',kept.1,kept.2.1⟩
  · obtain ⟨r,ran,_,_,status⟩ := reported_returned some_reported.1
    obtain ⟨r',ran',_⟩ := reported_returned reverse_reported
    have kept := order_irrelevant _ _ flags_parsed _ (List.reverse_perm flags).symm someFlags _ epoch epoch r r' ran ran'
    obtain ⟨same,total,_⟩ := kept.2.2 flags_exact
    exact ⟨r,r',ran,ran',same ▸ status,total⟩

-- One order is FAILED and the other MATCHED, though the weights reach the threshold exactly.
theorem order_matters :
    parseRules [rawTrue "great" (.float ⟨some ⟨false,1,28⟩,5⟩),rawTrue "five" (.int 5),rawTrue "other" (.int 5)] =
      .ok [great,five,other] ∧ [great,five,other].Perm [five,other,great] ∧
    outcome (evaluateRuleset [great,five,other] noEvidence (some reach) epoch) = some (.failed,⟨false,10 ^ 28,0⟩) ∧
    outcome (evaluateRuleset [five,other,great] noEvidence (some reach) epoch) = some (.matched,reach) ∧
    reach.toRat ≤ weigh [great,five,other] := by
  refine ⟨great_parsed,great_moved,great_first,great_last,?_⟩
  simp [reach,weigh,great,five,other,toRat_parts]
  norm_num

end Rounded
end SwapMonitor.Rules
