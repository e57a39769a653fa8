import SwapMonitor.Rules.Rulesets

namespace SwapMonitor.Rules
open Arithmetic

section Sums
variable {rules : List Rule} {score total : Decimal}

-- Every sum of some of the weights is held by the 28 digits.
def ExactWeights (rules : List Rule) : Prop :=
  ∀ part : List Rule, part.Sublist rules → Representable (part.map fun rule => rule.weight.toRat).sum

def weigh (rules : List Rule) : ℚ := (rules.map fun rule => rule.weight.toRat).sum

-- A number whose exponent is far from where the arithmetic gives up digits.
def Near (d : Decimal) : Prop := CONTEXT_ETINY ≤ d.exponent

theorem canonical_near {d : Decimal} (bounded : requireBoundedDecimal d = .ok ()) : Near (canonicalForm d) := by
  have low := canonical_low bounded
  unfold Near
  simp only [MAX_DECIMAL_ABSOLUTE_EXPONENT,CONTEXT_ETINY] at low ⊢
  omega

theorem scores_exact {left right sum : Decimal} (added : addScores left right = .ok sum) (one : Near left) (two : Near right)
    (held : Representable (left.toRat + right.toRat)) : sum.toRat = left.toRat + right.toRat ∧ Near sum := by
  obtain ⟨exact,rounded,bounded,rfl⟩ := scores_added added
  exact ⟨by rw [canonical_value,add_exact rounded held ⟨one,two⟩],canonical_near bounded⟩

theorem weights_added (added : addWeights score rules = .ok total) (near : Near score)
    (weights : ∀ rule ∈ rules, Near rule.weight)
    (held : ∀ before after, rules = before ++ after → Representable (score.toRat + weigh before)) :
    total.toRat = score.toRat + weigh rules ∧ Near total := by
  induction rules generalizing score with
  | nil =>
    cases added
    exact ⟨by simp [weigh],near⟩
  | cons rule rest ih =>
    obtain ⟨here,later⟩ := List.forall_mem_cons.mp weights
    simp only [addWeights,bind_ok] at added
    obtain ⟨sum,first,added⟩ := added
    have one := held [rule] rest rfl
    simp only [weigh,List.map_cons,List.map_nil,List.sum_cons,List.sum_nil,add_zero] at one
    obtain ⟨value,near'⟩ := scores_exact first near here one
    have tail := ih added near' later (by
      intro before after split
      have sums := held (rule :: before) after (by rw [split]; rfl)
      simp only [weigh,List.map_cons,List.sum_cons] at sums ⊢
      rw [value,add_assoc]
      exact sums)
    refine ⟨?_,tail.2⟩
    rw [tail.1,value]
    simp only [weigh,List.map_cons,List.sum_cons]
    ring

-- Some of the rules are a part of them, and what is added up on the way is a part of that.
theorem part_exact (exact : ExactWeights rules) (weights : ∀ rule ∈ rules, Near rule.weight) {part : List Rule}
    (listed : part.Sublist rules) (added : addWeights ⟨false,0,0⟩ part = .ok total) :
    total.toRat = weigh part ∧ Near total := by
  have zero : (Decimal.mk false 0 0).toRat = 0 := (toRat_zero _).mpr rfl
  have near : Near (Decimal.mk false 0 0) := by unfold Near; decide
  have sums := weights_added added near (fun rule member => weights rule (listed.subset member)) (by
    intro before after split
    rw [zero,zero_add]
    exact exact before ((split ▸ List.sublist_append_left before after).trans listed))
  rw [zero,zero_add] at sums
  exact sums

theorem weigh_split (rules : List Rule) (p q : Rule → Bool) (apart : ∀ rule ∈ rules, ¬(p rule = true ∧ q rule = true)) :
    weigh (rules.filter fun rule => p rule || q rule) = weigh (rules.filter p) + weigh (rules.filter q) := by
  induction rules with
  | nil => simp [weigh]
  | cons rule rest ih =>
    obtain ⟨here,later⟩ := List.forall_mem_cons.mp apart
    have tail := ih later
    unfold weigh at tail ⊢
    cases one : p rule <;> cases two : q rule
    · simpa [one,two] using tail
    · simp [one,two,tail]
      ring
    · simp [one,two,tail]
      ring
    · exact absurd ⟨one,two⟩ here

end Sums

-- What an evaluation that returned decided, and from what.
structure Decision (rules : List Rule) (ruleInput : RuleInput) (threshold : Option Decimal) (r : RuleEvaluation) where
  asked : Decimal
  values : List (String × EvidenceValue)
  tally : Tally
  potential : Decimal
  given : threshold = some asked
  prepared : prepareValues ruleInput.values = .ok values
  tallied : Tallied values rules .empty tally
  added : addScores tally.totalScore tally.missingScore = .ok potential
  matched : r.matchedRuleIds = tally.matchedRuleIds
  failed : r.failedRuleIds = tally.failedRuleIds
  missing : r.missingRuleIds = tally.missingRuleIds
  total : r.totalScore.toRat = tally.totalScore.toRat
  status : r.status = if asked.toRat ≤ tally.totalScore.toRat then .matched
    else if asked.toRat ≤ potential.toRat then .insufficient else .failed

theorem evaluation_decided {rules : List Rule} {ruleInput : RuleInput} {threshold : Option Decimal}
    {evaluatedAt : AwareDatetime} {r : RuleEvaluation}
    (ran : evaluateRuleset rules ruleInput threshold evaluatedAt = .ok r) :
    Nonempty (Decision rules ruleInput threshold r) := by
  simp only [evaluateRuleset,bind_ok] at ran
  obtain ⟨score,scored,_,_,values,prepared,t,tallied,potential,added,created⟩ := ran
  cases threshold with
  | none => simp [requireScore] at scored
  | some d =>
    simp only [requireScore,check_ok,canonical_exact] at scored
    obtain ⟨_,_,same⟩ := scored
    simp only [RuleEvaluation.create,bind_ok,raiseIf_ok,exists_const,canonical_exact,pure_ok] at created
    obtain ⟨_,_,total,⟨_,rounded⟩,_,_,_,_,_,_,rfl⟩ := created
    refine ⟨⟨d,values,t,potential,rfl,prepared,rules_tallied tallied,added,rfl,rfl,rfl,?_,?_⟩⟩
    · simp only
      rw [← rounded,canonical_value]
    · simp only [rulesetStatus,← same,canonical_value]

end SwapMonitor.Rules
