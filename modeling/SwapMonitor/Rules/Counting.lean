import SwapMonitor.Rules.Readings

namespace SwapMonitor.Rules
open Exceptions

-- What a rule counts as when its expression comes to a value.
def statusOf (v : EvidenceValue) : EvidenceStatus :=
  if v.isMissing then .missing
  else match v.value with
    | .boolean true => .matched
    | _ => .failed

def counts (values : List (String × EvidenceValue)) (status : EvidenceStatus) (rule : Rule) : Bool :=
  match meaning values rule.expression with
  | .ok v => decide (statusOf v = status)
  | .error _ => false

-- What a run over some rules makes of a tally.
structure Tallied (values : List (String × EvidenceValue)) (rules : List Rule) (t t' : Tally) : Prop where
  evaluated : ∀ rule ∈ rules, ∃ v, meaning values rule.expression = .ok v
  matched : t'.matchedRuleIds = t.matchedRuleIds ++ (rules.filter (counts values .matched)).map Rule.ruleId
  failed : t'.failedRuleIds = t.failedRuleIds ++ (rules.filter (counts values .failed)).map Rule.ruleId
  missing : t'.missingRuleIds = t.missingRuleIds ++ (rules.filter (counts values .missing)).map Rule.ruleId
  total : addWeights t.totalScore (rules.filter (counts values .matched)) = .ok t'.totalScore
  missingScore : addWeights t.missingScore (rules.filter (counts values .missing)) = .ok t'.missingScore

section Tallying
variable {values : List (String × EvidenceValue)} {evaluatedAt : AwareDatetime} {rule : Rule} {rules : List Rule}

theorem judge_tallied {t t' : Tally} {v : EvidenceValue} {status : EvidenceStatus}
    (means : meaning values rule.expression = .ok v) (judged : t.judge rule v = .ok (t',status)) :
    Tallied values [rule] t t' := by
  have counted : ∀ status, counts values status rule = decide (statusOf v = status) := by
    intro status
    rw [counts,means]
  unfold Tally.judge at judged
  cases missing : v.isMissing with
  | true =>
    simp only [missing,if_true,bind_ok,pure_ok,Prod.mk.injEq] at judged
    obtain ⟨score,added,rfl,_⟩ := judged
    have status : statusOf v = .missing := by simp [statusOf,missing]
    refine ⟨by simpa using ⟨v,means⟩,?_,?_,?_,?_,?_⟩ <;>
      simp [List.filter,counted,status,addWeights,added,Bind.bind,Except.bind]
  | false =>
    simp only [missing,Bool.false_eq_true,if_false] at judged
    split at judged
    · rename_i _ truth
      simp only [bind_ok,pure_ok,Prod.mk.injEq] at judged
      obtain ⟨score,added,rfl,_⟩ := judged
      have status : statusOf v = .matched := by simp [statusOf,missing,truth]
      refine ⟨by simpa using ⟨v,means⟩,?_,?_,?_,?_,?_⟩ <;>
        simp [List.filter,counted,status,addWeights,added,Bind.bind,Except.bind]
    · rename_i _ untrue
      simp only [pure_ok,Prod.mk.injEq] at judged
      obtain ⟨rfl,_⟩ := judged
      have status : statusOf v = .failed := by
        unfold statusOf
        simp only [missing,Bool.false_eq_true,if_false]
      refine ⟨by simpa using ⟨v,means⟩,?_,?_,?_,?_,?_⟩ <;> simp [List.filter,counted,status,addWeights]
    · simp at judged

theorem weights_append (score : Decimal) (first rest : List Rule) :
    addWeights score (first ++ rest) = (do
      let sum ← addWeights score first
      addWeights sum rest) := by
  induction first generalizing score with
  | nil => rfl
  | cons rule more ih =>
    simp only [List.cons_append,addWeights]
    cases addScores score rule.weight with
    | error error => rfl
    | ok sum => exact ih sum

theorem tallied_append {first : List Rule} {t t' t'' : Tally} {records : List RuleEvidence} (one : Tallied values first t t')
    (two : Tallied values rules {t' with records := records} t'') : Tallied values (first ++ rules) t t'' := by
  refine ⟨?_,?_,?_,?_,?_,?_⟩
  · exact List.forall_mem_append.mpr ⟨one.evaluated,two.evaluated⟩
  · rw [two.matched,one.matched]
    simp
  · rw [two.failed,one.failed]
    simp
  · rw [two.missing,one.missing]
    simp
  · rw [List.filter_append,weights_append,one.total]
    exact two.total
  · rw [List.filter_append,weights_append,one.missingScore]
    exact two.missingScore

-- A run of the rules counts each of them for what its expression means.
theorem rules_tallied {remaining : Int} {t t' : Tally}
    (ran : evaluateRules values evaluatedAt rules remaining t = .ok t') : Tallied values rules t t' := by
  induction rules generalizing remaining t with
  | nil =>
    cases ran
    exact ⟨by simp,by simp,by simp,by simp,rfl,rfl⟩
  | cons rule rest ih =>
    simp only [evaluateRules,bind_ok,Prod.exists] at ran
    obtain ⟨v,s,evaluated,judged,status,outcome,record,_,after⟩ := ran
    exact tallied_append (judge_tallied (evaluated_meaning evaluated).1 outcome) (ih after)

end Tallying

section Verdicts
variable {values : List (String × EvidenceValue)} {rule : Rule} {rules : List Rule}

-- A rule counts for what its expression answers.
theorem verdict_counted (prepared : Prepared values) (typed : WellTyped rule.expression) (status : EvidenceStatus) :
    verdictIs (readingOf values) status rule = counts values status rule := by
  unfold verdictIs verdict counts
  rw [meaning_answered prepared typed,answer]
  cases meaning values rule.expression with
  | error error => rfl
  | ok v =>
    obtain ⟨kind,value,isMissing⟩ := v
    cases isMissing with
    | true => simp [Except.toOption,EvidenceValue.said,statusOf]
    | false =>
      cases value with
      | boolean truth => cases truth <;> simp [Except.toOption,EvidenceValue.said,statusOf]
      | _ => simp [Except.toOption,EvidenceValue.said,statusOf]

theorem verdict_answered (prepared : Prepared values) (typed : WellTyped rule.expression) :
    (verdict (readingOf values) rule).isSome ↔ ∃ v, meaning values rule.expression = .ok v := by
  rw [verdict,meaning_answered prepared typed,answer]
  cases meaning values rule.expression <;> simp [Except.toOption]

theorem tallied_passed (prepared : Prepared values) (typed : ∀ rule ∈ rules, WellTyped rule.expression) {t : Tally}
    (tallied : Tallied values rules .empty t) : Passed (readingOf values) rules t.totalScore t.missingScore := by
  have same : ∀ status, rules.filter (verdictIs (readingOf values) status) = rules.filter (counts values status) :=
    fun status => List.filter_congr fun rule listed => verdict_counted prepared (typed rule listed) status
  refine ⟨fun rule listed => (verdict_answered prepared (typed rule listed)).mpr (tallied.evaluated rule listed),?_,?_⟩
  · rw [same]
    exact tallied.total
  · rw [same]
    exact tallied.missingScore

end Verdicts
end SwapMonitor.Rules
