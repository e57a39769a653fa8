import SwapMonitor.Rules.Causes
import SwapMonitor.Rules.Canonical
import SwapMonitor.Domain.DecimalTexts

namespace SwapMonitor.Rules
open Arithmetic Exceptions

-- canonical_decimal of the evidence and _canonical_decimal of the parser on any Decimal; none is
-- an infinity or a NaN, which each of them refuses with an error of its own.
def evidenceCanonicalDecimal : Option Decimal → Except PyError Decimal
  | none => raise .ruleEvaluationError "Decimal evidence must be finite"
  | some value => canonicalDecimal value

def parserCanonicalDecimal : Option Decimal → Except PyError Decimal
  | none => raise .decimalResourceLimitError "Decimal values must be finite"
  | some value => canonicalDecimal value

theorem canonical_significant {d : Decimal} (nonzero : d.coefficient ≠ 0) : canonicalForm d =
    if 0 ≤ (significant d).2 then ⟨d.negative,(significant d).1 * 10 ^ (significant d).2.toNat,0⟩
    else ⟨d.negative,(significant d).1,(significant d).2⟩ := by
  rw [canonicalForm,if_neg nonzero]
  rfl

-- The form is read off the value, whatever digits and exponent the value was given with.
theorem canonical_same {a b : Decimal} (same : a.toRat = b.toRat) : canonicalForm a = canonicalForm b := by
  by_cases zero : a.coefficient = 0
  · have other : b.coefficient = 0 := (toRat_zero b).mp (same ▸ (toRat_zero a).mpr zero)
    rw [canonicalForm,canonicalForm,if_pos zero,if_pos other]
  · have other : b.coefficient ≠ 0 := fun none => zero ((toRat_zero a).mp (same ▸ (toRat_zero b).mpr none))
    obtain ⟨signs,digits⟩ := significant_same zero other same
    rw [canonical_significant zero,canonical_significant other,signs,digits]

theorem canonical_equal {a b : Decimal} : canonicalForm a = canonicalForm b ↔ a.toRat = b.toRat := by
  refine ⟨fun same => ?_,canonical_same⟩
  rw [← canonical_value a,same,canonical_value b]

theorem canonical_again (d : Decimal) : canonicalForm (canonicalForm d) = canonicalForm d := canonical_same (canonical_value d)

-- The canonical form of an accepted number passes the same checks when it has few enough digits.
theorem canonical_accepted {d c : Decimal} (accepted : canonicalDecimal d = .ok c) :
    canonicalDecimal c = .ok c ↔ |d.toRat| < (10 : ℚ) ^ MAX_DECIMAL_COEFFICIENT_DIGITS := by
  obtain ⟨bounded,rfl⟩ := canonical_exact.mp accepted
  rw [canonical_exact,canonical_again,← canonical_bounded bounded]
  exact and_iff_left rfl

theorem wrapped_exact {c : Decimal} :
    EvidenceValue.create .decimal (.decimal c) = .ok ⟨.decimal,.decimal c,false⟩ ↔ canonicalDecimal c = .ok c := by
  cases read : canonicalDecimal c with
  | error error => simp [EvidenceValue.create,validateValueType,normalizeValue,read,Bind.bind,Except.bind]
  | ok c' => simp [EvidenceValue.create,validateValueType,normalizeValue,read,Bind.bind,Except.bind,pure,Except.pure]

-- What is asked of the form canonical_decimal gives an accepted number.
structure NormalForm (d c : Decimal) : Prop where
  value : c.toRat = d.toRat
  equal : ∀ d' c', canonicalDecimal d' = .ok c' → (d.toRat = d'.toRat ↔ c = c')
  parser : parserCanonicalDecimal (some d) = evidenceCanonicalDecimal (some d)
  again : canonicalDecimal c = .ok c
  wrapped : EvidenceValue.create .decimal (.decimal c) = .ok ⟨.decimal,.decimal c,false⟩

theorem normal_exact {d c : Decimal} (accepted : canonicalDecimal d = .ok c) :
    NormalForm d c ↔ |d.toRat| < (10 : ℚ) ^ MAX_DECIMAL_COEFFICIENT_DIGITS := by
  have small := canonical_accepted accepted
  refine ⟨fun form => small.mp form.again,fun near => ?_⟩
  obtain ⟨_,rfl⟩ := canonical_exact.mp accepted
  refine ⟨canonical_value d,?_,rfl,small.mpr near,wrapped_exact.mpr (small.mpr near)⟩
  intro d' c' accepted'
  obtain ⟨_,rfl⟩ := canonical_exact.mp accepted'
  exact canonical_equal.symm

-- What arithmetic comes to went through canonical_decimal once.
theorem operation_canonical {operator : Operator} {operands : List EvidenceValue} {result : Decimal}
    (computed : evaluateDecimalOperation operator operands = .ok result) : ∃ exact, canonicalDecimal exact = .ok result := by
  simp only [evaluateDecimalOperation,bind_ok] at computed
  obtain ⟨values,_,applied⟩ := computed
  split at applied
  · obtain ⟨exact,_,canonical⟩ := bind_ok.mp applied
    exact ⟨exact,canonical⟩
  · obtain ⟨exact,_,canonical⟩ := bind_ok.mp applied
    exact ⟨exact,canonical⟩
  · obtain ⟨exact,_,canonical⟩ := bind_ok.mp applied
    exact ⟨exact,canonical⟩
  · obtain ⟨_,applied⟩ := check_ok.mp applied
    obtain ⟨exact,_,canonical⟩ := bind_ok.mp applied
    exact ⟨exact,canonical⟩
  · cases applied

section Scores
variable {fields : RuleEvaluation}

-- An evaluation is not stopped for its scores and keeps them as they are.
def KeepsScores (fields : RuleEvaluation) : Prop :=
  Finishes (RuleEvaluation.create fields)
    (fun evaluation => evaluation.totalScore = fields.totalScore ∧ evaluation.threshold = fields.threshold)
    fun error => error.kind ≠ .decimalResourceLimitError

theorem audit_bytes {payload : Json} {limitBytes : Nat} {boundary : String} :
    Finishes (requireEvidenceBytes payload limitBytes boundary) (fun _ => True) fun error => error.kind ≠ .decimalResourceLimitError :=
  finishes_imp (check_finishes fun _ => by simp) fun _ _ => trivial

theorem payloads_readable (records : List RuleEvidence) :
    Finishes (recordPayloads records) (fun _ => True) fun error => error.kind ≠ .decimalResourceLimitError := by
  induction records with
  | nil => trivial
  | cons record rest ih =>
    refine finishes_any ?_ fun _ => finishes_any ih fun _ => trivial
    refine finishes_any ?_ fun _ => trivial
    simp only [EvidenceValue.create,validateValueType,normalizeValue,AwareDatetime.toUTC]
    split
    · trivial
    · simp [outOfRange,Bind.bind,Except.bind,Finishes]

theorem ids_readable (ids : List String) :
    Finishes (requireIds ids) (fun _ => True) fun error => error.kind ≠ .decimalResourceLimitError := by
  induction ids with
  | nil => trivial
  | cons ruleId rest ih =>
    exact finishes_any (finishes_imp (check_finishes fun _ => by simp) fun _ _ => trivial) fun _ => ih

theorem wrap_readable {c : Decimal} (canonical : canonicalDecimal c = .ok c) :
    Finishes (EvidenceValue.create .decimal (.decimal c)) (fun _ => True) fun error => error.kind ≠ .decimalResourceLimitError := by
  rw [wrapped_exact.mpr canonical]
  trivial

theorem measure_readable {evaluation : RuleEvaluation} (total : canonicalDecimal evaluation.totalScore = .ok evaluation.totalScore)
    (threshold : canonicalDecimal evaluation.threshold = .ok evaluation.threshold) :
    Finishes (measureRuleEvaluation evaluation) (fun _ => True) fun error => error.kind ≠ .decimalResourceLimitError :=
  finishes_bind (payloads_readable _) fun _ _ => finishes_bind (wrap_readable threshold) fun _ _ =>
    finishes_bind (wrap_readable total) fun _ _ => audit_bytes

theorem scores_admitted (total : canonicalDecimal fields.totalScore = .ok fields.totalScore)
    (threshold : canonicalDecimal fields.threshold = .ok fields.threshold) : KeepsScores fields := by
  unfold KeepsScores RuleEvaluation.create
  apply finishes_bind (check_finishes fun _ => by simp)
  intro _ _
  apply finishes_bind (check_finishes fun _ => by simp)
  intro _ _
  apply finishes_after total
  apply finishes_after threshold
  apply finishes_bind (ids_readable _)
  intro _ _
  exact finishes_bind (measure_readable total threshold) fun _ _ => ⟨rfl,rfl⟩

-- A score the evaluation does not read again stops it.
theorem scores_refused {total threshold : Decimal} (positive : 0 ≤ fields.totalScore.toRat) (positive' : 0 ≤ fields.threshold.toRat)
    (first : canonicalDecimal total = .ok fields.totalScore) (second : canonicalDecimal threshold = .ok fields.threshold)
    (kept : KeepsScores fields) : canonicalDecimal fields.totalScore = .ok fields.totalScore ∧
      canonicalDecimal fields.threshold = .ok fields.threshold := by
  have form : ∀ {d c : Decimal}, canonicalDecimal d = .ok c → canonicalForm c = c := by
    intro d c accepted
    obtain ⟨_,rfl⟩ := canonical_exact.mp accepted
    exact canonical_again d
  have limited : ∀ {d : Decimal} {error : PyError}, canonicalDecimal d = .error error → error.kind = .decimalResourceLimitError := by
    intro d error raised
    simp only [canonicalDecimal,requireBoundedDecimal,raiseIf] at raised
    repeat' split at raised
    all_goals simp [Bind.bind,Except.bind,raise,pure,Except.pure] at raised
    all_goals rw [← raised]
  have scored : raiseIf (decide (fields.totalScore.toRat < 0)) .ruleEvaluationError "total_score must not be negative" =
      .ok () := by simpa using positive
  have bounded : raiseIf (decide (fields.threshold.toRat < 0)) .ruleEvaluationError "threshold must not be negative" =
      .ok () := by simpa using positive'
  unfold KeepsScores RuleEvaluation.create at kept
  rw [scored,bounded] at kept
  cases one : canonicalDecimal fields.totalScore with
  | error error =>
    rw [one] at kept
    exact absurd (limited one) kept
  | ok c =>
    obtain ⟨_,rfl⟩ := canonical_exact.mp one
    rw [one] at kept
    cases two : canonicalDecimal fields.threshold with
    | error error =>
      rw [two] at kept
      exact absurd (limited two) kept
    | ok c' =>
      obtain ⟨_,rfl⟩ := canonical_exact.mp two
      rw [form first,form second]
      exact ⟨rfl,rfl⟩

end Scores

-- A number admitted once is read again without a failure or a change when it is below ten to the
-- 256th, and only then: the limits on digits and on characters are those of the form it came in.
theorem admitted_again (d c : Decimal) :
    (canonicalDecimal d = .ok c → (NormalForm d c ↔ |d.toRat| < (10 : ℚ) ^ MAX_DECIMAL_COEFFICIENT_DIGITS)) ∧
    (∀ operator operands result, evaluateDecimalOperation operator operands = .ok result →
      (EvidenceValue.create .decimal (.decimal result) = .ok ⟨.decimal,.decimal result,false⟩ ↔
        |result.toRat| < (10 : ℚ) ^ MAX_DECIMAL_COEFFICIENT_DIGITS)) ∧
    ∀ total threshold fields, canonicalDecimal total = .ok fields.totalScore → canonicalDecimal threshold = .ok fields.threshold →
      0 ≤ total.toRat → 0 ≤ threshold.toRat → (KeepsScores fields ↔
        |total.toRat| < (10 : ℚ) ^ MAX_DECIMAL_COEFFICIENT_DIGITS ∧ |threshold.toRat| < (10 : ℚ) ^ MAX_DECIMAL_COEFFICIENT_DIGITS) := by
  have value : ∀ {d c : Decimal}, canonicalDecimal d = .ok c → c.toRat = d.toRat := by
    intro d c accepted
    obtain ⟨_,rfl⟩ := canonical_exact.mp accepted
    exact canonical_value d
  refine ⟨normal_exact,?_,?_⟩
  · intro operator operands result computed
    obtain ⟨exact,canonical⟩ := operation_canonical computed
    rw [wrapped_exact,canonical_accepted canonical,value canonical]
  · intro total threshold fields first second positive positive'
    rw [← canonical_accepted first,← canonical_accepted second]
    constructor
    · exact scores_refused (by rwa [value first]) (by rwa [value second]) first second
    · exact fun ⟨one,two⟩ => scores_admitted one two

def greatNumber : Decimal := ⟨false,1,256⟩

theorem great_accepted : canonicalDecimal greatNumber = .ok ⟨false,10 ^ 256,0⟩ := by decide +kernel

theorem great_refused : canonicalDecimal greatNumber = .ok ⟨false,10 ^ 256,0⟩ ∧
    EvidenceValue.create .decimal (.decimal ⟨false,10 ^ 256,0⟩) =
      .error ⟨.decimalResourceLimitError,"Decimal coefficient exceeds the fixed digit limit"⟩ ∧
    ¬∀ d c, canonicalDecimal d = .ok c → NormalForm d c := by
  refine ⟨great_accepted,by decide +kernel,fun claimed => ?_⟩
  have again := (claimed _ _ great_accepted).again
  revert again
  decide +kernel

-- Ten itself is admitted again.
theorem ten_again : canonicalDecimal ⟨false,1,1⟩ = .ok ⟨false,10,0⟩ ∧ NormalForm ⟨false,1,1⟩ ⟨false,10,0⟩ := by
  have accepted : canonicalDecimal ⟨false,1,1⟩ = .ok ⟨false,10,0⟩ := by decide +kernel
  refine ⟨accepted,((admitted_again _ _).1 accepted).mpr ?_⟩
  decide +kernel

end SwapMonitor.Rules
