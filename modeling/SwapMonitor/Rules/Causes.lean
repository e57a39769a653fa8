import SwapMonitor.Exceptions.Finishes
import SwapMonitor.Rules.Engine
import SwapMonitor.Rules.Typing

namespace SwapMonitor.Rules
open Clocks Exceptions

-- What an evaluation may be stopped by: a divisor that came out zero, a limit on numbers, the
-- range of the arithmetic, and the size of what is kept for an audit.
inductive Excused : PyError → Prop where
  | divided : Excused ⟨.ruleEvaluationError,"divide denominator is zero at evaluation time"⟩
  | resource : Excused ⟨.decimalResourceLimitError,message⟩
  | overflow : Excused ⟨.decimalOverflow,message⟩
  | audit : Excused ⟨.ruleEvidenceResourceLimitError,message⟩

theorem excused_message {message : String} (excused : Excused ⟨.ruleEvaluationError,message⟩) :
    message = "divide denominator is zero at evaluation time" := by
  generalize raised : (⟨.ruleEvaluationError,message⟩ : PyError) = error at excused
  cases excused <;> simp_all

theorem check_finishes {condition : Bool} {kind : ErrorClass} {message : String} {raises : PyError → Prop}
    (allowed : condition = true → raises ⟨kind,message⟩) :
    Finishes (raiseIf condition kind message) (fun _ => condition = false) raises := by
  cases condition with
  | false => rfl
  | true => exact allowed rfl

section Numbers
variable {d left right start : Decimal}

theorem bounded_finishes : Finishes (requireBoundedDecimal d) (fun _ => requireBoundedDecimal d = .ok ()) Excused := by
  have ends : Finishes (requireBoundedDecimal d) (fun _ => True) Excused :=
    finishes_bind (check_finishes fun _ => .resource) fun _ _ =>
      finishes_bind (check_finishes fun _ => .resource) fun _ _ => finishes_imp (check_finishes fun _ => .resource) fun _ _ => trivial
  exact finishes_imp (finishes_noted ends) fun _ noted => noted.1

theorem canonical_finishes : Finishes (canonicalDecimal d)
    (fun canonical => requireBoundedDecimal d = .ok () ∧ canonicalForm d = canonical) Excused :=
  finishes_bind bounded_finishes fun _ bounded => ⟨bounded,rfl⟩

theorem fix_finishes : Finishes (fix d) (fun _ => True) Excused := by
  unfold fix roundTo decimalOverflow
  split
  · trivial
  · dsimp only
    split
    · exact .overflow
    · split
      · split
        · split
          · exact .overflow
          · trivial
        · trivial
      · trivial

theorem divide_finishes : Finishes (left.divide right) (fun _ => True) Excused := by
  unfold Decimal.divide
  dsimp only
  split
  · exact fix_finishes
  · split
    · exact fix_finishes
    · exact fix_finishes

theorem sum_finishes {values : List Decimal} : Finishes (sumDecimals start values) (fun _ => True) Excused := by
  induction values generalizing start with
  | nil => trivial
  | cons value rest ih => exact finishes_bind fix_finishes fun _ _ => ih

theorem product_finishes {values : List Decimal} : Finishes (productDecimals start values) (fun _ => True) Excused := by
  induction values generalizing start with
  | nil => trivial
  | cons value rest ih => exact finishes_bind fix_finishes fun _ _ => ih

end Numbers

-- A value of a kind that is there.
structure Known (expected : EvidenceKind) (v : EvidenceValue) : Prop where
  kind : v.kind = expected
  present : v.isMissing = false
  value : v.value.kind = expected

section Values
variable {kind : EvidenceKind} {v : EvidenceValue}

theorem text_finishes {value boundary : String} {identifier : Bool} :
    Finishes (requireRuleEvidenceText value boundary identifier) (fun _ => True) Excused :=
  finishes_imp (check_finishes fun _ => .audit) fun _ _ => trivial

theorem normal_finishes (value : ScalarValue) : Finishes (normalizeValue value)
    (fun normalized => normalized.kind = value.kind) fun error => Excused error ∨ value.kind = .datetime := by
  cases value with
  | decimal d => exact finishes_bind (finishes_mono canonical_finishes (fun _ _ => trivial) fun _ => .inl) fun _ (_ : True) => rfl
  | string text => exact finishes_bind (finishes_mono text_finishes (fun _ _ => trivial) fun _ => .inl) fun _ (_ : True) => rfl
  | datetime t =>
    have ends : Finishes t.toUTC (fun _ => True) fun error => Excused error ∨ (ScalarValue.datetime t).kind = .datetime := by
      cases t.toUTC with
      | ok utc => trivial
      | error error => exact .inr rfl
    exact finishes_bind ends fun _ _ => rfl
  | boolean b => rfl
  | null => rfl

theorem validate_kind (value : ScalarValue) : validateValueType value.kind value = .ok () := by cases value <;> rfl

-- Only a time can have no place on the clock.
theorem create_finishes {value : ScalarValue} (kinds : value.kind = kind) (timeless : kind ≠ .datetime) :
    Finishes (EvidenceValue.create kind value) (Known kind) Excused := by
  subst kinds
  refine finishes_after (validate_kind value) (finishes_bind (finishes_mono (normal_finishes value) (fun _ kinds => kinds) ?_)
    fun normalized kinds => ⟨rfl,rfl,kinds⟩)
  intro error raised
  exact raised.resolve_right timeless

theorem create_known {value : ScalarValue} {v : EvidenceValue} (created : EvidenceValue.create kind value = .ok v) :
    Known kind v := by
  have kinds : value.kind = kind := by
    simp only [EvidenceValue.create,check_ok] at created
    have typed := created.1
    cases kind <;> cases value <;> first | rfl | cases typed
  subst kinds
  simp only [EvidenceValue.create,bind_ok,pure_ok] at created
  obtain ⟨_,_,normalized,normal,rfl⟩ := created
  have kept := finishes_returned (normal_finishes value) normal
  exact ⟨rfl,rfl,kept⟩

theorem time_created (t : AwareDatetime) : (∃ utc, EvidenceValue.create .datetime (.datetime t) = .ok ⟨.datetime,.datetime utc,false⟩) ∧
      Shown t.instant ∨ EvidenceValue.create .datetime (.datetime t) = .error outOfRange ∧ ¬Shown t.instant := by
  by_cases shown : Shown t.instant
  · refine .inl ⟨⟨⟨t.instant,0,shown⟩,?_⟩,shown⟩
    simp only [EvidenceValue.create,validateValueType,normalizeValue,AwareDatetime.toUTC,dif_pos shown]
    rfl
  · refine .inr ⟨?_,shown⟩
    simp only [EvidenceValue.create,validateValueType,normalizeValue,AwareDatetime.toUTC,dif_neg shown]
    rfl

theorem missing_created (typed : kind ≠ .null) : EvidenceValue.missing kind = .ok ⟨kind,.null,true⟩ := by
  simp [EvidenceValue.missing,raiseIf,typed]

theorem known_value (known : Known kind v) : ∃ value, v = ⟨kind,value,false⟩ ∧ value.kind = kind := by
  obtain ⟨_,value,_⟩ := v
  obtain ⟨rfl,rfl,typed⟩ := known
  exact ⟨value,rfl,typed⟩

theorem boolean_known (value : Bool) : Finishes (booleanResult value) (Known .boolean) Excused := create_finishes rfl (by simp)

theorem boolean_read (known : Known .boolean v) : ∃ value, v.value = .boolean value ∧ booleanValue v = .ok value := by
  obtain ⟨value,rfl,typed⟩ := known_value known
  cases value <;> cases typed
  exact ⟨_,rfl,rfl⟩

theorem decimal_read (known : Known .decimal v) : ∃ value, decimalValue v = .ok value := by
  obtain ⟨value,rfl,typed⟩ := known_value known
  cases value <;> cases typed
  exact ⟨_,rfl⟩

theorem datetime_read (known : Known .datetime v) : ∃ value, datetimeValue v = .ok value := by
  obtain ⟨value,rfl,typed⟩ := known_value known
  cases value <;> cases typed
  exact ⟨_,rfl⟩

theorem string_read (known : Known .string v) : ∃ value, stringValue v = .ok value := by
  obtain ⟨value,rfl,typed⟩ := known_value known
  cases value <;> cases typed
  exact ⟨_,rfl⟩

end Values

section Operators
variable {operands : List EvidenceValue} {left right : EvidenceValue}

theorem all_finishes (booleans : ∀ operand ∈ operands, Known .boolean operand) :
    Finishes (allBoolean operands) (fun _ => True) Excused := by
  induction operands with
  | nil => trivial
  | cons operand rest ih =>
    obtain ⟨here,later⟩ := List.forall_mem_cons.mp booleans
    obtain ⟨value,_,read⟩ := boolean_read here
    apply finishes_after read
    cases value with
    | true => exact ih later
    | false => trivial

theorem any_finishes (booleans : ∀ operand ∈ operands, Known .boolean operand) :
    Finishes (anyBoolean operands) (fun _ => True) Excused := by
  induction operands with
  | nil => trivial
  | cons operand rest ih =>
    obtain ⟨here,later⟩ := List.forall_mem_cons.mp booleans
    obtain ⟨value,_,read⟩ := boolean_read here
    apply finishes_after read
    cases value with
    | true => trivial
    | false => exact ih later

theorem decimals_read (decimals : ∀ operand ∈ operands, Known .decimal operand) :
    ∃ values, decimalValues operands = .ok values ∧ values.length = operands.length := by
  induction operands with
  | nil => exact ⟨[],rfl,rfl⟩
  | cons operand rest ih =>
    obtain ⟨here,later⟩ := List.forall_mem_cons.mp decimals
    obtain ⟨value,read⟩ := decimal_read here
    obtain ⟨values,others,counted⟩ := ih later
    refine ⟨value :: values,?_,by simp [counted]⟩
    simp only [decimalValues,read,others]
    rfl

-- The four operators on numbers, of which two have exactly two operands.
theorem decimal_finishes {operator : Operator} (decimals : ∀ operand ∈ operands, Known .decimal operand)
    (numeric : operator = .add ∨ operator = .multiply ∨
      (operator = .subtract ∨ operator = .divide) ∧ operands.length = 2) :
    Finishes (evaluateDecimalOperation operator operands) (fun _ => True) Excused := by
  obtain ⟨values,read,counted⟩ := decimals_read decimals
  have canonical : ∀ d : Decimal, Finishes (canonicalDecimal d) (fun _ => True) Excused := fun d =>
    finishes_imp canonical_finishes fun _ _ => trivial
  apply finishes_after read
  rcases numeric with rfl | rfl | ⟨pair,two⟩
  · exact finishes_bind sum_finishes fun _ _ => canonical _
  · exact finishes_bind product_finishes fun _ _ => canonical _
  · rw [two] at counted
    obtain ⟨left,right,rfl⟩ := List.length_eq_two.mp counted
    rcases pair with rfl | rfl
    · exact finishes_bind fix_finishes fun _ _ => canonical _
    · exact finishes_bind (check_finishes fun _ => .divided) fun _ _ => finishes_bind divide_finishes fun _ _ => canonical _

theorem ordered_finishes {operator : Operator} {α : Type} [LT α] [LE α] [DecidableLT α] [DecidableLE α] {one two : α}
    (ordering : operator ∈ [.lt,.lte,.gt,.gte]) : Finishes (ordered operator one two) (fun _ => True) Excused := by
  cases operator <;> simp [ordered] at ordering ⊢

theorem compare_finishes {operator : Operator} {kind : EvidenceKind} (ordering : operator ∈ [.lt,.lte,.gt,.gte])
    (comparable : kind = .decimal ∨ kind = .datetime) (one : Known kind left) (two : Known kind right) :
    Finishes (compareValues operator left right) (fun _ => True) Excused := by
  unfold compareValues
  rcases comparable with rfl | rfl
  · obtain ⟨a,readLeft⟩ := decimal_read one
    obtain ⟨b,readRight⟩ := decimal_read two
    rw [if_pos ⟨one.kind,two.kind⟩]
    exact finishes_after readLeft (finishes_after readRight (ordered_finishes ordering))
  · obtain ⟨a,readLeft⟩ := datetime_read one
    obtain ⟨b,readRight⟩ := datetime_read two
    rw [if_neg (by simp [one.kind]),if_pos ⟨one.kind,two.kind⟩]
    exact finishes_after readLeft (finishes_after readRight (ordered_finishes ordering))

end Operators
end SwapMonitor.Rules
