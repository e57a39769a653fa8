import SwapMonitor.Rules.Semantics
import SwapMonitor.Rules.Soundness

namespace SwapMonitor.Rules
open Exceptions

def EvidenceValue.said (v : EvidenceValue) : Option ScalarValue := if v.isMissing then none else some v.value

def readingOf (values : List (String × EvidenceValue)) : Reading := fun name => (values.lookup name).map EvidenceValue.value

-- An outcome without the class and the text of its error.
def answer (x : Except PyError EvidenceValue) : Option (Option ScalarValue) := x.toOption.map EvidenceValue.said

section Operators
variable {results : List EvidenceValue} {v w : EvidenceValue}

theorem boolean_answered (value : Bool) : answer (booleanResult value) = some (some (.boolean value)) := rfl

theorem all_answered (known : ∀ v ∈ results, Known .boolean v) : allBoolean results =
    .ok ((results.map EvidenceValue.value).all fun operand => decide (operand = .boolean true)) := by
  induction results with
  | nil => rfl
  | cons v rest ih =>
    obtain ⟨here,later⟩ := List.forall_mem_cons.mp known
    obtain ⟨value,same,read⟩ := boolean_read here
    cases value <;> simp [allBoolean,read,same,ih later,Bind.bind,Except.bind,Pure.pure,Except.pure]

theorem any_answered (known : ∀ v ∈ results, Known .boolean v) : anyBoolean results =
    .ok ((results.map EvidenceValue.value).any fun operand => decide (operand = .boolean true)) := by
  induction results with
  | nil => rfl
  | cons v rest ih =>
    obtain ⟨here,later⟩ := List.forall_mem_cons.mp known
    obtain ⟨value,same,read⟩ := boolean_read here
    cases value <;> simp [anyBoolean,read,same,ih later,Bind.bind,Except.bind,Pure.pure,Except.pure]

theorem decimals_answered (known : ∀ v ∈ results, Known .decimal v) :
    decimalValues results = .ok ((results.map EvidenceValue.value).map ScalarValue.number) := by
  induction results with
  | nil => rfl
  | cons v rest ih =>
    obtain ⟨here,later⟩ := List.forall_mem_cons.mp known
    obtain ⟨value,rfl,typed⟩ := known_value here
    cases value <;> cases typed
    simp [decimalValues,decimalValue,ih later,ScalarValue.number,Bind.bind,Except.bind,Pure.pure,Except.pure]

-- The four comparisons are those of the places.
theorem compare_answered {operator : Operator} {kind : EvidenceKind} (ordering : operator ∈ [.lt,.lte,.gt,.gte])
    (comparable : kind = .decimal ∨ kind = .datetime) (one : Known kind v) (two : Known kind w) :
    answer (compareValues operator v w >>= booleanResult) = (operator.denotes [v.value,w.value]).map some := by
  obtain ⟨a,rfl,typed⟩ := known_value one
  obtain ⟨b,rfl,typed'⟩ := known_value two
  simp only [List.mem_cons,List.not_mem_nil,or_false] at ordering
  rcases comparable with rfl | rfl
  · cases a <;> cases typed
    cases b <;> cases typed'
    rcases ordering with rfl | rfl | rfl | rfl
    all_goals
      simp only [compareValues,decimalValue,ordered,Operator.denotes,ScalarValue.place,and_self,if_true,Bind.bind,Except.bind,
        boolean_answered,Option.map_some,Option.some.injEq,ScalarValue.boolean.injEq]
      exact decide_eq_decide.mpr Iff.rfl
  · cases a <;> cases typed
    cases b <;> cases typed'
    rcases ordering with rfl | rfl | rfl | rfl
    all_goals
      simp [compareValues,datetimeValue,ordered,Operator.denotes,ScalarValue.place,boolean_answered,Bind.bind,Except.bind]

theorem quotient_taken (left right : Decimal) :
    evaluateDecimalOperation .divide [⟨.decimal,.decimal left,false⟩,⟨.decimal,.decimal right,false⟩] =
      if right.coefficient = 0 then raise .ruleEvaluationError "divide denominator is zero at evaluation time"
      else left.divide right >>= canonicalDecimal := by
  by_cases zero : right.coefficient = 0
  · simp [evaluateDecimalOperation,decimalValues,decimalValue,raiseIf,raise,zero,Bind.bind,Except.bind,Pure.pure,Except.pure]
  · simp [evaluateDecimalOperation,decimalValues,decimalValue,raiseIf,zero,Bind.bind,Except.bind,Pure.pure,Except.pure]

theorem quotient_denotes (left right : Decimal) : Operator.divide.denotes [.decimal left,.decimal right] =
    if right.coefficient = 0 then none else keptNumber (left.divide right) := rfl

theorem number_answered (result : Except PyError Decimal) :
    answer ((result >>= canonicalDecimal) >>= fun d => EvidenceValue.create .decimal (.decimal d)) = (keptNumber result).map some := by
  unfold keptNumber answer
  cases result >>= canonicalDecimal with
  | error error => rfl
  | ok d =>
    simp only [Bind.bind,Except.bind,EvidenceValue.create,validateValueType,normalizeValue]
    cases canonicalDecimal d <;> rfl

end Operators

section Expressions
variable {values : List (String × EvidenceValue)}

theorem missing_answered {kind : EvidenceKind} (typed : kind ≠ .null) : answer (EvidenceValue.missing kind) = some none := by
  rw [missing_created typed]
  rfl

-- With all operands there an operator makes of them what it denotes.
theorem apply_denotes {operator : Operator} {operands : List Expression} {kind : EvidenceKind} {results : List EvidenceValue}
    (checks : Checks operator operands kind) (ordinary : operator ∉ [.if,.exists])
    (fit : List.Forall₂ (fun operand v => Fits operand.kind v) operands results)
    (present : ∀ v ∈ results, v.isMissing = false) :
    answer (applyOperator operator kind results) = (operator.denotes (results.map EvidenceValue.value)).map some := by
  have all : ¬results.any EvidenceValue.isMissing = true := by simpa using present
  cases checks with
  | connective connective booleans =>
    have known := known_members fit booleans present
    simp only [List.mem_cons,List.not_mem_nil,or_false] at connective
    rcases connective with rfl | rfl
    · simp only [applyOperator,if_neg all,all_answered known,Bind.bind,Except.bind,boolean_answered,Operator.denotes,Option.map_some]
    · simp only [applyOperator,if_neg all,any_answered known,Bind.bind,Except.bind,boolean_answered,Operator.denotes,Option.map_some]
  | negation boolean =>
    obtain ⟨v,rfl,one⟩ := single_result fit
    obtain ⟨value,same,read⟩ := boolean_read (fits_known (boolean ▸ one) (present v (by simp)))
    simp only [applyOperator,if_neg all,read,Bind.bind,Except.bind,boolean_answered,List.map_cons,List.map_nil,same,
      Operator.denotes,Option.map_some]
    cases value <;> rfl
  | equality equality =>
    obtain ⟨v,w,rfl,_,_⟩ := paired_results fit
    simp only [List.mem_cons,List.not_mem_nil,or_false] at equality
    rcases equality with rfl | rfl
    · simp only [applyOperator,if_neg all,boolean_answered,List.map_cons,List.map_nil,Operator.denotes,Option.map_some]
    · simp only [applyOperator,if_neg all,boolean_answered,List.map_cons,List.map_nil,Operator.denotes,Option.map_some]
  | ordering ordering comparable same =>
    obtain ⟨v,w,rfl,one,two⟩ := paired_results fit
    have compared := compare_answered ordering comparable (fits_known one (present v (by simp)))
      (fits_known (same ▸ two) (present w (by simp)))
    simp only [List.mem_cons,List.not_mem_nil,or_false] at ordering
    rcases ordering with rfl | rfl | rfl | rfl
    all_goals
      simp only [applyOperator,if_neg all,List.map_cons,List.map_nil]
      exact compared
  | containment left right =>
    obtain ⟨v,w,rfl,one,two⟩ := paired_results fit
    obtain ⟨part,rfl,typed⟩ := known_value (fits_known (left ▸ one) (present v (by simp)))
    obtain ⟨whole,rfl,typed'⟩ := known_value (fits_known (right ▸ two) (present w (by simp)))
    cases part <;> cases typed
    cases whole <;> cases typed'
    simp only [applyOperator,if_neg all,stringValue,Bind.bind,Except.bind,boolean_answered,List.map_cons,List.map_nil,
      Operator.denotes,ScalarValue.text,Option.map_some,Option.some.injEq,ScalarValue.boolean.injEq]
    exact decide_eq_decide.mpr Iff.rfl
  | presence => simp at ordinary
  | fold fold decimals =>
    have known := known_members fit decimals present
    simp only [List.mem_cons,List.not_mem_nil,or_false] at fold
    rcases fold with rfl | rfl
    all_goals
      simp only [applyOperator,if_neg all,evaluateDecimalOperation,decimals_answered known,Operator.denotes]
      exact number_answered _
  | pair pair left right =>
    obtain ⟨v,w,rfl,one,two⟩ := paired_results fit
    obtain ⟨a,rfl,typed⟩ := known_value (fits_known (left ▸ one) (present v (by simp)))
    obtain ⟨b,rfl,typed'⟩ := known_value (fits_known (right ▸ two) (present w (by simp)))
    cases a <;> cases typed
    cases b <;> cases typed'
    simp only [List.mem_cons,List.not_mem_nil,or_false] at pair
    rcases pair with rfl | rfl
    · simp only [applyOperator,if_neg all,evaluateDecimalOperation,decimalValues,decimalValue,Operator.denotes]
      exact number_answered _
    · simp only [applyOperator,if_neg all,quotient_taken,quotient_denotes,List.map_cons,List.map_nil]
      split
      · rfl
      · exact number_answered _
  | choice => simp at ordinary

theorem reading_missing {v : EvidenceValue} (missing : v.isMissing = true) : v.said = none := by simp [EvidenceValue.said,missing]

-- Operands that all have a value are known or missing one by one.
theorem results_answered {operands : List Expression} (each : ∀ operand ∈ operands,
      answers (readingOf values) operand = answer (meaning values operand)) :
    answersAll (readingOf values) operands = (meanings values operands).toOption.map fun results => results.map EvidenceValue.said := by
  induction operands with
  | nil => rfl
  | cons operand rest ih =>
    obtain ⟨here,later⟩ := List.forall_mem_cons.mp each
    rw [answersAll,here,ih later,meanings]
    cases meaning values operand with
    | error error => rfl
    | ok v => cases meanings values rest <;> rfl

theorem all_said {results : List EvidenceValue} :
    (results.map EvidenceValue.said).all Option.isSome = !results.any EvidenceValue.isMissing := by
  induction results with
  | nil => rfl
  | cons v rest ih => cases missing : v.isMissing <;> simp [EvidenceValue.said,missing,ih]

theorem present_said {results : List EvidenceValue} (present : ∀ v ∈ results, v.isMissing = false) :
    (results.map EvidenceValue.said).filterMap id = results.map EvidenceValue.value := by
  induction results with
  | nil => rfl
  | cons v rest ih =>
    obtain ⟨here,later⟩ := List.forall_mem_cons.mp present
    simpa [EvidenceValue.said,here] using ih later

theorem operation_answers {operator : Operator} (choice : operator ≠ .if) (presence : operator ≠ .exists)
    (operands : List Expression) (kind : EvidenceKind) (reading : Reading) :
    answers reading (.operation operator operands kind) = (answersAll reading operands).bind operator.answers := by
  cases operator <;> first | exact absurd rfl choice | exact absurd rfl presence | rw [answers] <;> simp

-- The language says of a typed expression what the evaluation comes to, by induction on its typing.
theorem meaning_answered (prepared : Prepared values) {e : Expression} (typed : WellTyped e) :
    answers (readingOf values) e = answer (meaning values e) := by
  induction typed with
  | @literal kind value kinds _ =>
    subst kinds
    rw [answers,meaning,EvidenceValue.create,validate_kind]
    simp only [Bind.bind,Except.bind]
    cases normalizeValue value <;> rfl
  | @path name kind registered =>
    rw [answers,meaning,missing_created (registered_kind registered)]
    simp only [Bind.bind,Except.bind,registered_path registered]
    cases found : values.lookup name with
    | none => simp [readingOf,found,answer,EvidenceValue.said,Except.toOption,Pure.pure,Except.pure]
    | some v =>
      obtain ⟨kind',_,known⟩ := prepared name v found
      simp [readingOf,found,answer,EvidenceValue.said,known.present,Except.toOption,Pure.pure,Except.pure]
  | @operation operands operator kind typed checked ih =>
    have checks := operator_checks checked
    have sound : ∀ operand ∈ operands, Finishes (meaning values operand) (Sound values operand) (Stopped values operand) :=
      fun operand listed => meaning_sound prepared (typed operand listed)
    by_cases choice : operator = .if
    · subst choice
      cases checks with
      | @choice _ condition yes no boolean one two =>
        have test := sound condition (by simp)
        rw [answers,ih condition (by simp),ih yes (by simp),ih no (by simp),meaning]
        cases tested : meaning values condition with
        | error error => rfl
        | ok truth =>
          replace test := finishes_returned test tested
          cases missing : truth.isMissing with
          | true =>
            simp only [answer,Except.toOption,Option.map_some,reading_missing missing,Bind.bind,Except.bind,missing,if_true]
            by_cases null : kind = .null
            · subst null
              rfl
            · rw [if_neg null,missing_created null]
              rfl
          | false =>
            obtain ⟨value,rfl,kinds⟩ := known_value (fits_known (boolean ▸ test.fits) missing)
            cases value <;> cases kinds
            rename_i taken
            cases taken <;> rfl
      | _ => simp_all
    · rw [meaning_operation choice]
      have all := results_answered ih
      by_cases presence : operator = .exists
      · subst presence
        obtain ⟨operand,rfl,rfl⟩ : ∃ operand, operands = [operand] ∧ kind = .boolean := by
          cases checks with
          | presence => exact ⟨_,rfl,rfl⟩
          | _ => simp_all
        rw [answers,all,meanings]
        cases meaning values operand with
        | error error => rfl
        | ok v =>
          cases missing : v.isMissing with
          | true => simp [EvidenceValue.said,missing,meanings,applyOperator,boolean_answered,Bind.bind,Except.bind,Pure.pure,Except.pure,
              Except.toOption]
          | false => simp [EvidenceValue.said,missing,meanings,applyOperator,boolean_answered,Bind.bind,Except.bind,Pure.pure,Except.pure,
              Except.toOption]
      · rw [operation_answers choice presence,all]
        cases came : meanings values operands with
        | error error => rfl
        | ok results =>
          have fit := (finishes_returned (operands_end sound) came).imp fun _ _ (sound : Sound values _ _) => sound.fits
          simp only [Except.toOption,Option.map_some,Option.bind_some,Operator.answers,all_said,Bind.bind,Except.bind]
          by_cases absent : results.any EvidenceValue.isMissing = true
          · have kinds : kind ≠ .null := by
              cases checks <;> first | exact absurd rfl choice | simp
            rw [apply_missing presence absent,missing_answered kinds]
            simp [absent]
          · have present : ∀ v ∈ results, v.isMissing = false := by simpa using absent
            rw [apply_denotes checks (by simp [choice,presence]) fit present,present_said present]
            simp [absent]

-- An expression without such a node never comes to one.
theorem met_null {reading : Reading} {e : Expression} (meets : MeetsNullIf reading e) :
    ∃ operands, .operation .if operands .null ∈ e.nodes := by
  have below : ∀ {operator operands kind} {operand : Expression}, operand ∈ operands →
      (∃ inner, .operation .if inner .null ∈ operand.nodes) →
      ∃ inner, .operation .if inner .null ∈ (Expression.operation operator operands kind).nodes :=
    fun listed ⟨inner,node⟩ => ⟨inner,node_operand listed node⟩
  induction meets with
  | here _ => exact ⟨_,node_self _⟩
  | condition _ ih => exact below (by simp) ih
  | yes _ _ ih => exact below (by simp) ih
  | no _ _ ih => exact below (by simp) ih
  | operand _ _ _ ih => exact below (by simp) ih

theorem typed_operand {operator : Operator} {operands : List Expression} {kind : EvidenceKind} {operand : Expression}
    (typed : WellTyped (.operation operator operands kind)) (listed : operand ∈ operands) : WellTyped operand := by
  cases typed with
  | operation typed _ => exact typed operand listed

theorem kind_boolean {condition yes no : Expression} {more : List Expression} {kind : EvidenceKind}
    (typed : WellTyped (.operation .if (condition :: yes :: no :: more) kind)) : condition.kind = .boolean := by
  cases typed with
  | operation _ checked =>
    cases operator_checks checked with
    | choice boolean _ _ => exact boolean
    | _ => simp_all

theorem answered_missing {e : Expression} (prepared : Prepared values) (typed : WellTyped e) :
    answers (readingOf values) e = some none ↔ ∃ truth, meaning values e = .ok truth ∧ truth.isMissing = true := by
  rw [meaning_answered prepared typed,answer]
  cases meaning values e with
  | error error => simp [Except.toOption]
  | ok truth => simp [Except.toOption,EvidenceValue.said]

theorem answered_known {e : Expression} {value : ScalarValue} (prepared : Prepared values) (typed : WellTyped e) :
    answers (readingOf values) e = some (some value) ↔ meaning values e = .ok ⟨e.kind,value,false⟩ := by
  rw [meaning_answered prepared typed,answer]
  cases came : meaning values e with
  | error error => simp [Except.toOption]
  | ok v =>
    have fits := (finishes_returned (meaning_sound prepared typed) came).fits
    obtain ⟨kind,scalar,isMissing⟩ := v
    obtain ⟨rfl,_⟩ := fits
    cases isMissing <;> simp [Except.toOption,EvidenceValue.said]

theorem answered_all (prepared : Prepared values) {operands : List Expression} (typed : ∀ operand ∈ operands, WellTyped operand) :
    (answersAll (readingOf values) operands).isSome ↔ ∃ results, meanings values operands = .ok results := by
  rw [results_answered fun operand listed => meaning_answered prepared (typed operand listed)]
  cases meanings values operands <;> simp [Except.toOption]

-- The evaluation comes to an if of the NULL kind where reading the expression does.
theorem reaches_met (prepared : Prepared values) {e : Expression} (reaches : ReachesNullIf values e) (typed : WellTyped e) :
    MeetsNullIf (readingOf values) e := by
  induction reaches with
  | here tested missing => exact .here ((answered_missing prepared (typed_operand typed (by simp))).mpr ⟨_,tested,missing⟩)
  | condition _ ih => exact .condition (ih (typed_operand typed (by simp)))
  | yes tested _ ih =>
    have boolean := kind_boolean typed
    exact .yes ((answered_known prepared (typed_operand typed (by simp))).mpr (boolean ▸ tested)) (ih (typed_operand typed (by simp)))
  | no tested _ ih =>
    have boolean := kind_boolean typed
    exact .no ((answered_known prepared (typed_operand typed (by simp))).mpr (boolean ▸ tested)) (ih (typed_operand typed (by simp)))
  | operand ordinary before _ ih =>
    have earlier := (answered_all prepared fun operand listed => typed_operand typed (List.mem_append_left _ listed)).mpr ⟨_,before⟩
    exact .operand ordinary earlier (ih (typed_operand typed (by simp)))

theorem met_reaches (prepared : Prepared values) {e : Expression} (meets : MeetsNullIf (readingOf values) e) (typed : WellTyped e) :
    ReachesNullIf values e := by
  induction meets with
  | here tested =>
    obtain ⟨truth,tested,missing⟩ := (answered_missing prepared (typed_operand typed (by simp))).mp tested
    exact .here tested missing
  | condition _ ih => exact .condition (ih (typed_operand typed (by simp)))
  | yes tested _ ih =>
    have tested := (answered_known prepared (typed_operand typed (by simp))).mp tested
    exact .yes (kind_boolean typed ▸ tested) (ih (typed_operand typed (by simp)))
  | no tested _ ih =>
    have tested := (answered_known prepared (typed_operand typed (by simp))).mp tested
    exact .no (kind_boolean typed ▸ tested) (ih (typed_operand typed (by simp)))
  | operand ordinary before _ ih =>
    obtain ⟨results,before⟩ := (answered_all prepared fun operand listed =>
      typed_operand typed (List.mem_append_left _ listed)).mp before
    exact .operand ordinary before (ih (typed_operand typed (by simp)))

end Expressions
end SwapMonitor.Rules
