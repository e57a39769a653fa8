import SwapMonitor.Rules.NormalForms
import SwapMonitor.Rules.Soundness
import SwapMonitor.Domain.FixedArithmetic

namespace SwapMonitor.Rules
open Arithmetic Exceptions

-- The evidence of a number that is there, in its normal form.
def decimalEvidence (d : Decimal) : EvidenceValue := ⟨.decimal,.decimal (canonicalForm d),false⟩

theorem evidence_read (statics : List Decimal) :
    decimalValues (statics.map decimalEvidence) = .ok (statics.map canonicalForm) := by
  induction statics with
  | nil => rfl
  | cons first rest ih =>
    rw [List.map_cons,decimalValues,ih]
    rfl

theorem canonical_values (statics : List Decimal) :
    List.Forall₂ (fun v w : Decimal => v.toRat = w.toRat) statics (statics.map canonicalForm) := by
  rw [List.forall₂_map_right_iff]
  exact List.forall₂_same.mpr fun d _ => (canonical_value d).symm

theorem canonical_result {exact exact' canonical canonical' : Decimal} (same : exact.toRat = exact'.toRat)
    (one : canonicalDecimal exact = .ok canonical) (two : canonicalDecimal exact' = .ok canonical') : canonical = canonical' := by
  obtain ⟨_,rfl⟩ := canonical_exact.mp one
  obtain ⟨_,rfl⟩ := canonical_exact.mp two
  exact canonical_same same

-- What the parser makes of constant operands, when it makes anything of them.
def staticOperation (operator : Operator) (statics : List Decimal) : Except PyError (Option Decimal) :=
  match operator,statics with
  | .add,values => do
    let sum ← sumDecimals ⟨false,0,0⟩ values
    some <$> canonicalDecimal sum
  | .subtract,left :: right :: _ => do
    let difference ← left.subtract right
    some <$> canonicalDecimal difference
  | .multiply,values => do
    let product ← productDecimals ⟨false,1,0⟩ values
    some <$> canonicalDecimal product
  | .divide,left :: right :: _ =>
    if right.coefficient = 0 then pure none
    else do
      let quotient ← left.divide right
      some <$> canonicalDecimal quotient
  | _,_ => pure none

theorem static_operation (operator : Operator) (operands : List Expression) :
    staticDecimal (.operation operator operands .decimal) = (do
      match ← staticDecimals operands with
      | none => pure none
      | some values => staticOperation operator values) := by
  rw [staticDecimal]
  simp only [ne_eq,not_true_eq_false,if_false]
  rfl

theorem some_canonical {d v : Decimal} (mapped : some <$> canonicalDecimal d = .ok (some v)) : canonicalDecimal d = .ok v := by
  cases read : canonicalDecimal d with
  | error error =>
    rw [read] at mapped
    cases mapped
  | ok canonical =>
    rw [read] at mapped
    cases mapped
    rfl

theorem static_canonical {operator : Operator} {statics : List Decimal} {v : Decimal}
    (static : staticOperation operator statics = .ok (some v)) : canonicalForm v = v := by
  have form : ∀ {d : Decimal}, some <$> canonicalDecimal d = .ok (some v) → canonicalForm v = v := by
    intro d mapped
    obtain ⟨_,rfl⟩ := canonical_exact.mp (some_canonical mapped)
    exact canonical_again d
  unfold staticOperation at static
  split at static
  · obtain ⟨_,_,mapped⟩ := bind_ok.mp static
    exact form mapped
  · obtain ⟨_,_,mapped⟩ := bind_ok.mp static
    exact form mapped
  · obtain ⟨_,_,mapped⟩ := bind_ok.mp static
    exact form mapped
  · split at static
    · cases static
    · obtain ⟨_,_,mapped⟩ := bind_ok.mp static
      exact form mapped
  · cases static

-- The two interpreters agree on one operation whose operands they agree on.
theorem operation_agrees {operator : Operator} {statics : List Decimal} {v w : Decimal}
    (static : staticOperation operator statics = .ok (some v))
    (computed : evaluateDecimalOperation operator (statics.map decimalEvidence) = .ok w) : w = v := by
  obtain ⟨_,read,computed⟩ := bind_ok.mp computed
  rw [evidence_read] at read
  cases read
  unfold staticOperation at static
  split at static
  · obtain ⟨sum,added,mapped⟩ := bind_ok.mp static
    obtain ⟨sum',added',canonical⟩ := bind_ok.mp computed
    exact canonical_result (sum_same (canonical_values statics) rfl added added').symm canonical (some_canonical mapped)
  · obtain ⟨difference,subtracted,mapped⟩ := bind_ok.mp static
    obtain ⟨difference',subtracted',canonical⟩ := bind_ok.mp computed
    exact canonical_result (subtract_same (canonical_value _) (canonical_value _) subtracted' subtracted) canonical (some_canonical mapped)
  · obtain ⟨product,multiplied,mapped⟩ := bind_ok.mp static
    obtain ⟨product',multiplied',canonical⟩ := bind_ok.mp computed
    exact canonical_result (product_same (canonical_values statics) rfl multiplied multiplied').symm canonical
      (some_canonical mapped)
  · split at static
    · cases static
    · obtain ⟨quotient,divided,mapped⟩ := bind_ok.mp static
      rename_i nonzero
      obtain ⟨_,rest⟩ := check_ok.mp computed
      obtain ⟨quotient',divided',canonical⟩ := bind_ok.mp rest
      exact canonical_result (divide_same (canonical_value _).symm (canonical_value _).symm nonzero divided divided').symm canonical
        (some_canonical mapped)
  · cases static

section Agreement
variable {values : List (String × EvidenceValue)}

theorem statics_each {operands : List Expression} {statics : List Decimal} (static : staticDecimals operands = .ok (some statics)) :
    List.Forall₂ (fun operand v => staticDecimal operand = .ok (some v)) operands statics := by
  induction operands generalizing statics with
  | nil =>
    cases static
    exact .nil
  | cons operand rest ih =>
    simp only [staticDecimals,bind_ok,pure_ok] at static
    obtain ⟨first,one,others,more,both⟩ := static
    cases first <;> cases others <;> cases both
    exact .cons one (ih more)

theorem meanings_each {operands : List Expression} {results : List EvidenceValue} (means : meanings values operands = .ok results) :
    List.Forall₂ (fun operand v => meaning values operand = .ok v) operands results := by
  induction operands generalizing results with
  | nil =>
    cases means
    exact .nil
  | cons operand rest ih =>
    simp only [meanings,bind_ok,pure_ok] at means
    obtain ⟨first,one,others,more,rfl⟩ := means
    exact .cons one (ih more)

theorem evidence_created {w : Decimal} {v : EvidenceValue} (created : EvidenceValue.create .decimal (.decimal w) = .ok v) :
    v = decimalEvidence w := by
  simp only [EvidenceValue.create,validateValueType,normalizeValue,bind_ok,pure_ok] at created
  obtain ⟨_,_,_,⟨_,read,rfl⟩,rfl⟩ := created
  obtain ⟨_,rfl⟩ := canonical_exact.mp read
  rfl

theorem apply_decimal {operator : Operator} {kind : EvidenceKind} {statics : List Decimal} {result : EvidenceValue}
    (arithmetic : operator ∈ [.add,.subtract,.multiply,.divide])
    (applied : applyOperator operator kind (statics.map decimalEvidence) = .ok result) :
    ∃ w, evaluateDecimalOperation operator (statics.map decimalEvidence) = .ok w ∧ result = decimalEvidence w := by
  have present : (statics.map decimalEvidence).any EvidenceValue.isMissing = false := by
    simp [decimalEvidence]
  have made : ∃ w, evaluateDecimalOperation operator (statics.map decimalEvidence) = .ok w ∧
      EvidenceValue.create .decimal (.decimal w) = .ok result := by
    simp only [List.mem_cons,List.not_mem_nil,or_false] at arithmetic
    rcases arithmetic with rfl | rfl | rfl | rfl
    all_goals
      rw [applyOperator,present] at applied
      exact bind_ok.mp applied
  obtain ⟨w,computed,created⟩ := made
  exact ⟨w,computed,evidence_created created⟩

theorem statics_yield {operands : List Expression} {statics : List Decimal} {results : List EvidenceValue}
    (yields : ∀ operand ∈ operands, ∀ v r, staticDecimal operand = .ok (some v) → meaning values operand = .ok r → r = decimalEvidence v)
    (static : List.Forall₂ (fun operand v => staticDecimal operand = .ok (some v)) operands statics)
    (means : List.Forall₂ (fun operand v => meaning values operand = .ok v) operands results) :
    results = statics.map decimalEvidence := by
  induction static generalizing results with
  | nil =>
    cases means
    rfl
  | cons one _ ih =>
    cases means with
    | cons first rest =>
      rw [List.forall_mem_cons] at yields
      rw [List.map_cons,yields.1 _ _ one first,ih yields.2 rest]

theorem static_arithmetic {operator : Operator} {statics : List Decimal} {v : Decimal}
    (static : staticOperation operator statics = .ok (some v)) : operator ∈ [.add,.subtract,.multiply,.divide] := by
  unfold staticOperation at static
  split at static
  case h_5 => cases static
  all_goals simp

-- A constant is evaluated to its static value, unless the evaluation raises.
theorem static_meaning (e : Expression) : ∀ v r, staticDecimal e = .ok (some v) → meaning values e = .ok r →
    r = decimalEvidence v ∧ (canonicalForm v = v ∨ e = .literal .decimal (.decimal v)) := by
  induction e using Expression.tree with
  | literal kind value =>
    intro v r static means
    cases kind <;> cases value <;> simp only [staticDecimal,raise,Except.ok.injEq,Option.some.injEq,reduceCtorEq] at static
    subst static
    rw [meaning] at means
    exact ⟨evidence_created means,.inr rfl⟩
  | path name kind =>
    intro v r static means
    cases static
  | operation operator operands kind ih =>
    intro v r static means
    by_cases typed : kind = .decimal
    · subst typed
      rw [static_operation,bind_ok] at static
      obtain ⟨found,each,made⟩ := static
      cases found with
      | none => cases made
      | some statics =>
        have arithmetic := static_arithmetic made
        have ordinary : operator ≠ .if := by
          intro choice
          subst choice
          simp at arithmetic
        rw [meaning_operation ordinary,bind_ok] at means
        obtain ⟨results,evaluated,applied⟩ := means
        have same := statics_yield (fun operand listed v r one two => (ih operand listed v r one two).1) (statics_each each)
          (meanings_each evaluated)
        subst same
        obtain ⟨w,computed,rfl⟩ := apply_decimal arithmetic applied
        rw [operation_agrees made computed]
        exact ⟨rfl,.inl (static_canonical made)⟩
    · simp only [staticDecimal,ne_eq,typed,not_false_eq_true,if_true] at static
      cases static

end Agreement

-- An expression in which no evidence is read and no branch is chosen.
def Constant (e : Expression) : Prop :=
  ∀ node ∈ e.nodes, (∀ name kind, node ≠ .path name kind) ∧ ∀ operands kind, node ≠ .operation .if operands kind

def zeroDivisor : PyError := ⟨.ruleEvaluationError,"divide denominator is zero at evaluation time"⟩

theorem divisor_checked {operands : List Expression} {kind : EvidenceKind} (checked : validateOperator .divide operands = .ok kind) :
    requireDivisor operands = .ok () := by
  simp only [validateOperator,check_ok] at checked
  exact checked.2.2.1

theorem statics_known {operands : List Expression} {found : Option (List Decimal)}
    (known : ∀ operand ∈ operands, ∀ found, staticDecimal operand = .ok found → ∃ v, found = some v)
    (static : staticDecimals operands = .ok found) : ∃ statics, found = some statics := by
  induction operands generalizing found with
  | nil =>
    cases static
    exact ⟨[],rfl⟩
  | cons operand rest ih =>
    rw [List.forall_mem_cons] at known
    simp only [staticDecimals,bind_ok,pure_ok] at static
    obtain ⟨first,one,others,more,rfl⟩ := static
    obtain ⟨v,rfl⟩ := known.1 first one
    obtain ⟨statics,rfl⟩ := ih known.2 more
    exact ⟨v :: statics,rfl⟩

theorem divisor_nonzero {left right : Expression} {v : Decimal} (checked : requireDivisor [left,right] = .ok ())
    (static : staticDecimal right = .ok (some v)) : v.coefficient ≠ 0 := by
  simp only [requireDivisor,static] at checked
  obtain ⟨_,same,divides⟩ := bind_ok.mp checked
  cases same
  simpa using divides

theorem folded_known {operator : Operator} {statics : List Decimal} {found : Option Decimal}
    (arithmetic : operator ∈ [.add,.multiply]) (made : staticOperation operator statics = .ok found) : ∃ v, found = some v := by
  simp only [List.mem_cons,List.not_mem_nil,or_false] at arithmetic
  rcases arithmetic with rfl | rfl
  all_goals
    obtain ⟨exact,_,mapped⟩ := bind_ok.mp made
    cases read : canonicalDecimal exact with
    | error error => rw [read] at mapped; cases mapped
    | ok canonical => rw [read] at mapped; cases mapped; exact ⟨canonical,rfl⟩

theorem paired_known {operator : Operator} {left right : Decimal} {found : Option Decimal} (arithmetic : operator ∈ [.subtract,.divide])
    (divides : operator = .divide → right.coefficient ≠ 0) (made : staticOperation operator [left,right] = .ok found) :
    ∃ v, found = some v := by
  have mapped : ∃ exact, some <$> canonicalDecimal exact = .ok found := by
    simp only [List.mem_cons,List.not_mem_nil,or_false] at arithmetic
    rcases arithmetic with rfl | rfl
    · obtain ⟨exact,_,mapped⟩ := bind_ok.mp made
      exact ⟨exact,mapped⟩
    · rw [staticOperation,if_neg (divides rfl)] at made
      obtain ⟨exact,_,mapped⟩ := bind_ok.mp made
      exact ⟨exact,mapped⟩
  obtain ⟨exact,mapped⟩ := mapped
  cases read : canonicalDecimal exact with
  | error error => rw [read] at mapped; cases mapped
  | ok canonical => rw [read] at mapped; cases mapped; exact ⟨canonical,rfl⟩

theorem constant_operand {operator : Operator} {operands : List Expression} {kind : EvidenceKind}
    (constant : Constant (.operation operator operands kind)) : ∀ operand ∈ operands, Constant operand :=
  fun _ listed node below => constant node (node_operand listed below)

-- The parser knows the value of every constant number it accepted.
theorem constant_known {e : Expression} (typed : WellTyped e) : Constant e → e.kind = .decimal →
    ∀ found, staticDecimal e = .ok found → ∃ v, found = some v := by
  induction typed with
  | @literal kind value kinds _ =>
    intro _ decimal found static
    subst kinds
    cases value <;> simp only [Expression.kind,ScalarValue.kind,reduceCtorEq] at decimal
    cases static
    exact ⟨_,rfl⟩
  | @path name kind _ =>
    intro constant
    exact absurd rfl ((constant _ (node_self _)).1 name kind)
  | @operation operands operator kind typed checked ih =>
    intro constant decimal found static
    simp only [Expression.kind] at decimal
    subst decimal
    rw [static_operation,bind_ok] at static
    obtain ⟨statics,each,made⟩ := static
    have below := constant_operand constant
    cases operator_checks checked with
    | fold arithmetic decimals =>
      obtain ⟨values,rfl⟩ := statics_known (fun operand listed => ih operand listed (below operand listed) (decimals operand listed)) each
      exact folded_known arithmetic made
    | @pair _ left right arithmetic leftKind rightKind =>
      have known : ∀ operand ∈ [left,right], ∀ found, staticDecimal operand = .ok found → ∃ v, found = some v := by
        intro operand listed
        have kinds : operand.kind = .decimal := by
          simp only [List.mem_cons,List.not_mem_nil,or_false] at listed
          rcases listed with rfl | rfl
          · exact leftKind
          · exact rightKind
        exact ih operand listed (below operand listed) kinds
      obtain ⟨values,rfl⟩ := statics_known known each
      cases statics_each each with
      | cons one rest =>
        cases rest with
        | cons two none =>
          cases none
          refine paired_known arithmetic ?_ made
          rintro rfl
          exact divisor_nonzero (divisor_checked checked) two
    | choice _ _ _ => exact absurd rfl ((constant _ (node_self _)).2 _ _)

theorem limited_kind {d : Decimal} {error : PyError} (raised : canonicalDecimal d = .error error) :
    error.kind = .decimalResourceLimitError := by
  simp only [canonicalDecimal,requireBoundedDecimal,raiseIf] at raised
  repeat' split at raised
  all_goals simp [Bind.bind,Except.bind,raise,pure,Except.pure] at raised
  all_goals rw [← raised]

-- A division by a number other than zero is not what the runtime check stops.
theorem division_passes {kind : EvidenceKind} {numerator : EvidenceValue} {w : Decimal} (nonzero : w.coefficient ≠ 0) :
    applyOperator .divide kind [numerator,⟨.decimal,.decimal w,false⟩] ≠ .error zeroDivisor := by
  intro raised
  have passes : Finishes (applyOperator .divide kind [numerator,⟨.decimal,.decimal w,false⟩]) (fun _ => True)
      fun error => error ≠ zeroDivisor := by
    have kinds : ∀ {error : PyError}, error.kind = .decimalResourceLimitError ∨ error.kind = .decimalOverflow → error ≠ zeroDivisor := by
      intro error kinds same
      subst same
      simp [zeroDivisor] at kinds
    have canonical : ∀ d : Decimal, Finishes (canonicalDecimal d) (fun _ => True) fun error => error ≠ zeroDivisor :=
      fun d => finishes_exact.mpr ⟨fun _ _ => trivial,fun error raised => kinds (.inl (limited_kind raised))⟩
    have divides : ∀ a : Decimal, Finishes (a.divide w) (fun _ => True) fun error => error ≠ zeroDivisor :=
      fun a => finishes_exact.mpr ⟨fun _ _ => trivial,fun error raised => kinds (.inr (divide_raised raised))⟩
    rw [applyOperator]
    split
    · simp only [EvidenceValue.missing,raiseIf]
      split <;> simp [raise,zeroDivisor,Bind.bind,Except.bind,Finishes,pure,Except.pure]
    · refine finishes_any ?_ fun d => ?_
      · rw [evaluateDecimalOperation]
        have pairs : Finishes (decimalValues [numerator,⟨.decimal,.decimal w,false⟩]) (fun values => ∃ a, values = [a,w])
            fun error => error ≠ zeroDivisor := by
          simp only [decimalValues]
          refine finishes_any ?_ fun a => ?_
          · unfold decimalValue
            split <;> simp [Finishes,raise,zeroDivisor]
          · exact ⟨a,rfl⟩
        refine finishes_bind pairs ?_
        intro values pair
        obtain ⟨a,rfl⟩ := pair
        refine finishes_any ?_ fun _ => finishes_bind (divides a) fun q _ => canonical q
        simp [raiseIf,nonzero,Finishes]
      · simp only [EvidenceValue.create,validateValueType,normalizeValue]
        refine finishes_any trivial fun _ => ?_
        refine finishes_any ?_ fun _ => trivial
        exact finishes_bind (canonical d) fun _ _ => trivial
  exact finishes_raised passes raised rfl

section Static
variable (values : List (String × EvidenceValue))

-- A static value is the value of the evaluation, and identical to it but for a literal of a public
-- expression that is not written in its normal form.
theorem static_division :
    (∀ e v s s' result, staticDecimal e = .ok (some v) → evaluateExpression values e s = .ok (result,s') →
      result = ⟨.decimal,.decimal (canonicalForm v),false⟩ ∧ (canonicalForm v).toRat = v.toRat ∧
        (canonicalForm v = v ∨ e = .literal .decimal (.decimal v))) ∧
    ∀ raw e, parseExpression raw = .ok e →
      ∀ numerator denominator kind, .operation .divide [numerator,denominator] kind ∈ e.nodes → Constant denominator →
        ∀ s s' operands, evaluateOperands values [numerator,denominator] s = .ok (operands,s') →
          applyOperator .divide kind operands ≠ .error zeroDivisor := by
  constructor
  · intro e v s s' result static ran
    obtain ⟨rfl,same⟩ := static_meaning e v result static (evaluated_meaning ran).1
    exact ⟨rfl,canonical_value v,same⟩
  · intro raw e parsed numerator denominator kind node constant s s' operands ran
    have typed := typed_nodes (expression_parsed parsed).typed _ node
    cases typed with
    | operation below checked =>
      have divides := divisor_checked checked
      have decimal : denominator.kind = .decimal := by
        cases operator_checks checked with
        | pair _ _ kinds => exact kinds
        | connective other | equality other | ordering other | fold other => simp at other
      simp only [evaluateOperands,bind_ok,pure_ok,Prod.exists,Prod.mk.injEq] at ran
      obtain ⟨first,_,_,_,_,⟨second,_,two,_,_,⟨rfl,rfl⟩,rfl,rfl⟩,rfl,rfl⟩ := ran
      have known := constant_known (below denominator (by simp)) constant decimal
      simp only [requireDivisor] at divides
      obtain ⟨found,static,_⟩ := bind_ok.mp divides
      obtain ⟨v,rfl⟩ := known found static
      obtain ⟨rfl,_⟩ := static_meaning denominator v second static (evaluated_meaning two).1
      apply division_passes
      intro zero
      apply divisor_nonzero (divisor_checked checked) static
      exact (toRat_zero v).mp (canonical_value v ▸ (toRat_zero _).mpr zero)

end Static
-- {"divide": [6, {"subtract": [5, 3]}]}
def rawQuotient : RawJson := .obj [("divide",.arr [.int 6,.obj [("subtract",.arr [.int 5,.int 3])]])]

def wholeLiteral (n : Nat) : Expression := .literal .decimal (.decimal ⟨false,n,0⟩)

def difference : Expression := .operation .subtract [wholeLiteral 5,wholeLiteral 3] .decimal

def quotientOfConstants : Expression := .operation .divide [wholeLiteral 6,difference] .decimal

def fullBudget : Evaluation := ⟨MAX_EVALUATION_STEPS,[],[]⟩

theorem quotient_parsed : parseExpression rawQuotient = .ok quotientOfConstants := by with_unfolding_all rfl

theorem quotient_static : staticDecimal quotientOfConstants = .ok (some ⟨false,3,0⟩) := by with_unfolding_all rfl

theorem difference_constant : Constant difference := by
  intro node below
  simp only [difference,wholeLiteral,Expression.nodes,Expression.nodesOf,List.append_nil,List.cons_append,List.nil_append,
    List.mem_cons,List.not_mem_nil,or_false] at below
  rcases below with rfl | rfl | rfl <;> simp

theorem quotient_evaluated : (∃ s', evaluateExpression [] quotientOfConstants fullBudget = .ok (⟨.decimal,.decimal ⟨false,3,0⟩,false⟩,s')) ∧
    ∃ s' operands, evaluateOperands [] [wholeLiteral 6,difference] fullBudget = .ok (operands,s') ∧
      applyOperator .divide .decimal operands ≠ .error zeroDivisor := by
  obtain ⟨agrees,divides⟩ := static_division []
  constructor
  · obtain ⟨⟨result,s'⟩,ran⟩ : ∃ pair, evaluateExpression [] quotientOfConstants fullBudget = .ok pair := ⟨_,by with_unfolding_all rfl⟩
    obtain ⟨rfl,_⟩ := agrees _ _ _ _ _ quotient_static ran
    exact ⟨s',ran⟩
  · obtain ⟨⟨operands,s'⟩,ran⟩ : ∃ pair, evaluateOperands [] [wholeLiteral 6,difference] fullBudget = .ok pair :=
      ⟨_,by with_unfolding_all rfl⟩
    exact ⟨s',operands,ran,divides _ _ quotient_parsed _ _ .decimal (node_self _) difference_constant _ _ _ ran⟩

end SwapMonitor.Rules
