import SwapMonitor.Rules.Evidence

namespace SwapMonitor.Rules

inductive EvaluationPurpose where
  | analysis | sell | action
  deriving DecidableEq, Repr

structure RuleInputFields where
  values : List (String × ScalarValue)
  protectedSource : Bool := false
  purpose : EvaluationPurpose := .analysis

def requirePaths : List (String × ScalarValue) → Except PyError Unit
  | [] => .ok ()
  | (path,_) :: rest => do
    requireRuleEvidenceText path "RuleInput evidence path" true
    requirePaths rest

-- M0M1EvidenceRegistry.controlled_values
def controlledValues : List (String × ScalarValue) → Except PyError Unit
  | [] => .ok ()
  | (path,_) :: rest => do
    let _ ← kindFor path
    controlledValues rest

def inputPayload : List (String × ScalarValue) → Except PyError (List (String × Json))
  | [] => .ok []
  | (path,rawValue) :: rest => do
    let kind ← kindFor path
    let value ← EvidenceValue.create kind rawValue
    match value.value with
    | .string text =>
      if path = "market.provider" ∨ path = "market.snapshot_id" then
        requireRuleEvidenceText text ("RuleInput " ++ path) true
    | _ => pure ()
    let others ← inputPayload rest
    pure ((path,evidenceValuePayload value) :: others)

def RuleInputFields.postInit (fields : RuleInputFields) : Except PyError Unit := do
  raiseIf fields.protectedSource .protectedRuleInputError "a protected source cannot be used for rule evaluation"
  requirePaths fields.values
  controlledValues fields.values
  let payload ← inputPayload fields.values
  requireEvidenceBytes (.obj [("values",.obj payload)]) MAX_RULE_INPUT_UTF8_BYTES "RuleInput"

-- An input that exists has passed its constructor, and its values are a mapping.
structure RuleInput extends RuleInputFields where
  keyed : (values.map Prod.fst).Nodup
  accepted : toRuleInputFields.postInit = .ok ()

-- _prepare_values
def prepareValues : List (String × ScalarValue) → Except PyError (List (String × EvidenceValue))
  | [] => .ok []
  | (path,rawValue) :: rest => do
    let kind ← match kindFor path with
      | .ok kind => pure kind
      | .error error => raise .ruleEvaluationError error.message
    let value ← EvidenceValue.create kind rawValue
    let others ← prepareValues rest
    pure ((path,value) :: others)

-- The budget of the whole ruleset and the trace of one rule.
structure Evaluation where
  remaining : Int
  operands : List EvidenceValue
  evaluatedPaths : List EvaluatedPath

def Evaluation.consume (s : Evaluation) : Except PyError Evaluation := do
  raiseIf (decide (s.remaining - 1 < 0)) .ruleEvaluationError "rule evaluation budget exhausted"
  pure {s with remaining := s.remaining - 1}

def Evaluation.record (s : Evaluation) (value : EvidenceValue) : Evaluation :=
  {s with operands := s.operands ++ [value]}

def booleanValue (v : EvidenceValue) : Except PyError Bool :=
  match v.kind,v.value with
  | .boolean,.boolean value => .ok value
  | _,_ => raise .ruleEvaluationError "Boolean operator received non-Boolean evidence"

def decimalValue (v : EvidenceValue) : Except PyError Decimal :=
  match v.kind,v.value with
  | .decimal,.decimal value => .ok value
  | _,_ => raise .ruleEvaluationError "Decimal operator received non-Decimal evidence"

def datetimeValue (v : EvidenceValue) : Except PyError AwareDatetime :=
  match v.kind,v.value with
  | .datetime,.datetime value => .ok value
  | _,_ => raise .ruleEvaluationError "datetime operator received non-datetime evidence"

def stringValue (v : EvidenceValue) : Except PyError String :=
  match v.kind,v.value with
  | .string,.string value => .ok value
  | _,_ => raise .ruleEvaluationError "string operator received non-string evidence"

def allBoolean : List EvidenceValue → Except PyError Bool
  | [] => .ok true
  | operand :: rest => do
    let value ← booleanValue operand
    if value then allBoolean rest else pure false

def anyBoolean : List EvidenceValue → Except PyError Bool
  | [] => .ok false
  | operand :: rest => do
    let value ← booleanValue operand
    if value then pure true else anyBoolean rest

def decimalValues : List EvidenceValue → Except PyError (List Decimal)
  | [] => .ok []
  | operand :: rest => do
    let value ← decimalValue operand
    let others ← decimalValues rest
    pure (value :: others)

-- left == right
def sameScalar : ScalarValue → ScalarValue → Bool
  | .decimal a,.decimal b => decide (a.toRat = b.toRat)
  | .decimal a,.boolean b => decide (a.toRat = if b then 1 else 0)
  | .boolean a,.decimal b => decide (b.toRat = if a then 1 else 0)
  | .boolean a,.boolean b => a == b
  | .datetime a,.datetime b => a.instant == b.instant
  | .string a,.string b => a == b
  | .null,.null => true
  | _,_ => false

-- The comparison an ordering operator makes of the exact numbers or of the instants.
def ordered (operator : Operator) {α : Type} [LT α] [LE α] [DecidableLT α] [DecidableLE α] (left right : α) :
    Except PyError Bool :=
  match operator with
  | .lt => .ok (decide (left < right))
  | .lte => .ok (decide (left ≤ right))
  | .gt => .ok (decide (right < left))
  | .gte => .ok (decide (right ≤ left))
  | _ => raise (.operationFailed "AssertionError") "only comparison operators are dispatched here"

def compareValues (operator : Operator) (left right : EvidenceValue) : Except PyError Bool :=
  if left.kind = .decimal ∧ right.kind = .decimal then do
    let a ← decimalValue left
    let b ← decimalValue right
    ordered operator a.toRat b.toRat
  else if left.kind = .datetime ∧ right.kind = .datetime then do
    let a ← datetimeValue left
    let b ← datetimeValue right
    ordered operator a.instant b.instant
  else raise .ruleEvaluationError "comparison operands must share a Decimal or datetime type"

def evaluateDecimalOperation (operator : Operator) (operands : List EvidenceValue) : Except PyError Decimal := do
  let values ← decimalValues operands
  match operator,values with
  | .add,values => do
    let sum ← sumDecimals ⟨false,0,0⟩ values
    canonicalDecimal sum
  | .subtract,left :: right :: _ => do
    let difference ← left.subtract right
    canonicalDecimal difference
  | .multiply,values => do
    let product ← productDecimals ⟨false,1,0⟩ values
    canonicalDecimal product
  | .divide,left :: right :: _ => do
    raiseIf (decide (right.coefficient = 0)) .ruleEvaluationError "divide denominator is zero at evaluation time"
    let quotient ← left.divide right
    canonicalDecimal quotient
  | _,_ => raise (.operationFailed "AssertionError") "only Decimal operators are dispatched here"

def booleanResult (value : Bool) : Except PyError EvidenceValue := EvidenceValue.create .boolean (.boolean value)

-- Every operator but if, on the values of its operands.
def applyOperator (operator : Operator) (kind : EvidenceKind) (operands : List EvidenceValue) :
    Except PyError EvidenceValue :=
  match operator,operands with
  | .exists,operand :: _ => booleanResult (!operand.isMissing)
  | operator,operands =>
    if operands.any EvidenceValue.isMissing then EvidenceValue.missing kind
    else match operator,operands with
      | .and,operands => do booleanResult (← allBoolean operands)
      | .or,operands => do booleanResult (← anyBoolean operands)
      | .not,operand :: _ => do booleanResult (!(← booleanValue operand))
      | .eq,left :: right :: _ => booleanResult (sameScalar left.value right.value)
      | .ne,left :: right :: _ => booleanResult (!sameScalar left.value right.value)
      | .lt,left :: right :: _ => do booleanResult (← compareValues .lt left right)
      | .lte,left :: right :: _ => do booleanResult (← compareValues .lte left right)
      | .gt,left :: right :: _ => do booleanResult (← compareValues .gt left right)
      | .gte,left :: right :: _ => do booleanResult (← compareValues .gte left right)
      | .isIn,left :: right :: _ => do
        let part ← stringValue left
        let whole ← stringValue right
        booleanResult (decide (part.toList <:+: whole.toList))
      | .add,operands => do EvidenceValue.create .decimal (.decimal (← evaluateDecimalOperation .add operands))
      | .subtract,operands => do EvidenceValue.create .decimal (.decimal (← evaluateDecimalOperation .subtract operands))
      | .multiply,operands => do EvidenceValue.create .decimal (.decimal (← evaluateDecimalOperation .multiply operands))
      | .divide,operands => do EvidenceValue.create .decimal (.decimal (← evaluateDecimalOperation .divide operands))
      | _,_ => raise .ruleEvaluationError "parsed expression has an unsupported operator"

def indexError : Except PyError (EvidenceValue × Evaluation) :=
  raise (.operationFailed "IndexError") "tuple index out of range"

section Expressions
variable (values : List (String × EvidenceValue))

mutual
def evaluateExpression : Expression → Evaluation → Except PyError (EvidenceValue × Evaluation)
  | .literal kind value,s => do
    let s ← s.consume
    let result ← EvidenceValue.create kind value
    pure (result,s.record result)
  | .path name kind,s => do
    let s ← s.consume
    let absent ← EvidenceValue.missing kind
    let result := (values.lookup name).getD absent
    let path ← EvaluatedPath.create name result
    pure (result,Evaluation.record {s with evaluatedPaths := s.evaluatedPaths ++ [path]} result)
  | .operation .if (condition :: yes :: no :: _) kind,s => do
    let s ← s.consume
    let (truth,s) ← evaluateExpression condition s
    if truth.isMissing then do
      let result ← EvidenceValue.missing kind
      pure (result,s.record result)
    else match truth.kind,truth.value with
      | .boolean,.boolean true => do
        let (result,s) ← evaluateExpression yes s
        pure (result,s.record result)
      | .boolean,.boolean false => do
        let (result,s) ← evaluateExpression no s
        pure (result,s.record result)
      | _,_ => raise .ruleEvaluationError "if condition did not evaluate to Boolean evidence"
  | .operation .if _ _,s => do
    let _ ← s.consume
    indexError
  | .operation operator operands kind,s => do
    let s ← s.consume
    let (results,s) ← evaluateOperands operands s
    let result ← applyOperator operator kind results
    pure (result,s.record result)

def evaluateOperands : List Expression → Evaluation → Except PyError (List EvidenceValue × Evaluation)
  | [],s => .ok ([],s)
  | operand :: rest,s => do
    let (first,s) ← evaluateExpression operand s
    let (others,s) ← evaluateOperands rest s
    pure (first :: others,s)
end

end Expressions

-- _add_scores
def addScores (left right : Decimal) : Except PyError Decimal := do
  let sum ← left.add right
  canonicalDecimal sum

-- _require_score; no Decimal stands for an infinity or a NaN.
def requireScore (value : Option Decimal) (label : String) : Except PyError Decimal :=
  match value with
  | none => raise .ruleEvaluationError (label ++ " must be a finite Decimal")
  | some value => do
    raiseIf (decide (value.toRat < 0)) .ruleEvaluationError (label ++ " must not be negative")
    canonicalDecimal value

structure Tally where
  matchedRuleIds : List String
  failedRuleIds : List String
  missingRuleIds : List String
  records : List RuleEvidence
  totalScore : Decimal
  missingScore : Decimal

def Tally.empty : Tally := ⟨[],[],[],[],⟨false,0,0⟩,⟨false,0,0⟩⟩

-- What the outcome of a rule does to the ids and scores, and the status it is recorded with.
def Tally.judge (t : Tally) (rule : Rule) (outcome : EvidenceValue) : Except PyError (Tally × EvidenceStatus) :=
  if outcome.isMissing then do
    let missingScore ← addScores t.missingScore rule.weight
    pure ({t with missingRuleIds := t.missingRuleIds ++ [rule.ruleId],missingScore := missingScore},.missing)
  else match outcome.kind,outcome.value with
    | .boolean,.boolean true => do
      let totalScore ← addScores t.totalScore rule.weight
      pure ({t with matchedRuleIds := t.matchedRuleIds ++ [rule.ruleId],totalScore := totalScore},.matched)
    | .boolean,_ => pure ({t with failedRuleIds := t.failedRuleIds ++ [rule.ruleId]},.failed)
    | _,_ => raise .ruleEvaluationError "parsed rule did not produce a Boolean outcome"

def evaluateRules (values : List (String × EvidenceValue)) (evaluatedAt : AwareDatetime) :
    List Rule → Int → Tally → Except PyError Tally
  | [],_,t => .ok t
  | rule :: rest,remaining,t => do
    let (outcome,s) ← evaluateExpression values rule.expression ⟨remaining,[],[]⟩
    let (t,status) ← t.judge rule outcome
    let record ← RuleEvidence.create ⟨rule.ruleId,status,s.operands,s.evaluatedPaths,evaluatedAt⟩
    evaluateRules values evaluatedAt rest s.remaining {t with records := t.records ++ [record]}

def validateRules : List Rule → Except PyError Unit
  | [] => .ok ()
  | rule :: rest => do
    validateExpressionAst rule.expression
    validateRules rest

-- What evaluate_ruleset asks of the rules themselves before it looks at the evidence.
def requireRuleset (rules : List Rule) : Except PyError Unit := do
  raiseIf (!decide (rules.map Rule.ruleId).Nodup) .ruleEvaluationError "rules must have unique ids"
  validateRules rules

def rulesetStatus (totalScore potentialScore threshold : Decimal) : RulesetStatus :=
  if threshold.toRat ≤ totalScore.toRat then .matched
  else if threshold.toRat ≤ potentialScore.toRat then .insufficient
  else .failed

def evaluateRuleset (rules : List Rule) (ruleInput : RuleInput) (threshold : Option Decimal)
    (evaluatedAt : AwareDatetime) : Except PyError RuleEvaluation := do
  let threshold ← requireScore threshold "threshold"
  requireRuleset rules
  let values ← prepareValues ruleInput.values
  let t ← evaluateRules values evaluatedAt rules MAX_EVALUATION_STEPS .empty
  let potentialScore ← addScores t.totalScore t.missingScore
  RuleEvaluation.create ⟨rulesetStatus t.totalScore potentialScore threshold,t.totalScore,threshold,
    t.matchedRuleIds,t.failedRuleIds,t.missingRuleIds,t.records,evaluatedAt⟩

end SwapMonitor.Rules
