import SwapMonitor.Rules.Parser

namespace SwapMonitor.Rules

inductive EvidenceStatus where
  | matched | failed | missing
  deriving DecidableEq, Repr

def EvidenceStatus.value : EvidenceStatus → String
  | .matched => "matched"
  | .failed => "failed"
  | .missing => "missing"

inductive RulesetStatus where
  | matched | failed | insufficient
  deriving DecidableEq, Repr

def RulesetStatus.value : RulesetStatus → String
  | .matched => "matched"
  | .failed => "failed"
  | .insufficient => "insufficient"

structure EvidenceValue where
  kind : EvidenceKind
  value : ScalarValue
  isMissing : Bool
  deriving DecidableEq

-- _validate_value_type on a finite Decimal or an aware datetime.
def validateValueType (kind : EvidenceKind) (value : ScalarValue) : Except PyError Unit :=
  match kind,value with
  | .decimal,.decimal _ => .ok ()
  | .decimal,_ => raise .ruleEvaluationError "Decimal evidence must be a finite Decimal"
  | .boolean,.boolean _ => .ok ()
  | .boolean,_ => raise .ruleEvaluationError "Boolean evidence must be a Boolean"
  | .string,.string _ => .ok ()
  | .string,_ => raise .ruleEvaluationError "string evidence must be a string"
  | .datetime,.datetime _ => .ok ()
  | .datetime,_ => raise .ruleEvaluationError "datetime evidence must be a datetime"
  | .null,.null => .ok ()
  | .null,_ => raise .ruleEvaluationError "null evidence must be None"

-- What __post_init__ keeps of a value whose type is right.
def normalizeValue : ScalarValue → Except PyError ScalarValue
  | .string value => do
    requireRuleEvidenceText value "EvidenceValue string" false
    pure (.string value)
  | .decimal value => do
    let canonical ← canonicalDecimal value
    pure (.decimal canonical)
  | .datetime value => do
    let utc ← value.toUTC
    pure (.datetime utc)
  | value => .ok value

-- EvidenceValue(kind=kind, value=value)
def EvidenceValue.create (kind : EvidenceKind) (value : ScalarValue) : Except PyError EvidenceValue := do
  validateValueType kind value
  let normalized ← normalizeValue value
  pure ⟨kind,normalized,false⟩

def EvidenceValue.missing (kind : EvidenceKind) : Except PyError EvidenceValue := do
  raiseIf (decide (kind = .null)) .ruleEvaluationError "missing evidence requires a non-null type and no value"
  pure ⟨kind,.null,true⟩

structure EvaluatedPath where
  path : String
  value : EvidenceValue
  deriving DecidableEq

def EvaluatedPath.create (path : String) (value : EvidenceValue) : Except PyError EvaluatedPath := do
  raiseIf (decide (path = "")) .valueError "evaluated path must be a non-blank string"
  requireRuleEvidenceText path "evaluated path" true
  pure ⟨path,value⟩

structure RuleEvidence where
  ruleId : String
  status : EvidenceStatus
  operands : List EvidenceValue
  evaluatedPaths : List EvaluatedPath
  evaluatedAt : AwareDatetime
  deriving DecidableEq

def RuleEvidence.create (record : RuleEvidence) : Except PyError RuleEvidence := do
  raiseIf (blank record.ruleId) .valueError "rule evidence id must be a non-blank string"
  requireRuleEvidenceText record.ruleId "rule evidence id" true
  pure {record with ruleId := strip record.ruleId}

def plainText (value : String) : Json := .str (.plain value)

def evidenceValuePayload (v : EvidenceValue) : Json :=
  let rendered : Json := if v.isMissing then .null else match v.value with
    | .decimal value => plainText value.str
    | .datetime value => plainText (isoformat value.instant)
    | .boolean value => .bool value
    | .string value => plainText value
    | .null => .null
  .obj [("is_missing",.bool v.isMissing),("kind",plainText v.kind.value),("value",rendered)]

mutual
-- The UTF-8 size of the canonical JSON of a payload.
def jsonBytes : Json → Nat
  | .null => 4
  | .bool value => if value then 4 else 5
  | .int value => (toString value).length
  | .str value => jsonTextBytes value
  | .arr items => 2 + (items.length - 1) + jsonItemsBytes items
  | .obj members => 2 + (members.length - 1) + jsonMembersBytes members

def jsonItemsBytes : List Json → Nat
  | [] => 0
  | item :: rest => jsonBytes item + jsonItemsBytes rest

def jsonMembersBytes : List (String × Json) → Nat
  | [] => 0
  | (key,value) :: rest => jsonStringBytes key + 1 + jsonBytes value + jsonMembersBytes rest
end

def requireEvidenceBytes (payload : Json) (limitBytes : Nat) (boundary : String) : Except PyError Unit :=
  raiseIf (decide (limitBytes < jsonBytes payload)) .ruleEvidenceResourceLimitError
    ("rule evidence resource limit exceeded: boundary=" ++ boundary)

structure RuleEvaluation where
  status : RulesetStatus
  totalScore : Decimal
  threshold : Decimal
  matchedRuleIds : List String
  failedRuleIds : List String
  missingRuleIds : List String
  ruleEvidence : List RuleEvidence
  evaluatedAt : AwareDatetime
  deriving DecidableEq

def recordPayload (record : RuleEvidence) : Except PyError Json := do
  let evaluatedAt ← EvidenceValue.create .datetime (.datetime record.evaluatedAt)
  pure (.obj [
    ("evaluated_at",evidenceValuePayload evaluatedAt),
    ("evaluated_paths",.arr (record.evaluatedPaths.map fun path =>
      .obj [("path",plainText path.path),("value",evidenceValuePayload path.value)])),
    ("operands",.arr (record.operands.map evidenceValuePayload)),
    ("rule_id",plainText record.ruleId),
    ("status",plainText record.status.value)])

def recordPayloads : List RuleEvidence → Except PyError (List Json)
  | [] => .ok []
  | record :: rest => do
    let first ← recordPayload record
    let others ← recordPayloads rest
    pure (first :: others)

-- _measure_rule_evaluation
def measureRuleEvaluation (e : RuleEvaluation) : Except PyError Unit := do
  let records ← recordPayloads e.ruleEvidence
  let threshold ← EvidenceValue.create .decimal (.decimal e.threshold)
  let totalScore ← EvidenceValue.create .decimal (.decimal e.totalScore)
  let ids := fun ids : List String => Json.arr (ids.map plainText)
  requireEvidenceBytes (.obj [
    ("failed_rule_ids",ids e.failedRuleIds),
    ("matched_rule_ids",ids e.matchedRuleIds),
    ("missing_rule_ids",ids e.missingRuleIds),
    ("rules",.arr records),
    ("status",plainText e.status.value),
    ("threshold",evidenceValuePayload threshold),
    ("total_score",evidenceValuePayload totalScore)]) MAX_RULE_EVALUATION_UTF8_BYTES "RuleEvaluation"

def requireIds : List String → Except PyError Unit
  | [] => .ok ()
  | ruleId :: rest => do
    requireRuleEvidenceText ruleId "RuleEvaluation rule id" true
    requireIds rest

def RuleEvaluation.create (fields : RuleEvaluation) : Except PyError RuleEvaluation := do
  raiseIf (decide (fields.totalScore.toRat < 0)) .ruleEvaluationError "total_score must not be negative"
  raiseIf (decide (fields.threshold.toRat < 0)) .ruleEvaluationError "threshold must not be negative"
  let totalScore ← canonicalDecimal fields.totalScore
  let threshold ← canonicalDecimal fields.threshold
  requireIds (fields.matchedRuleIds ++ fields.failedRuleIds ++ fields.missingRuleIds)
  let evaluation := {fields with totalScore := totalScore,threshold := threshold}
  measureRuleEvaluation evaluation
  pure evaluation

end SwapMonitor.Rules
