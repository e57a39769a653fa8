import SwapMonitor.Rules.Schema
import SwapMonitor.Traversal.BoundedWalk

namespace SwapMonitor.Rules
open Arithmetic Traversal

-- Of a float the code reads its repr: the Decimal it spells, none for an infinity or a NaN,
-- and how long it is.
structure JsonFloat where
  finite : Option Decimal
  reprBytes : Nat
  deriving DecidableEq

inductive RawJson where
  | null
  | bool (value : Bool)
  | int (value : Int)
  | float (value : JsonFloat)
  | str (value : String)
  | arr (items : List RawJson)
  | obj (members : List (String × RawJson))

mutual
-- A JSON object has each of its keys once.
def RawJson.keyed : RawJson → Bool
  | .arr items => RawJson.keyedItems items
  | .obj members => decide (members.map Prod.fst).Nodup && RawJson.keyedMembers members
  | _ => true

def RawJson.keyedItems : List RawJson → Bool
  | [] => true
  | item :: rest => item.keyed && RawJson.keyedItems rest

def RawJson.keyedMembers : List (String × RawJson) → Bool
  | [] => true
  | (_,value) :: rest => value.keyed && RawJson.keyedMembers rest
end

structure JsonValue where
  raw : RawJson
  keyed : raw.keyed = true

def RawJson.children : RawJson → List RawJson
  | .arr items => items
  | .obj members => members.map Prod.snd
  | _ => []

def requireKeys : List (String × RawJson) → Except PyError Unit
  | [] => .ok ()
  | (key,_) :: rest => do
    requireRuleText key "object key"
    requireKeys rest

def RawJson.visit : RawJson → Except PyError Unit
  | .obj members => requireKeys members.reverse
  | .str value => requireRuleText value "literal"
  | _ => .ok ()

def rawWalk : Walk RawJson PyError where
  children := RawJson.children
  visit := RawJson.visit
  depthLimit := MAX_RAW_TRANSPORT_DEPTH
  nodeLimit := MAX_RAW_TRANSPORT_NODES
  eager := true
  tooDeep := ⟨.ruleSafetyError,"raw transport depth exceeds 32"⟩
  tooMany := ⟨.ruleSafetyError,"raw transport node count exceeds 512"⟩

def preflightRawTransport (raw : RawJson) : Except PyError Nat := rawWalk.count raw

def preflightRawExpression (raw : RawJson) : Except PyError Nat := preflightRawTransport raw

def MAX_STR_DIGITS : Nat := 4300

mutual
-- What the strict JSON encoder takes: no infinity, no NaN, no number too long to print.
def RawJson.compatible : RawJson → Bool
  | .int value => decide (digitCount value.natAbs ≤ MAX_STR_DIGITS)
  | .float value => value.finite.isSome
  | .arr items => RawJson.compatibleItems items
  | .obj members => RawJson.compatibleMembers members
  | _ => true

def RawJson.compatibleItems : List RawJson → Bool
  | [] => true
  | item :: rest => item.compatible && RawJson.compatibleItems rest

def RawJson.compatibleMembers : List (String × RawJson) → Bool
  | [] => true
  | (_,value) :: rest => value.compatible && RawJson.compatibleMembers rest
end

mutual
-- The UTF-8 size of the canonical JSON.
def RawJson.bytes : RawJson → Nat
  | .null => 4
  | .bool value => if value then 4 else 5
  | .int value => (toString value).length
  | .float value => value.reprBytes
  | .str value => jsonStringBytes value
  | .arr items => 2 + (items.length - 1) + RawJson.itemsBytes items
  | .obj members => 2 + (members.length - 1) + RawJson.membersBytes members

def RawJson.itemsBytes : List RawJson → Nat
  | [] => 0
  | item :: rest => item.bytes + RawJson.itemsBytes rest

def RawJson.membersBytes : List (String × RawJson) → Nat
  | [] => 0
  | (key,value) :: rest => jsonStringBytes key + 1 + value.bytes + RawJson.membersBytes rest
end

-- _measure_rule_text
def measureRuleText (value : RawJson) (limitBytes : Nat) (boundary : String) : Except PyError Nat := do
  raiseIf (!value.compatible) .ruleTransportError "rule transport must be JSON-compatible"
  raiseIf (decide (limitBytes < value.bytes)) .ruleTextResourceLimitError
    ("rule text resource limit exceeded: boundary=" ++ boundary)
  pure value.bytes

def identifierStart (c : Char) : Bool := c.isAlpha || c == '_'

def identifierSegment (segment : List Char) : Bool :=
  match segment with
  | [] => false
  | first :: rest => identifierStart first && rest.all fun c => identifierStart c || c.isDigit

-- The pattern of the transport schema, whose end also matches before a last line feed.
def matchesPath (value : String) : Bool :=
  let characters := match value.toList.reverse with
    | '\n' :: rest => rest.reverse
    | _ => value.toList
  match characters.splitOn '.' with
  | root :: segment :: rest =>
    String.ofList root ∈ ["source","candidate","market","run"] && (segment :: rest).all identifierSegment
  | _ => false

mutual
-- RULE_EXPRESSION_JSON_SCHEMA; an object is a path or has one allowed operator.
def validTransport : RawJson → Bool
  | .obj [(key,.str path)] => key == "var" && matchesPath path
  | .obj [(operator,.arr operands)] => (Operator.parse operator).isSome &&
      decide (1 ≤ operands.length ∧ operands.length ≤ 32) && validOperands operands
  | .obj _ => false
  | .arr _ => false
  | _ => true

def validOperands : List RawJson → Bool
  | [] => true
  | operand :: rest => validTransport operand && validOperands rest
end

def validateExpressionTransport (raw : RawJson) : Except PyError Unit := do
  let _ ← preflightRawExpression raw
  let _ ← measureRuleText raw MAX_DSL_EXPRESSION_UTF8_BYTES "expression"
  raiseIf (!validTransport raw) .ruleTransportError "rule expression fails JSON Schema transport validation"

-- _decimal_from_json_number
def decimalFromJsonNumber (raw : RawJson) (label : String) : Except PyError Decimal :=
  match raw with
  | .int value => do
    raiseIf (decide (MAX_STR_DIGITS < digitCount value.natAbs)) .ruleTransportError
      (label ++ " must be Decimal-compatible")
    canonicalDecimal (.ofSigned value 0)
  | .float value =>
    match value.finite with
    | some decimal => canonicalDecimal decimal
    | none => raise .ruleTransportError (label ++ " must be finite")
  | _ => raise .ruleTransportError (label ++ " must be Decimal-compatible")

mutual
def staticDecimal : Expression → Except PyError (Option Decimal)
  | .literal .decimal (.decimal value) => .ok (some value)
  | .literal .decimal _ => raise (.operationFailed "AssertionError") ""
  | .literal _ _ => .ok none
  | .path _ _ => .ok none
  | .operation operator operands kind =>
    if kind ≠ .decimal then .ok none
    else do
      let statics ← staticDecimals operands
      match statics with
      | none => pure none
      | some values => match operator,values with
        | .add,values => do
          let sum ← sumDecimals ⟨false,0,0⟩ values
          some <$> canonicalDecimal sum
        | .subtract,left :: right :: _ => do
          let difference ← left.subtract right
          some <$> canonicalDecimal difference
        | .multiply,values => do
          let product ← productDecimals ⟨false,1,0⟩ values
          some <$> canonicalDecimal product
        | .divide,left :: right :: _ =>
          if right.coefficient = 0 then pure none
          else do
            let quotient ← left.divide right
            some <$> canonicalDecimal quotient
        | _,_ => pure none

def staticDecimals : List Expression → Except PyError (Option (List Decimal))
  | [] => .ok (some [])
  | operand :: rest => do
    let first ← staticDecimal operand
    let others ← staticDecimals rest
    pure (match first,others with
      | some value,some values => some (value :: values)
      | _,_ => none)
end

def requireArity (operator : Operator) (operands : List Expression) (expected : Nat) : Except PyError Unit :=
  raiseIf (decide (operands.length ≠ expected)) .ruleSemanticError
    (operator.value ++ " requires exactly " ++ toString expected ++ " operands")

def requireMinimumArity (operator : Operator) (operands : List Expression) (minimum : Nat) : Except PyError Unit :=
  raiseIf (decide (operands.length < minimum)) .ruleSemanticError
    (operator.value ++ " requires at least " ++ toString minimum ++ " operands")

def requireAllKinds (operator : Operator) (operandKinds : List EvidenceKind) (expected : EvidenceKind) :
    Except PyError Unit :=
  raiseIf (operandKinds.any fun kind => decide (kind ≠ expected)) .ruleSemanticError
    (operator.value ++ " operands must all be " ++ expected.value)

-- A division whose divisor is known to be zero.
def requireDivisor (operands : List Expression) : Except PyError Unit :=
  match operands with
  | [_,divisor] => do
    let denominator ← staticDecimal divisor
    raiseIf (denominator.any fun d => decide (d.coefficient = 0)) .ruleSemanticError
      "divide denominator is statically zero"
  | _ => .ok ()

def requireSameKind (operator : Operator) (operandKinds : List EvidenceKind) : Except PyError Unit :=
  raiseIf (decide (operandKinds[0]? ≠ operandKinds[1]?)) .ruleSemanticError
    (operator.value ++ " operands must have the same type")

def requireOrdered (operator : Operator) (operandKinds : List EvidenceKind) : Except PyError Unit :=
  raiseIf (decide (operandKinds[0]? ≠ operandKinds[1]?) ||
      !decide (operandKinds[0]? = some .decimal ∨ operandKinds[0]? = some .datetime)) .ruleSemanticError
    (operator.value ++ " operands must both be Decimal or datetime")

def validateOperator (operator : Operator) (operands : List Expression) : Except PyError EvidenceKind :=
  let operandKinds := operands.map Expression.kind
  match operator with
  | .and | .or => do
    requireMinimumArity operator operands 1
    requireAllKinds operator operandKinds .boolean
    pure .boolean
  | .not => do
    requireArity operator operands 1
    requireAllKinds operator operandKinds .boolean
    pure .boolean
  | .eq | .ne => do
    requireArity operator operands 2
    requireSameKind operator operandKinds
    pure .boolean
  | .lt | .lte | .gt | .gte => do
    requireArity operator operands 2
    requireOrdered operator operandKinds
    pure .boolean
  | .add | .multiply => do
    requireMinimumArity operator operands 2
    requireAllKinds operator operandKinds .decimal
    pure .decimal
  | .subtract => do
    requireArity operator operands 2
    requireAllKinds operator operandKinds .decimal
    pure .decimal
  | .divide => do
    requireArity operator operands 2
    requireAllKinds operator operandKinds .decimal
    requireDivisor operands
    pure .decimal
  | .isIn => do
    requireArity operator operands 2
    requireAllKinds operator operandKinds .string
    pure .boolean
  | .exists => do
    requireArity operator operands 1
    pure .boolean
  | .if => do
    requireArity operator operands 3
    raiseIf (decide (operandKinds[0]? ≠ some .boolean)) .ruleSemanticError "if condition must be Boolean"
    raiseIf (decide (operandKinds[1]? ≠ operandKinds[2]?)) .ruleSemanticError "if branches must have the same type"
    pure (operandKinds[1]?.getD .null)

-- A node of a public AST on its own; its operator is looked at when all nodes were met.
def validatePublicNode : Expression → Except PyError Unit
  | .literal .decimal (.decimal value) => requireBoundedDecimal value
  | .literal .decimal _ => raise .ruleSemanticError "public Decimal literals must hold Decimal values"
  | .literal _ _ => .ok ()
  | .path name kind => do
    let expected ← kindFor name
    raiseIf (decide (kind ≠ expected)) .ruleSemanticError "public path expression kind does not match the registry"
  | .operation _ _ _ => .ok ()

def astWalk : Walk Expression PyError where
  children := Expression.operands
  visit := validatePublicNode
  depthLimit := MAX_EXPRESSION_DEPTH
  nodeLimit := MAX_AST_NODES
  eager := false
  tooDeep := ⟨.ruleSafetyError,"expression depth exceeds 16"⟩
  tooMany := ⟨.ruleSafetyError,"expression node count exceeds 128"⟩

def validateOperations : List Expression → Except PyError Unit
  | [] => .ok ()
  | .operation operator operands kind :: rest => do
    let resultKind ← validateOperator operator operands
    raiseIf (decide (kind ≠ resultKind)) .ruleSemanticError
      "public operation result kind does not match its operands"
    validateOperations rest
  | _ :: rest => validateOperations rest

-- The operations are checked last to first in the order in which the walk met them.
def validateExpressionAst (expression : Expression) : Except PyError Unit := do
  let _ ← astWalk.count expression
  validateOperations expression.nodes.reverse

-- _ParseBudget.consume_node
def consumeNode (depth nodes : Nat) : Except PyError Nat := do
  raiseIf (decide (MAX_EXPRESSION_DEPTH < depth)) .ruleSafetyError "expression depth exceeds 16"
  raiseIf (decide (MAX_AST_NODES < nodes + 1)) .ruleSafetyError "expression node count exceeds 128"
  pure (nodes + 1)

-- Why an object of one key is neither a path nor an operation.
def refusal (key : String) : String :=
  if key = "var" then "var path must be a string"
  else if (Operator.parse key).isNone then "operator is not allowed"
  else "operator operands must be a JSON array"

mutual
-- _parse_expression, with the count of the shared budget passed along.
def parseNode : RawJson → Nat → Nat → Except PyError (Expression × Nat)
  | .null,depth,nodes => do
    let nodes ← consumeNode depth nodes
    pure (.literal .null .null,nodes)
  | .bool value,depth,nodes => do
    let nodes ← consumeNode depth nodes
    pure (.literal .boolean (.boolean value),nodes)
  | .str value,depth,nodes => do
    let nodes ← consumeNode depth nodes
    pure (.literal .string (.string value),nodes)
  | .int value,depth,nodes => do
    let nodes ← consumeNode depth nodes
    let decimal ← decimalFromJsonNumber (.int value) "literal"
    pure (.literal .decimal (.decimal decimal),nodes)
  | .float value,depth,nodes => do
    let nodes ← consumeNode depth nodes
    let decimal ← decimalFromJsonNumber (.float value) "literal"
    pure (.literal .decimal (.decimal decimal),nodes)
  | .arr _,depth,nodes => do
    let _ ← consumeNode depth nodes
    raise .ruleTransportError "expressions must be JSON scalar values or objects"
  | .obj members,depth,nodes => do
    let nodes ← consumeNode depth nodes
    match members with
    | [(key,.str path)] =>
      if key = "var" then do
        let kind ← kindFor path
        pure (.path path kind,nodes)
      else raise .ruleTransportError (refusal key)
    | [(key,.arr operands)] =>
      match Operator.parse key with
      | none => raise .ruleTransportError (refusal key)
      | some operator => do
        raiseIf (!decide (1 ≤ operands.length ∧ operands.length ≤ 32)) .ruleTransportError
          "operator operands must contain between 1 and 32 values"
        let (parsed,nodes) ← parseOperands operands (depth + 1) nodes
        let kind ← validateOperator operator parsed
        pure (.operation operator parsed kind,nodes)
    | [(key,_)] => raise .ruleTransportError (refusal key)
    | _ => raise .ruleTransportError "operator objects must contain exactly one allowed operator"

def parseOperands : List RawJson → Nat → Nat → Except PyError (List Expression × Nat)
  | [],_,nodes => .ok ([],nodes)
  | operand :: rest,depth,nodes => do
    let (first,nodes) ← parseNode operand depth nodes
    let (others,nodes) ← parseOperands rest depth nodes
    pure (first :: others,nodes)
end

def parseExpression (raw : RawJson) : Except PyError Expression := do
  validateExpressionTransport raw
  let (expression,_) ← parseNode raw 1 0
  pure expression

def RULE_KEYS : List String := ["id","expression","weight"]

def ruleWeight : RawJson → Except PyError Decimal
  | .int value => decimalFromJsonNumber (.int value) "rule weight"
  | .float value => decimalFromJsonNumber (.float value) "rule weight"
  | _ => raise .ruleTransportError "rule weight must be a JSON number"

def parseRule (raw : RawJson) : Except PyError Rule :=
  match raw with
  | .obj members =>
    match members.lookup "id",members.lookup "expression" with
    | some rawId,some rawExpression => do
      raiseIf (members.any fun member => !decide (member.1 ∈ RULE_KEYS)) .ruleTransportError
        "rule must contain only id, expression, and optional weight"
      match rawId with
      | .str ruleId => do
        raiseIf (blank ruleId) .ruleTransportError "rule id must be a non-blank string"
        requireRuleIdentifier ruleId "rule id"
        let weight ← ruleWeight ((members.lookup "weight").getD (.int 1))
        raiseIf (decide (weight.toRat ≤ 0)) .ruleSemanticError "rule weight must be positive"
        let expression ← parseExpression rawExpression
        Rule.create ⟨ruleId,expression,weight⟩
      | _ => raise .ruleTransportError "rule id must be a non-blank string"
    | _,_ => raise .ruleTransportError "rule must contain only id, expression, and optional weight"
  | _ => raise .ruleTransportError "rule must be a JSON object"

-- _count_expression_ast_nodes stops one past the limit.
def countExpressionAstNodes (expression : Expression) : Nat := min expression.size (MAX_RULESET_AST_NODES + 1)

def parseEach : List RawJson → Nat → Except PyError (List Rule)
  | [],_ => .ok []
  | raw :: rest,totalNodes => do
    let rule ← parseRule raw
    let totalNodes := totalNodes + countExpressionAstNodes rule.expression
    raiseIf (decide (MAX_RULESET_AST_NODES < totalNodes)) .ruleSafetyError "ruleset AST node count exceeds 512"
    let others ← parseEach rest totalNodes
    pure (rule :: others)

def parseRules (rawRules : List RawJson) : Except PyError (List Rule) := do
  raiseIf (decide (MAX_RULESET_RULES < rawRules.length)) .ruleSafetyError "ruleset rule count exceeds 512"
  let _ ← preflightRawTransport (.arr rawRules)
  let _ ← measureRuleText (.arr rawRules) MAX_DSL_RULESET_UTF8_BYTES "ruleset"
  let rules ← parseEach rawRules 0
  raiseIf (!decide (rules.map Rule.ruleId).Nodup) .ruleSemanticError "rule ids must be unique"
  pure rules

end SwapMonitor.Rules
