import SwapMonitor.Domain.Readings
import SwapMonitor.Rules.DecimalContext
import Mathlib.Data.String.Basic

namespace SwapMonitor.Rules
open Arithmetic Clocks

def MAX_EXPRESSION_DEPTH : Nat := 16
def MAX_AST_NODES : Nat := 128
def MAX_RAW_TRANSPORT_DEPTH : Nat := 32
def MAX_RAW_TRANSPORT_NODES : Nat := 512
def MAX_RULESET_RULES : Nat := 512
def MAX_RULESET_AST_NODES : Nat := 512
def MAX_EVALUATION_STEPS : Nat := 512
def MAX_DECIMAL_COEFFICIENT_DIGITS : Nat := 256
def MAX_DECIMAL_ABSOLUTE_EXPONENT : Nat := 256
def MAX_DECIMAL_SERIALIZED_CHARACTERS : Nat := 512
def MAX_DSL_EXPRESSION_UTF8_BYTES : Nat := 128 * 1024
def MAX_DSL_RULESET_UTF8_BYTES : Nat := 128 * 1024
def MAX_RULE_INPUT_UTF8_BYTES : Nat := 128 * 1024
def MAX_RULE_EVALUATION_UTF8_BYTES : Nat := 128 * 1024

inductive EvidenceKind where
  | boolean | decimal | datetime | string | null
  deriving DecidableEq, Repr

def EvidenceKind.value : EvidenceKind → String
  | .boolean => "boolean"
  | .decimal => "decimal"
  | .datetime => "datetime"
  | .string => "string"
  | .null => "null"

-- _M0_M1_FIELD_KINDS, the one registry every schema is fixed to.
def FIELD_KINDS : List (String × EvidenceKind) := [
  ("source.last_price",.decimal),
  ("source.last_price_as_of",.datetime),
  ("source.same_time_volume_ratio",.decimal),
  ("source.session_vwap",.decimal),
  ("market.data_quality.bars_complete",.boolean),
  ("market.data_quality.confidence",.decimal),
  ("market.data_quality.source_timestamp",.datetime),
  ("market.data_quality.stale",.boolean),
  ("market.is_actionable",.boolean),
  ("market.provider",.string),
  ("market.snapshot_id",.string)]

def kindFor (path : String) : Except PyError EvidenceKind :=
  match FIELD_KINDS.lookup path with
  | some kind => .ok kind
  | none => raise .ruleSemanticError ("evidence path is not registered: " ++ path)

-- No registered field is a null.
theorem registered_kind {path : String} {kind : EvidenceKind} (registered : kindFor path = .ok kind) :
    kind ≠ .null := by
  have kinds : ∀ row ∈ FIELD_KINDS, row.2 ≠ .null := by decide
  unfold kindFor at registered
  cases found : FIELD_KINDS.lookup path with
  | none => simp [found,raise] at registered
  | some kind' =>
    simp only [found,Except.ok.injEq] at registered
    subst registered
    obtain ⟨before,after,listed,_⟩ := List.lookup_eq_some_iff.mp found
    exact kinds (path,kind') (by rw [listed]; simp)

-- An aware datetime: what its clock shows, and how far that clock is ahead of UTC.
structure AwareDatetime where
  shown : Int
  offset : Int
  inRange : Shown shown
  deriving DecidableEq

def AwareDatetime.instant (t : AwareDatetime) : Instant := t.shown - t.offset

-- value.astimezone(UTC)
def AwareDatetime.toUTC (t : AwareDatetime) : Except PyError AwareDatetime :=
  if inRange : Shown t.instant then .ok ⟨t.instant,0,inRange⟩ else .error outOfRange

-- Decimal | bool | datetime | str | None
inductive ScalarValue where
  | decimal (value : Decimal)
  | boolean (value : Bool)
  | datetime (value : AwareDatetime)
  | string (value : String)
  | null
  deriving DecidableEq

-- The kind whose values a scalar is one of.
def ScalarValue.kind : ScalarValue → EvidenceKind
  | .decimal _ => .decimal
  | .boolean _ => .boolean
  | .datetime _ => .datetime
  | .string _ => .string
  | .null => .null

-- _ALLOWED_OPERATORS
inductive Operator where
  | and | or | not | eq | ne | lt | lte | gt | gte | add | subtract | multiply | divide | isIn | exists | if
  deriving DecidableEq, Repr

def Operator.value : Operator → String
  | .and => "and"
  | .or => "or"
  | .not => "not"
  | .eq => "eq"
  | .ne => "ne"
  | .lt => "lt"
  | .lte => "lte"
  | .gt => "gt"
  | .gte => "gte"
  | .add => "add"
  | .subtract => "subtract"
  | .multiply => "multiply"
  | .divide => "divide"
  | .isIn => "in"
  | .exists => "exists"
  | .if => "if"

def Operator.all : List Operator :=
  [.and,.or,.not,.eq,.ne,.lt,.lte,.gt,.gte,.add,.subtract,.multiply,.divide,.isIn,.exists,.if]

def Operator.parse (value : String) : Option Operator := Operator.all.find? fun operator => operator.value == value

inductive Expression where
  | literal (kind : EvidenceKind) (value : ScalarValue)
  | path (name : String) (kind : EvidenceKind)
  | operation (operator : Operator) (operands : List Expression) (kind : EvidenceKind)

def Expression.kind : Expression → EvidenceKind
  | .literal kind _ => kind
  | .path _ kind => kind
  | .operation _ _ kind => kind

def Expression.operands : Expression → List Expression
  | .operation _ operands _ => operands
  | _ => []

mutual
-- The nodes of an expression, each before its operands.
def Expression.nodes : Expression → List Expression
  | .literal kind value => [.literal kind value]
  | .path name kind => [.path name kind]
  | .operation operator operands kind => .operation operator operands kind :: Expression.nodesOf operands

def Expression.nodesOf : List Expression → List Expression
  | [] => []
  | operand :: rest => operand.nodes ++ Expression.nodesOf rest
end

def Expression.size (e : Expression) : Nat := e.nodes.length

theorem nodes_of_flat (operands : List Expression) : Expression.nodesOf operands = operands.flatMap Expression.nodes := by
  induction operands with
  | nil => rfl
  | cons operand rest ih => rw [Expression.nodesOf,ih,List.flatMap_cons]

theorem expression_size (e : Expression) : e.size = 1 + (e.operands.map Expression.size).sum := by
  cases e with
  | literal kind value => rfl
  | path name kind => rfl
  | operation operator operands kind =>
    simp only [Expression.size,Expression.nodes,List.length_cons,nodes_of_flat,List.length_flatMap,
      Expression.operands]
    exact Nat.add_comm _ _

theorem node_self (e : Expression) : e ∈ e.nodes := by cases e <;> simp [Expression.nodes]

theorem node_operand {e operand node : Expression} (listed : operand ∈ e.operands) (below : node ∈ operand.nodes) :
    node ∈ e.nodes := by
  cases e with
  | literal kind value => cases listed
  | path name kind => cases listed
  | operation operator operands kind =>
    rw [Expression.nodes,nodes_of_flat]
    exact List.mem_cons_of_mem _ (List.mem_flatMap.mpr ⟨operand,listed,below⟩)

mutual
theorem Expression.tree {motive : Expression → Prop} (literal : ∀ kind value, motive (.literal kind value))
    (path : ∀ name kind, motive (.path name kind))
    (operation : ∀ operator operands kind, (∀ operand ∈ operands, motive operand) → motive (.operation operator operands kind)) :
    ∀ e, motive e
  | .literal kind value => literal kind value
  | .path name kind => path name kind
  | .operation operator operands kind => operation operator operands kind (Expression.trees literal path operation operands)

theorem Expression.trees {motive : Expression → Prop} (literal : ∀ kind value, motive (.literal kind value))
    (path : ∀ name kind, motive (.path name kind))
    (operation : ∀ operator operands kind, (∀ operand ∈ operands, motive operand) → motive (.operation operator operands kind)) :
    ∀ operands : List Expression, ∀ operand ∈ operands, motive operand
  | [],_,listed => by cases listed
  | first :: rest,operand,listed => by
    rcases List.mem_cons.mp listed with here | later
    · exact here ▸ Expression.tree literal path operation first
    · exact Expression.trees literal path operation rest operand later
end

mutual
-- How many levels an expression has.
def Expression.height : Expression → Nat
  | .operation _ operands _ => 1 + Expression.heights operands
  | _ => 1

def Expression.heights : List Expression → Nat
  | [] => 0
  | operand :: rest => max operand.height (Expression.heights rest)
end

theorem heights_bound (operands : List Expression) (n : Nat) :
    Expression.heights operands ≤ n ↔ ∀ operand ∈ operands, operand.height ≤ n := by
  induction operands with
  | nil => simp [Expression.heights]
  | cons operand rest ih => simp [Expression.heights,ih]

theorem height_positive (e : Expression) : 0 < e.height := by
  cases e <;> simp [Expression.height]

theorem expression_height (e : Expression) (n : Nat) : e.height ≤ n + 1 ↔ ∀ operand ∈ e.operands, operand.height ≤ n := by
  cases e with
  | literal kind value => simp [Expression.height,Expression.operands]
  | path name kind => simp [Expression.height,Expression.operands]
  | operation operator operands kind =>
    rw [Expression.operands,← heights_bound,Expression.height]
    omega

-- The nodes below, as the walk over the operands meets them, are the nodes of the expression.
theorem node_tree {motive : Expression → Prop} (e : Expression) :
    (∀ node ∈ e.nodes, motive node) ↔ motive e ∧ ∀ operand ∈ e.operands, ∀ node ∈ operand.nodes, motive node := by
  cases e with
  | literal kind value => simp [Expression.nodes,Expression.operands]
  | path name kind => simp [Expression.nodes,Expression.operands]
  | operation operator operands kind =>
    simp only [Expression.nodes,nodes_of_flat,List.forall_mem_cons,List.mem_flatMap,Expression.operands]
    constructor
    · intro held
      obtain ⟨self,rest⟩ := held
      exact ⟨self,fun operand listed node below => rest node ⟨operand,listed,below⟩⟩
    · intro held
      obtain ⟨self,rest⟩ := held
      refine ⟨self,?_⟩
      intro node held
      obtain ⟨operand,listed,below⟩ := held
      exact rest operand listed node below

-- require_rule_text and require_rule_identifier
def requireText (value boundary : String) (limitBytes : Nat) : Except PyError Unit :=
  raiseIf (decide (limitBytes < value.utf8ByteSize)) .ruleTextResourceLimitError
    ("rule text resource limit exceeded: boundary=" ++ boundary)

def requireRuleText (value boundary : String) : Except PyError Unit := requireText value boundary MAX_STRING_UTF8_BYTES

def requireRuleIdentifier (value boundary : String) : Except PyError Unit :=
  requireText value boundary MAX_IDENTIFIER_UTF8_BYTES

def requireRuleEvidenceText (value boundary : String) (identifier : Bool) : Except PyError Unit :=
  raiseIf (decide ((if identifier then MAX_IDENTIFIER_UTF8_BYTES else MAX_STRING_UTF8_BYTES) < value.utf8ByteSize))
    .ruleEvidenceResourceLimitError ("rule evidence resource limit exceeded: boundary=" ++ boundary)

def requireBoundedDecimal (d : Decimal) : Except PyError Unit := do
  raiseIf (decide (MAX_DECIMAL_COEFFICIENT_DIGITS < decimalDigits d)) .decimalResourceLimitError
    "Decimal coefficient exceeds the fixed digit limit"
  raiseIf (decide (MAX_DECIMAL_ABSOLUTE_EXPONENT < d.exponent.natAbs)) .decimalResourceLimitError
    "Decimal exponent exceeds the fixed magnitude limit"
  raiseIf (decide (MAX_DECIMAL_SERIALIZED_CHARACTERS < decimalSerializedCharacters d)) .decimalResourceLimitError
    "Decimal canonical form exceeds the fixed size limit"

-- The digits without their trailing zeros, written out in full where the number is whole.
def canonicalForm (d : Decimal) : Decimal :=
  if d.coefficient = 0 then ⟨false,0,0⟩
  else
    let stripped := stripZeros (decimalDigits d) d.coefficient
    let exponent : Int := d.exponent + stripped.2
    if 0 ≤ exponent then ⟨d.negative,stripped.1 * 10 ^ exponent.toNat,0⟩
    else ⟨d.negative,stripped.1,exponent⟩

-- canonical_decimal of the evidence and _canonical_decimal of the parser are one code.
def canonicalDecimal (d : Decimal) : Except PyError Decimal := do
  requireBoundedDecimal d
  pure (canonicalForm d)

-- str.strip()
def strip (value : String) : String :=
  String.ofList ((value.toList.dropWhile isSpace).reverse.dropWhile isSpace).reverse

theorem strip_sublist (value : String) : (strip value).toList.Sublist value.toList := by
  rw [strip,String.toList_ofList,← List.reverse_sublist,List.reverse_reverse]
  exact (List.dropWhile_sublist _).trans (List.reverse_sublist.mpr (List.dropWhile_sublist _))

theorem strip_shorter_text (value : String) : (strip value).utf8ByteSize ≤ value.utf8ByteSize := by
  have spelled : ∀ text : String, text.utf8ByteSize = String.utf8Len text.toList := by
    intro text
    rw [← String.utf8ByteSize_ofList,String.ofList_toList]
  rw [spelled,spelled]
  exact String.utf8Len_le_of_sublist (strip_sublist value)

-- Only spaces are stripped.
theorem strip_blank {value : String} (blanks : blank (strip value) = true) : blank value = true := by
  have trimmed : ∀ characters : List Char, (characters.dropWhile isSpace).all isSpace = true → characters.all isSpace = true := by
    intro characters
    induction characters with
    | nil => simp
    | cons c rest ih =>
      intro spaces
      by_cases space : isSpace c = true
      · simp only [List.dropWhile_cons,space,if_true] at spaces
        simp [space,ih spaces]
      · simp only [List.dropWhile_cons,space] at spaces
        exact spaces
  unfold blank strip at blanks
  rw [String.toList_ofList,List.all_reverse] at blanks
  have once := trimmed _ blanks
  rw [List.all_reverse] at once
  exact trimmed _ once

structure Rule where
  ruleId : String
  expression : Expression
  weight : Decimal

def Rule.create (fields : Rule) : Except PyError Rule := do
  raiseIf (blank fields.ruleId) .ruleSemanticError "rule id must be a non-blank string"
  requireRuleIdentifier fields.ruleId "rule id"
  requireBoundedDecimal fields.weight
  raiseIf (decide (fields.weight.toRat ≤ 0)) .ruleSemanticError "rule weight must be positive"
  raiseIf (decide (fields.expression.kind ≠ .boolean)) .ruleSemanticError "rule expression must evaluate to a Boolean"
  pure {fields with ruleId := strip fields.ruleId}

end SwapMonitor.Rules
