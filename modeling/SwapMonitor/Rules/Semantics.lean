import SwapMonitor.Rules.Engine

namespace SwapMonitor.Rules

-- What some evidence has for each path; nothing for one that is absent.
abbrev Reading := String → Option ScalarValue

-- An input has for a path what the evidence keeps of its value.
def RuleInput.reading (input : RuleInput) : Reading := fun name =>
  (input.values.lookup name).bind fun value => (normalizeValue value).toOption

-- The place of a number or of a time in its order.
def ScalarValue.place : ScalarValue → ℚ
  | .decimal value => value.toRat
  | .datetime value => value.instant
  | _ => 0

def ScalarValue.text : ScalarValue → String
  | .string value => value
  | _ => ""

def ScalarValue.number : ScalarValue → Decimal
  | .decimal value => value
  | _ => ⟨false,0,0⟩

-- A number as it is kept, once by the operator and once by the evidence that holds it.
def keptNumber (result : Except PyError Decimal) : Option ScalarValue :=
  ((result >>= canonicalDecimal) >>= canonicalDecimal).toOption.map .decimal

-- The language: what an operator makes of operands that are all known. There is no result where
-- the numbers leave their limits and where a divisor is zero.
def Operator.denotes (operator : Operator) (operands : List ScalarValue) : Option ScalarValue :=
  match operator,operands with
  | .and,operands => some (.boolean (operands.all fun operand => decide (operand = .boolean true)))
  | .or,operands => some (.boolean (operands.any fun operand => decide (operand = .boolean true)))
  | .not,[operand] => some (.boolean (decide (operand ≠ .boolean true)))
  | .eq,[left,right] => some (.boolean (sameScalar left right))
  | .ne,[left,right] => some (.boolean (!sameScalar left right))
  | .lt,[left,right] => some (.boolean (decide (left.place < right.place)))
  | .lte,[left,right] => some (.boolean (decide (left.place ≤ right.place)))
  | .gt,[left,right] => some (.boolean (decide (right.place < left.place)))
  | .gte,[left,right] => some (.boolean (decide (right.place ≤ left.place)))
  | .isIn,[left,right] => some (.boolean (decide (left.text.toList <:+: right.text.toList)))
  | .add,operands => keptNumber (sumDecimals ⟨false,0,0⟩ (operands.map ScalarValue.number))
  | .subtract,[left,right] => keptNumber (left.number.subtract right.number)
  | .multiply,operands => keptNumber (productDecimals ⟨false,1,0⟩ (operands.map ScalarValue.number))
  | .divide,[left,right] =>
    if right.number.coefficient = 0 then none else keptNumber (left.number.divide right.number)
  | _,_ => none

-- Any operator but if and exists is missing when an operand is.
def Operator.answers (operator : Operator) (results : List (Option ScalarValue)) : Option (Option ScalarValue) :=
  if results.all Option.isSome then (operator.denotes (results.filterMap id)).map some else some none

section Expressions
variable (reading : Reading)

mutual
-- The answer of an expression under a reading: a value or, where that is missing, nothing. There is
-- no answer where an operator has none and where an if of the NULL kind does not know its condition.
def answers : Expression → Option (Option ScalarValue)
  | .literal _ value => (normalizeValue value).toOption.map some
  | .path name _ => some (reading name)
  | .operation .if (condition :: yes :: no :: _) kind =>
    match answers condition with
    | none => none
    | some none => if kind = .null then none else some none
    | some (some truth) => if truth = .boolean true then answers yes else answers no
  | .operation .if _ _ => none
  | .operation .exists operands _ =>
    (answersAll operands).map fun results => some (.boolean (results.all Option.isSome))
  | .operation operator operands _ => (answersAll operands).bind operator.answers

def answersAll : List Expression → Option (List (Option ScalarValue))
  | [] => some []
  | operand :: rest =>
    match answers operand with
    | none => none
    | some first => (answersAll rest).map fun others => first :: others
end

-- Reading an expression in order comes to an if of the NULL kind whose condition is missing.
inductive MeetsNullIf : Expression → Prop where
  | here : answers reading condition = some none → MeetsNullIf (.operation .if (condition :: yes :: no :: more) .null)
  | condition : MeetsNullIf condition → MeetsNullIf (.operation .if (condition :: yes :: no :: more) kind)
  | yes : answers reading condition = some (some (.boolean true)) → MeetsNullIf yes →
      MeetsNullIf (.operation .if (condition :: yes :: no :: more) kind)
  | no : answers reading condition = some (some (.boolean false)) → MeetsNullIf no →
      MeetsNullIf (.operation .if (condition :: yes :: no :: more) kind)
  | operand : operator ≠ .if → (answersAll reading earlier).isSome → MeetsNullIf operand →
      MeetsNullIf (.operation operator (earlier ++ operand :: later) kind)

-- What a rule counts as under a reading.
def verdict (rule : Rule) : Option EvidenceStatus :=
  (answers reading rule.expression).map fun said => match said with
    | none => .missing
    | some value => if value = .boolean true then .matched else .failed

def verdictIs (status : EvidenceStatus) (rule : Rule) : Bool := decide (verdict reading rule = some status)

end Expressions

-- The weights of some rules added to a score one after the other.
def addWeights (score : Decimal) : List Rule → Except PyError Decimal
  | [] => .ok score
  | rule :: rest => do
    let sum ← addScores score rule.weight
    addWeights sum rest

-- Some rules all have an answer, and the weights of the matched and of the missing ones add up
-- within the limits on numbers.
structure Passed (reading : Reading) (rules : List Rule) (matched missing : Decimal) : Prop where
  answered : ∀ rule ∈ rules, (verdict reading rule).isSome
  matched : addWeights ⟨false,0,0⟩ (rules.filter (verdictIs reading .matched)) = .ok matched
  missing : addWeights ⟨false,0,0⟩ (rules.filter (verdictIs reading .missing)) = .ok missing

end SwapMonitor.Rules
