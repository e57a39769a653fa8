import SwapMonitor.Rules.Acceptance
import SwapMonitor.Rules.Canonical
import SwapMonitor.Rules.Engine
import SwapMonitor.Rules.Typing

namespace SwapMonitor.Rules
open Arithmetic Traversal

-- No number of an expression has more than 256 digits before its decimal point.
def SmallNumbers (raw : RawJson) : Prop :=
  ∀ d, .decimal d ∈ raw.scalars → |d.toRat| < (10 : ℚ) ^ MAX_DECIMAL_COEFFICIENT_DIGITS

-- The evaluation-time validator finds at every node the kind the parser gave it.
def SameKinds (e : Expression) : Prop := ∀ node ∈ e.nodes, match node with
  | .literal kind value => value.kind = kind
  | .path name kind => kindFor name = .ok kind
  | .operation operator operands kind => validateOperator operator operands = .ok kind

def LiteralsBuilt (e : Expression) : Prop :=
  ∀ kind value, .literal kind value ∈ e.nodes → ∃ built, EvidenceValue.create kind value = .ok built

section Validation
variable {e : Expression} {raw : RawJson}

theorem ast_clean (e : Expression) : astWalk.Clean e ↔ ∀ node ∈ e.nodes, validatePublicNode node = .ok () := by
  induction e using Expression.tree with
  | literal kind value =>
    rw [clean_exact,show astWalk.children (.literal kind value) = [] from rfl]
    simp [Expression.nodes,astWalk]
  | path name kind =>
    rw [clean_exact,show astWalk.children (.path name kind) = [] from rfl]
    simp [Expression.nodes,astWalk]
  | operation operator operands kind ih =>
    rw [clean_exact,node_tree,show astWalk.children (.operation operator operands kind) = operands from rfl]
    refine and_congr Iff.rfl ?_
    exact forall_congr' fun operand => forall_congr' fun listed => ih operand listed

theorem operations_valid (nodes : List Expression) : validateOperations nodes = .ok () ↔
    ∀ operator operands kind, .operation operator operands kind ∈ nodes → validateOperator operator operands = .ok kind := by
  induction nodes with
  | nil => simp [validateOperations]
  | cons node rest ih =>
    cases node with
    | operation operator operands kind =>
      simp only [validateOperations,bind_ok,raiseIf_ok,exists_const,decide_eq_false_iff_not,not_not,ih,List.mem_cons]
      constructor
      · rintro ⟨found,checked,rfl,later⟩ operator' operands' kind' (here | there)
        · cases here
          exact checked
        · exact later _ _ _ there
      · intro all
        exact ⟨kind,all _ _ _ (.inl rfl),rfl,fun _ _ _ there => all _ _ _ (.inr there)⟩
    | _ => simp [validateOperations,ih]

theorem kinds_typed (typed : WellTyped e) : SameKinds e := by
  intro node below
  cases typed_nodes typed node below with
  | literal kinds _ => exact kinds
  | path registered => exact registered
  | operation _ checked => exact checked

theorem operations_typed (typed : WellTyped e) : validateOperations e.nodes.reverse = .ok () := by
  rw [operations_valid]
  intro operator operands kind below
  cases typed_nodes typed _ (List.mem_reverse.mp below) with
  | operation _ checked => exact checked

-- On a typed expression within the fixed limits only the numbers are left to look at.
theorem valid_exact (parsed : Parsed raw 1 0 e e.size) : validateExpressionAst e = .ok () ↔
    ∀ d, .decimal d ∈ e.literals → requireBoundedDecimal d = .ok () := by
  have typed := typed_nodes parsed.typed
  simp only [validateExpressionAst,bind_ok,operations_typed parsed.typed,and_true]
  have counted := fun n => count_exact (w := astWalk) expression_size height_positive expression_height e n
  have clean : (∃ n, astWalk.count e = .ok n) ↔ astWalk.Clean e := by
    constructor
    · intro held
      obtain ⟨n,found⟩ := held
      exact ((counted n).mp found).2.2.2
    · intro clean
      have within := parsed.within
      have shallow := parsed.shallow
      refine ⟨e.size,(counted _).mpr ⟨rfl,within,?_,clean⟩⟩
      change e.height ≤ MAX_EXPRESSION_DEPTH
      omega
  rw [clean,ast_clean]
  constructor
  · intro public' d listed
    obtain ⟨node,below,same⟩ := List.mem_filterMap.mp listed
    cases node with
    | literal kind value =>
      cases same
      have kinds : kind = .decimal := by
        cases typed _ below with
        | literal kinds _ => exact kinds.symm
      subst kinds
      exact public' _ below
    | _ => cases same
  · intro bounded node below
    cases typed node below with
    | @literal kind value kinds _ =>
      cases value with
      | decimal d =>
        cases kinds
        exact bounded d (literal_node below)
      | _ => cases kinds; rfl
    | path registered => simp [validatePublicNode,bind_ok,registered]
    | operation _ _ => rfl

theorem literals_small (parsed : Parsed raw 1 0 e e.size) :
    (∀ d, .decimal d ∈ e.literals → requireBoundedDecimal d = .ok ()) ↔ SmallNumbers raw := by
  rw [parsed.literals]
  constructor
  · intro bounded d spelled
    rw [← canonical_bounded (parsed.bounded d spelled)]
    exact bounded _ (List.mem_map.mpr ⟨_,spelled,rfl⟩)
  · intro small d listed
    obtain ⟨scalar,spelled,same⟩ := List.mem_map.mp listed
    cases scalar with
    | decimal value =>
      cases same
      exact (canonical_bounded (parsed.bounded value spelled)).mpr (small value spelled)
    | _ => cases same

theorem value_built {kind : EvidenceKind} {value : ScalarValue} (kinds : value.kind = kind)
    (timeless : ∀ t, value ≠ .datetime t) : (∃ built, EvidenceValue.create kind value = .ok built) ↔
      (∀ d, value = .decimal d → requireBoundedDecimal d = .ok ()) ∧
        ∀ text, value = .string text → text.utf8ByteSize ≤ MAX_STRING_UTF8_BYTES := by
  subst kinds
  cases value with
  | decimal d =>
    simp only [EvidenceValue.create,validateValueType,normalizeValue,bind_ok,pure_ok,canonical_exact,ScalarValue.kind]
    simp
  | string text =>
    simp only [EvidenceValue.create,validateValueType,normalizeValue,bind_ok,pure_ok,ScalarValue.kind,
      requireRuleEvidenceText,raiseIf_ok]
    simp
  | datetime t => exact absurd rfl (timeless t)
  | boolean b => simp [EvidenceValue.create,validateValueType,normalizeValue,bind_ok,ScalarValue.kind]
  | null => simp [EvidenceValue.create,validateValueType,normalizeValue,bind_ok,ScalarValue.kind]

theorem literals_built (parsed : Parsed raw 1 0 e e.size) (clean : rawWalk.Clean raw) :
    LiteralsBuilt e ↔ ∀ d, .decimal d ∈ e.literals → requireBoundedDecimal d = .ok () := by
  have typed := typed_nodes parsed.typed
  have spelled : ∀ value ∈ e.literals, ∃ scalar ∈ raw.scalars, canonicalScalar scalar = value := by
    intro value listed
    rw [parsed.literals] at listed
    exact List.mem_map.mp listed
  have timeless : ∀ value ∈ e.literals, ∀ t, value ≠ .datetime t := by
    intro value listed t same
    obtain ⟨scalar,there,canonical⟩ := spelled value listed
    have spelledTime : .datetime t ∈ raw.scalars := by
      subst same
      cases scalar <;> cases canonical
      exact there
    exact absurd spelledTime (no_times raw t)
  constructor
  · intro built d listed
    obtain ⟨node,below,same⟩ := List.mem_filterMap.mp listed
    cases node with
    | literal kind value =>
      cases same
      cases typed _ below with
      | literal kinds _ =>
        exact ((value_built kinds (by simp)).mp (built _ _ below)).1 d rfl
    | _ => cases same
  · intro bounded kind value below
    cases typed _ below with
    | literal kinds _ =>
      have listed := literal_node below
      refine (value_built kinds (timeless _ listed)).mpr ⟨?_,?_⟩
      · intro d same
        exact bounded d (same ▸ listed)
      · intro text same
        obtain ⟨scalar,there,canonical⟩ := spelled _ listed
        subst same
        cases scalar <;> cases canonical
        exact strings_clean clean text there

theorem expression_agreed (parsed : parseExpression raw = .ok e) :
    (validateExpressionAst e = .ok () ↔ SmallNumbers raw) ∧ SameKinds e ∧ (LiteralsBuilt e ↔ SmallNumbers raw) := by
  have right := expression_parsed parsed
  have clean := ((transport_exact raw).mp (expression_transport parsed)).2.2.1
  refine ⟨?_,kinds_typed right.typed,?_⟩
  · rw [valid_exact right,literals_small right]
  · rw [literals_built right clean,literals_small right]

end Validation

section Rulesets
variable {raws : List RawJson} {rules : List Rule}

-- What is known of a rule the parser returned.
structure Built (raw : RawJson) (rule : Rule) : Prop where
  expressed : ∃ members rawExpression, raw = .obj members ∧ members.lookup "expression" = some rawExpression ∧
    parseExpression rawExpression = .ok rule.expression
  decision : rule.expression.kind = .boolean
  weight : requireBoundedDecimal rule.weight = .ok () ∧ 0 < rule.weight.toRat
  canonical : ∃ d, requireBoundedDecimal d = .ok () ∧ canonicalForm d = rule.weight
  named : blank rule.ruleId = false ∧ rule.ruleId.utf8ByteSize ≤ MAX_IDENTIFIER_UTF8_BYTES

structure ParsedRules (raws : List RawJson) (rules : List Rule) : Prop where
  each : List.Forall₂ Built raws rules
  distinct : (rules.map Rule.ruleId).Nodup
  small : (rules.map fun rule => rule.expression.size).sum ≤ MAX_RULESET_AST_NODES

theorem each_built {total : Nat} (parsed : parseEach raws total = .ok rules) (within : total ≤ MAX_RULESET_AST_NODES) :
    List.Forall₂ (fun raw rule => parseRule raw = .ok rule) raws rules ∧
      total + (rules.map fun rule => rule.expression.size).sum ≤ MAX_RULESET_AST_NODES := by
  induction raws generalizing total rules with
  | nil =>
    cases parsed
    exact ⟨.nil,by simpa using within⟩
  | cons raw rest ih =>
    simp only [parseEach,bind_ok,raiseIf_ok,exists_const,pure_ok,decide_eq_false_iff_not,Nat.not_lt] at parsed
    obtain ⟨rule,one,enough,others,more,rfl⟩ := parsed
    obtain ⟨each,small⟩ := ih more enough
    have counted : countExpressionAstNodes rule.expression = rule.expression.size := by
      unfold countExpressionAstNodes at enough ⊢
      omega
    rw [counted] at small
    refine ⟨.cons one each,?_⟩
    simp only [List.map_cons,List.sum_cons]
    omega

theorem rule_built {raw : RawJson} {rule : Rule} (accepted : parseRule raw = .ok rule) : Built raw rule := by
  obtain ⟨members,shape,⟨spelled⟩⟩ := rule_spelled accepted
  have created := spelled.created
  simp only [Rule.create,check_ok,raiseIf_ok,pure_ok,requireRuleIdentifier,text_exact,decide_eq_false_iff_not,
    not_not,not_le] at created
  obtain ⟨named,short,bounded,positive,decision,same⟩ := created
  have read : ∃ label, decimalFromJsonNumber ((members.lookup "weight").getD (.int 1)) label = .ok spelled.weight := by
    have weighed := spelled.weighed
    generalize (members.lookup "weight").getD (.int 1) = raw at weighed
    cases raw with
    | int value => exact ⟨_,weighed⟩
    | float value => exact ⟨_,weighed⟩
    | _ => simp [ruleWeight] at weighed
  obtain ⟨_,read⟩ := read
  obtain ⟨d,_,within,canonical⟩ := number_read read
  rw [← same]
  refine ⟨⟨members,_,shape,spelled.expressed,spelled.parsed⟩,decision,⟨bounded,positive⟩,⟨d,within,canonical⟩,?_,?_⟩
  · apply Bool.eq_false_iff.mpr
    intro blanks
    rw [strip_blank blanks] at named
    cases named
  · exact (strip_shorter_text _).trans short

theorem rules_built (parsed : parseRules raws = .ok rules) : ParsedRules raws rules := by
  simp only [parseRules,bind_ok,raiseIf_ok,exists_const,pure_ok] at parsed
  obtain ⟨_,_,_,_,_,rules,each,distinct,rfl⟩ := parsed
  obtain ⟨each,small⟩ := each_built each (Nat.zero_le _)
  refine ⟨each.imp fun _ _ accepted => rule_built accepted,by simpa using distinct,by simpa using small⟩

theorem rules_valid (rules : List Rule) :
    validateRules rules = .ok () ↔ ∀ rule ∈ rules, validateExpressionAst rule.expression = .ok () := by
  induction rules with
  | nil => simp [validateRules]
  | cons rule rest ih => simp [validateRules,check_ok,ih]

-- The evaluator takes the rules, and every literal in them, whatever evidence it is met with and
-- whenever it is met within the budget.
structure AcceptedByEvaluator (rules : List Rule) : Prop where
  ruleset : requireRuleset rules = .ok ()
  literals : ∀ rule ∈ rules, ∀ kind value, .literal kind value ∈ rule.expression.nodes → ∀ values s, 0 < s.remaining →
    ∃ result, evaluateExpression values (.literal kind value) s = .ok result

theorem literal_evaluated {kind : EvidenceKind} {value : ScalarValue} {values : List (String × EvidenceValue)}
    {s : Evaluation} (left : 0 < s.remaining) :
    (∃ result, evaluateExpression values (.literal kind value) s = .ok result) ↔
      ∃ built, EvidenceValue.create kind value = .ok built := by
  have consumed : s.consume = .ok {s with remaining := s.remaining - 1} := by
    simp only [Evaluation.consume,check_ok,raiseIf_ok,pure_ok,decide_eq_false_iff_not,and_true]
    omega
  simp only [evaluateExpression,bind_ok,consumed,Except.ok.injEq,exists_eq_left',pure_ok]
  constructor
  · intro held
    obtain ⟨_,built,created,_⟩ := held
    exact ⟨built,created⟩
  · intro held
    obtain ⟨built,created⟩ := held
    exact ⟨_,built,created,rfl⟩

theorem rules_accepted (rules : List Rule) (distinct : (rules.map Rule.ruleId).Nodup) : AcceptedByEvaluator rules ↔
    ∀ rule ∈ rules, validateExpressionAst rule.expression = .ok () ∧ LiteralsBuilt rule.expression := by
  have required : requireRuleset rules = .ok () ↔ ∀ rule ∈ rules, validateExpressionAst rule.expression = .ok () := by
    rw [← rules_valid]
    simp only [requireRuleset,check_ok,raiseIf_ok,distinct,decide_true,Bool.not_true,true_and]
  constructor
  · rintro ⟨ruleset,literals⟩ rule listed
    refine ⟨required.mp ruleset rule listed,?_⟩
    intro kind value below
    have left : 0 < (Evaluation.mk 1 [] []).remaining := by decide
    exact (literal_evaluated left).mp (literals rule listed kind value below [] _ left)
  · intro agreed
    refine ⟨required.mpr fun rule listed => (agreed rule listed).1,?_⟩
    intro rule listed kind value below values s left
    exact (literal_evaluated left).mpr ((agreed rule listed).2 kind value below)

-- Every number of the rules is small.
def SmallRules (raws : List RawJson) : Prop :=
  ∀ raw ∈ raws, ∀ members expression, raw = .obj members → members.lookup "expression" = some expression →
    SmallNumbers expression

theorem parsed_agreed (parsed : parseRules raws = .ok rules) : AcceptedByEvaluator rules ↔ SmallRules raws := by
  have built := rules_built parsed
  rw [rules_accepted rules built.distinct]
  have each := built.each
  clear parsed built
  induction each with
  | nil => simp [SmallRules]
  | @cons raw rule raws rules one _ ih =>
    obtain ⟨members,rawExpression,rfl,expressed,parsed⟩ := one.expressed
    obtain ⟨valid,_,literals⟩ := expression_agreed parsed
    have head : (validateExpressionAst rule.expression = .ok () ∧ LiteralsBuilt rule.expression) ↔
        ∀ members' expression, RawJson.obj members = .obj members' → members'.lookup "expression" = some expression →
          SmallNumbers expression := by
      rw [valid,literals,and_self]
      constructor
      · intro small members' expression same found
        cases same
        rw [expressed,Option.some.injEq] at found
        exact found ▸ small
      · exact fun all => all members rawExpression rfl expressed
    unfold SmallRules at ih ⊢
    rw [List.forall_mem_cons,List.forall_mem_cons]
    exact and_congr head ih

-- What the parser accepts the evaluator accepts, unless a number has more than 256 digits before
-- its decimal point.
theorem parsed_accepted {raw : RawJson} {e : Expression} {raws : List RawJson} {rules : List Rule}
    (parsed : parseExpression raw = .ok e) (listed : parseRules raws = .ok rules) :
    (validateExpressionAst e = .ok () ∧ SameKinds e ∧ LiteralsBuilt e ↔ SmallNumbers raw) ∧
    (AcceptedByEvaluator rules ↔ SmallRules raws) := by
  refine ⟨?_,parsed_agreed listed⟩
  obtain ⟨valid,kinds,literals⟩ := expression_agreed parsed
  rw [valid,literals]
  exact ⟨fun both => both.1,fun small => ⟨small,kinds,small⟩⟩

end Rulesets

section Large

-- {"gt": [1e+256, 0]}
def largeNumber : RawJson := .obj [("gt",.arr [.float ⟨some ⟨false,1,256⟩,6⟩,.int 0])]

def largeRule : RawJson := .obj [("id",.str "large"),("expression",largeNumber)]

def largeExpression : Expression :=
  .operation .gt [.literal .decimal (.decimal ⟨false,10 ^ 256,0⟩),.literal .decimal (.decimal ⟨false,0,0⟩)] .boolean

def shortNumber : RawJson := .obj [("gt",.arr [.int 1,.int 0])]

def shortExpression : Expression :=
  .operation .gt [.literal .decimal (.decimal ⟨false,1,0⟩),.literal .decimal (.decimal ⟨false,0,0⟩)] .boolean

def shortRule : RawJson := .obj [("id",.str "short"),("expression",shortNumber)]

theorem short_parsed : parseExpression shortNumber = .ok shortExpression := by with_unfolding_all rfl

theorem short_rules : parseRules [shortRule] = .ok [⟨"short",shortExpression,⟨false,1,0⟩⟩] := by with_unfolding_all rfl

theorem short_accepted :
    (validateExpressionAst shortExpression = .ok () ∧ SameKinds shortExpression ∧ LiteralsBuilt shortExpression ↔
      SmallNumbers shortNumber) ∧
    (AcceptedByEvaluator [⟨"short",shortExpression,⟨false,1,0⟩⟩] ↔ SmallRules [shortRule]) :=
  parsed_accepted short_parsed short_rules

-- The parser takes the number and writes it out, the evaluator finds 257 digits.
set_option maxRecDepth 4000 in
theorem large_refused : parseExpression largeNumber = .ok largeExpression ∧
    validateExpressionAst largeExpression =
      .error ⟨.decimalResourceLimitError,"Decimal coefficient exceeds the fixed digit limit"⟩ ∧
    parseRules [largeRule] = .ok [⟨"large",largeExpression,⟨false,1,0⟩⟩] ∧
    requireRuleset [⟨"large",largeExpression,⟨false,1,0⟩⟩] =
      .error ⟨.decimalResourceLimitError,"Decimal coefficient exceeds the fixed digit limit"⟩ := by
  refine ⟨?_,?_,?_,?_⟩ <;> with_unfolding_all rfl

end Large
end SwapMonitor.Rules
