import SwapMonitor.Rules.Decisions

namespace SwapMonitor.Rules
open Exceptions Traversal

variable {α β : Type}

-- The loop of _count_expression_ast_nodes, with the next node of the stack in front.
def countNodes : List Expression → Nat → Nat
  | [],nodeCount => nodeCount
  | node :: stack,nodeCount =>
    if MAX_RULESET_AST_NODES < nodeCount + 1 then nodeCount + 1 else countNodes (node.operands ++ stack) (nodeCount + 1)
  termination_by stack => (stack.map Expression.size).sum
  decreasing_by
    rw [List.map_append,List.sum_append,List.map_cons,List.sum_cons,expression_size node]
    omega

theorem nodes_counted (stack : List Expression) {nodeCount : Nat} (within : nodeCount ≤ MAX_RULESET_AST_NODES) :
    countNodes stack nodeCount = min (nodeCount + (stack.map Expression.size).sum) (MAX_RULESET_AST_NODES + 1) := by
  fun_induction countNodes stack nodeCount with
  | case1 nodeCount =>
    rw [List.map_nil,List.sum_nil]
    omega
  | case2 node stack nodeCount full =>
    rw [List.map_cons,List.sum_cons,expression_size node]
    omega
  | case3 node stack nodeCount room ih =>
    rw [ih (by omega),List.map_append,List.sum_append,List.map_cons,List.sum_cons,expression_size node]
    omega

theorem count_iterative (e : Expression) : countNodes [e] 0 = countExpressionAstNodes e := by
  rw [nodes_counted [e] (Nat.zero_le _),countExpressionAstNodes]
  simp

-- The counters of the parser and of the validator, where a parsed expression is counted.
structure CountedAlike (e : Expression) (counted : Nat) : Prop where
  size : counted = e.size
  iterative : countNodes [e] 0 = counted
  validated : ∀ n, astWalk.count e = .ok n → n = counted
  unlimited : ∀ error, astWalk.count e = .error error → ∃ node ∈ e.nodes, validatePublicNode node = .error error

theorem parsed_counted {raw : RawJson} {e : Expression} {counted : Nat} (parsed : parseNode raw 1 0 = .ok (e,counted)) :
    CountedAlike e counted := by
  have right := (parse_right raw).1 _ _ _ _ parsed
  have count := right.count
  have within := right.within
  have shallow := right.shallow
  rw [Nat.zero_add] at count
  subst count
  refine ⟨rfl,?_,fun n found => ((count_passes expression_size e n).mp found).1,?_⟩
  · rw [count_iterative,countExpressionAstNodes]
    unfold MAX_AST_NODES at within
    unfold MAX_RULESET_AST_NODES
    omega
  · intro error refused
    obtain ⟨node,k,below,stopped⟩ := count_refused expression_size height_positive expression_height within
      (show e.height ≤ MAX_EXPRESSION_DEPTH by omega) refused
    exact ⟨node,below_node below,stopped⟩

def Evaluation.more (s : Evaluation) (k : Nat) : Evaluation := {s with remaining := s.remaining + k}

-- At most n is spent on the way to a result, and a budget that is larger than n is not felt.
structure Spends (runs : Evaluation → Except PyError (α × Evaluation)) (n : Nat) : Prop where
  most : ∀ (s : Evaluation) value s', runs s = .ok (value,s') → s.remaining - n ≤ s'.remaining
  same : ∀ (s : Evaluation) (k : Nat), n ≤ s.remaining → runs (s.more k) = (runs s).map fun ran => (ran.1,ran.2.more k)

section Spending
variable {values : List (String × EvidenceValue)} {n m : Nat}

theorem spends_more {runs : Evaluation → Except PyError (α × Evaluation)} (spends : Spends runs n) (less : n ≤ m) : Spends runs m := by
  refine ⟨?_,fun s k enough => spends.same s k (by omega)⟩
  intro s value s' ran
  have most := spends.most s value s' ran
  omega

-- What does not look at the budget.
theorem spends_none {result : Except PyError β} {value : β → α} {after : β → Evaluation → Evaluation}
    (kept : ∀ v s, (after v s).remaining = s.remaining) (shifted : ∀ v s k, after v (s.more k) = (after v s).more k) :
    Spends (fun s => result >>= fun v => pure (value v,after v s)) 0 := by
  cases result with
  | error error => exact ⟨fun _ _ _ ran => (nomatch ran),fun _ _ _ => rfl⟩
  | ok v =>
    refine ⟨?_,?_⟩
    · intro s found s' ran
      cases ran
      rw [kept v s]
      omega
    · intro s k _
      show Except.ok (value v,after v (s.more k)) = .ok (value v,(after v s).more k)
      rw [shifted]

theorem spends_raise (raised : PyError) : Spends (fun _ => (.error raised : Except PyError (α × Evaluation))) n :=
  ⟨fun _ _ _ ran => (nomatch ran),fun _ _ _ => rfl⟩

theorem spends_bind {runs : Evaluation → Except PyError (α × Evaluation)} {g : α × Evaluation → Except PyError (β × Evaluation)}
    (first : Spends runs n) (rest : ∀ value, Spends (fun s => g (value,s)) m) : Spends (fun s => runs s >>= g) (n + m) := by
  constructor
  · intro s value s' ran
    obtain ⟨⟨middle,between⟩,early,late⟩ := bind_ok.mp ran
    have one := first.most s middle between early
    have two := (rest middle).most between value s' late
    omega
  · intro s k enough
    show (runs (s.more k) >>= g) = _
    rw [first.same s k (by omega)]
    cases early : runs s with
    | error error => rfl
    | ok ran =>
      have one := first.most s ran.1 ran.2 early
      exact (rest ran.1).same ran.2 k (by omega)

theorem spends_consumed {next : Evaluation → Except PyError (α × Evaluation)} (rest : Spends next n) :
    Spends (fun s => s.consume >>= next) (1 + n) := by
  have consumed : ∀ s : Evaluation, 1 ≤ s.remaining → s.consume = .ok {s with remaining := s.remaining - 1} := by
    intro s left
    rw [Evaluation.consume,raiseIf,if_neg (by simp only [decide_eq_true_eq]; omega)]
    rfl
  constructor
  · intro s value s' ran
    obtain ⟨between,early,late⟩ := bind_ok.mp ran
    have left : 1 ≤ s.remaining := by
      rw [Evaluation.consume,check_ok,raiseIf_ok,decide_eq_false_iff_not] at early
      omega
    obtain rfl := Except.ok.inj ((consumed s left).symm.trans early)
    have most := rest.most _ value s' late
    dsimp only at most
    omega
  · intro s k enough
    have left : 1 ≤ (s.more k).remaining := by
      show 1 ≤ s.remaining + k
      omega
    show ((s.more k).consume >>= next) = Except.map _ (s.consume >>= next)
    rw [consumed s (by omega),consumed _ left]
    have shifted : ({s.more k with remaining := (s.more k).remaining - 1} : Evaluation) = Evaluation.more {s with remaining := s.remaining - 1} k := by
      simp only [Evaluation.more,Evaluation.mk.injEq,and_self,and_true]
      omega
    show next _ = Except.map _ (next _)
    rw [shifted]
    exact rest.same _ k (by show (n : Int) ≤ s.remaining - 1; omega)

-- A value is recorded at no cost.
theorem spends_recorded {result : Except PyError EvidenceValue} :
    Spends (fun s => result >>= fun v => pure (v,s.record v)) 0 :=
  @spends_none _ _ result id (fun v s => s.record v) (fun _ _ => rfl) fun _ _ _ => rfl

theorem operands_spend {operands : List Expression} (spend : ∀ operand ∈ operands, Spends (evaluateExpression values operand) operand.size) :
    Spends (evaluateOperands values operands) (operands.map Expression.size).sum := by
  induction operands with
  | nil => exact ⟨fun s _ s' ran => by cases ran; simp,fun _ _ _ => rfl⟩
  | cons operand rest ih =>
    obtain ⟨here,later⟩ := List.forall_mem_cons.mp spend
    rw [funext fun s => evaluateOperands.eq_2 values s operand rest,List.map_cons,List.sum_cons]
    refine spends_bind here fun first => ?_
    exact spends_bind (m := 0) (ih later) fun others =>
      @spends_none _ _ (.ok others) (first :: ·) (fun _ s => s) (fun _ _ => rfl) fun _ _ _ => rfl

theorem branch_spends {taken : Expression} (spends : Spends (evaluateExpression values taken) taken.size) :
    Spends (fun s => evaluateExpression values taken s >>= fun ran => pure (ran.1,ran.2.record ran.1)) taken.size :=
  spends_bind (m := 0) spends fun v => @spends_recorded (.ok v)

theorem if_spends {condition yes no : Expression} {more : List Expression} {kind : EvidenceKind}
    (spend : ∀ operand ∈ [condition,yes,no], Spends (evaluateExpression values operand) operand.size) :
    Spends (evaluateExpression values (.operation .if (condition :: yes :: no :: more) kind))
      (Expression.operation .if (condition :: yes :: no :: more) kind).size := by
  simp only [List.forall_mem_cons,List.not_mem_nil,false_implies,implies_true,and_true] at spend
  obtain ⟨test,then',else'⟩ := spend
  have sized := expression_size (.operation .if (condition :: yes :: no :: more) kind)
  simp only [Expression.operands,List.map_cons,List.sum_cons] at sized
  rw [funext fun s => evaluateExpression.eq_3 values s condition yes no more kind]
  refine spends_more (n := 1 + (condition.size + (yes.size + no.size))) ?_ (by rw [sized]; omega)
  refine spends_consumed (spends_bind test fun truth => ?_)
  by_cases missing : truth.isMissing = true
  · simp only [missing,if_true]
    exact spends_more spends_recorded (Nat.zero_le _)
  · simp only [missing,Bool.false_eq_true,if_false]
    obtain ⟨kind',value,_⟩ := truth
    cases kind' <;> cases value <;> try exact spends_raise _
    rename_i taken
    cases taken with
    | true => exact spends_more (branch_spends then') (Nat.le_add_right _ _)
    | false => exact spends_more (branch_spends else') (Nat.le_add_left _ _)

theorem short_spends {operands : List Expression} {kind : EvidenceKind} (few : ∀ condition yes no more, operands ≠ condition :: yes :: no :: more) :
    Spends (evaluateExpression values (.operation .if operands kind)) (Expression.operation .if operands kind).size := by
  have shape : ∀ s, evaluateExpression values (.operation .if operands kind) s = s.consume >>= fun _ => indexError := fun s => by
    rw [evaluateExpression]
    exact few
  rw [funext shape,expression_size]
  exact spends_more (spends_consumed (n := 0) (spends_raise _)) (Nat.le_add_right _ _)

theorem operation_spends {operator : Operator} (ordinary : operator ≠ .if) {operands : List Expression} {kind : EvidenceKind}
    (spend : ∀ operand ∈ operands, Spends (evaluateExpression values operand) operand.size) :
    Spends (evaluateExpression values (.operation operator operands kind)) (Expression.operation operator operands kind).size := by
  rw [expression_size,funext (evaluate_operation ordinary operands kind)]
  exact spends_consumed (spends_bind (m := 0) (operands_spend spend) fun results => spends_recorded)

-- Every node is paid for at most once, on the ways that end in an error too.
theorem expression_spends (e : Expression) : Spends (evaluateExpression values e) e.size := by
  induction e using Expression.tree with
  | literal kind value =>
    have shape : evaluateExpression values (.literal kind value) = fun s => s.consume >>= fun s =>
        EvidenceValue.create kind value >>= fun result => pure (result,s.record result) := by
      funext s
      rw [evaluateExpression]
    rw [shape]
    exact spends_consumed (n := 0) spends_recorded
  | path name kind =>
    have shape : evaluateExpression values (.path name kind) = fun s => s.consume >>= fun s =>
        (do
          let absent ← EvidenceValue.missing kind
          let path ← EvaluatedPath.create name ((values.lookup name).getD absent)
          pure ((values.lookup name).getD absent,path)) >>= fun read =>
            pure (read.1,Evaluation.record {s with evaluatedPaths := s.evaluatedPaths ++ [read.2]} read.1) := by
      funext s
      rw [evaluateExpression]
      simp only [bind_assoc,pure_bind]
    rw [shape]
    exact spends_consumed (n := 0) (spends_none (fun _ _ => rfl) fun _ _ _ => rfl)
  | operation operator operands kind ih =>
    by_cases choice : operator = .if
    · subst choice
      rcases operands with _ | ⟨condition,_ | ⟨yes,_ | ⟨no,more⟩⟩⟩
      · exact short_spends (by simp)
      · exact short_spends (by simp)
      · exact short_spends (by simp)
      · exact if_spends fun operand listed => ih operand (by simp at listed ⊢; tauto)
    · exact operation_spends choice ih

-- The rules share one budget, and none of them feels it when there is a step for every node.
theorem rules_spend {evaluatedAt : AwareDatetime} {rules : List Rule} {remaining : Int} {t : Tally} (k : Nat)
    (budget : ((rules.map fun rule => rule.expression.size).sum : Nat) ≤ remaining) :
    evaluateRules values evaluatedAt rules (remaining + k) t = evaluateRules values evaluatedAt rules remaining t := by
  induction rules generalizing remaining t with
  | nil => rfl
  | cons rule rest ih =>
    simp only [List.map_cons,List.sum_cons] at budget
    have spends : Spends (evaluateExpression values rule.expression) rule.expression.size := expression_spends _
    have same := spends.same ⟨remaining,[],[]⟩ k (show (rule.expression.size : Int) ≤ remaining by omega)
    have shifted : Evaluation.more ⟨remaining,[],[]⟩ k = ⟨remaining + k,[],[]⟩ := rfl
    rw [shifted] at same
    rw [evaluateRules,evaluateRules,same]
    cases ran : evaluateExpression values rule.expression ⟨remaining,[],[]⟩ with
    | error error => rfl
    | ok pair =>
      obtain ⟨outcome,s⟩ := pair
      have most := spends.most _ outcome s ran
      simp only at most
      simp only [Except.map,Bind.bind,Except.bind,Evaluation.more]
      cases t.judge rule outcome with
      | error error => rfl
      | ok judged =>
        obtain ⟨t,status⟩ := judged
        simp only
        cases RuleEvidence.create ⟨rule.ruleId,status,s.operands,s.evaluatedPaths,evaluatedAt⟩ with
        | error error => rfl
        | ok record => exact ih (by omega)

end Spending

def budgetExhausted : PyError := ⟨.ruleEvaluationError,"rule evaluation budget exhausted"⟩

theorem excused_unspent : ¬Excused budgetExhausted := fun excused => absurd (excused_message excused) (by decide)

theorem ruleset_unspent {raws : List RawJson} {rules : List Rule} (parsed : ParsedRules raws rules) (ruleInput : RuleInput)
    (threshold : Option Decimal) (evaluatedAt : AwareDatetime) : evaluateRuleset rules ruleInput threshold evaluatedAt ≠ .error budgetExhausted := by
  intro raised
  by_cases valid : ValidThreshold threshold
  · rcases finishes_raised (ruleset_stopped parsed ruleInput valid evaluatedAt) raised with excused | ⟨null,_⟩ | ⟨outside,_⟩
    · exact excused_unspent excused
    · exact absurd null (by decide)
    · exact absurd outside (by decide)
  · cases threshold with
    | none => exact absurd raised (by simp [evaluateRuleset,requireScore,raise,Bind.bind,Except.bind,budgetExhausted])
    | some d =>
      have negative : decide (d.toRat < 0) = true := by
        simp only [ValidThreshold,Option.some.injEq,exists_eq_left',not_le] at valid
        exact decide_eq_true valid
      rw [evaluateRuleset,requireScore,raiseIf,if_pos negative] at raised
      simp [raise,Bind.bind,Except.bind,budgetExhausted] at raised

-- The budget is never felt: the nodes of the rules are within it, and a budget of just as many steps makes no difference.
theorem budget_suffices (raws : List RawJson) (rules : List Rule) (parsed : parseRules raws = .ok rules) :
    (rules.map fun rule => rule.expression.size).sum ≤ MAX_RULESET_AST_NODES ∧ MAX_RULESET_AST_NODES = MAX_EVALUATION_STEPS ∧
    (∀ ruleInput threshold evaluatedAt, evaluateRuleset rules ruleInput threshold evaluatedAt ≠ .error budgetExhausted) ∧
    (∀ values evaluatedAt t (budget : Nat), (rules.map fun rule => rule.expression.size).sum ≤ budget →
      evaluateRules values evaluatedAt rules budget t =
        evaluateRules values evaluatedAt rules ((rules.map fun rule => rule.expression.size).sum : Nat) t) ∧
    (∀ values e s v s', evaluateExpression values e s = .ok (v,s') → s.remaining - s'.remaining ≤ e.size) ∧
    ∀ raw e counted, parseNode raw 1 0 = .ok (e,counted) → CountedAlike e counted := by
  have built := rules_built parsed
  refine ⟨built.small,rfl,ruleset_unspent built,?_,?_,fun raw e counted => parsed_counted⟩
  · intro values evaluatedAt t budget enough
    have felt := @rules_spend values evaluatedAt rules _ t
      (budget - (rules.map fun rule => rule.expression.size).sum) (le_refl (((rules.map fun rule => rule.expression.size).sum : Nat) : Int))
    rw [← Nat.cast_add,Nat.add_sub_cancel' enough] at felt
    exact felt
  · intro values e s v s' ran
    have most := (@expression_spends values e).most s v s' ran
    omega

-- Three rules of one node each: three steps are as good as five hundred and twelve.
theorem budget_suffices_sample : (flags.map fun rule => rule.expression.size).sum = 3 ∧
    evaluateRuleset flags someFlags (some ⟨false,1,0⟩) epoch ≠ .error budgetExhausted ∧
    ∀ values, evaluateRules values epoch flags MAX_EVALUATION_STEPS .empty = evaluateRules values epoch flags 3 .empty := by
  have counted : (flags.map fun rule => rule.expression.size).sum = 3 := by decide
  have enough := budget_suffices flagRules flags flags_parsed
  refine ⟨counted,enough.2.2.1 someFlags _ epoch,fun values => ?_⟩
  have spent := enough.2.2.2.1 values epoch .empty MAX_EVALUATION_STEPS (by rw [counted]; decide)
  rwa [counted] at spent

end SwapMonitor.Rules
