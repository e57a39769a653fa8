import SwapMonitor.Rules.Causes

namespace SwapMonitor.Rules
open Exceptions

section Meaning
variable (values : List (String × EvidenceValue))

mutual
-- What an expression comes to, with no budget and no trace.
def meaning : Expression → Except PyError EvidenceValue
  | .literal kind value => EvidenceValue.create kind value
  | .path name kind => do
    let absent ← EvidenceValue.missing kind
    let path ← EvaluatedPath.create name ((values.lookup name).getD absent)
    pure path.value
  | .operation .if (condition :: yes :: no :: _) kind => do
    let truth ← meaning condition
    if truth.isMissing then EvidenceValue.missing kind
    else match truth.kind,truth.value with
      | .boolean,.boolean true => meaning yes
      | .boolean,.boolean false => meaning no
      | _,_ => raise .ruleEvaluationError "if condition did not evaluate to Boolean evidence"
  | .operation .if _ _ => raise (.operationFailed "IndexError") "tuple index out of range"
  | .operation operator operands kind => do
    let results ← meanings operands
    applyOperator operator kind results

def meanings : List Expression → Except PyError (List EvidenceValue)
  | [] => .ok []
  | operand :: rest => do
    let first ← meaning operand
    let others ← meanings rest
    pure (first :: others)
end

end Meaning

-- A computation that starts from s comes to what one without a budget comes to and costs at most
-- n, unless s has less than n left.
def Within (means : Except PyError α) (runs : Except PyError (α × Evaluation)) (n : Nat) (s : Evaluation) : Prop :=
  Finishes runs (fun ran => means = .ok ran.1 ∧ s.remaining - n ≤ ran.2.remaining) fun error =>
    means = .error error ∨ s.remaining < n

-- Every node of an expression is paid for at most once.
def Follows (values : List (String × EvidenceValue)) (e : Expression) : Prop :=
  ∀ s, Within (meaning values e) (evaluateExpression values e s) e.size s

section Simulation
variable {values : List (String × EvidenceValue)} {s : Evaluation} {n m : Nat}

theorem within_bind {means : Except PyError α} {runs : Except PyError (α × Evaluation)}
    {f : α → Except PyError β} {g : α × Evaluation → Except PyError (β × Evaluation)} (first : Within means runs n s)
    (next : ∀ value s', Within (f value) (g (value,s')) m s') : Within (means >>= f) (runs >>= g) (n + m) s := by
  cases runs with
  | error error =>
    rcases first with same | less
    · exact .inl (by rw [same]; rfl)
    · exact .inr (by omega)
  | ok ran =>
    obtain ⟨value,s'⟩ := ran
    obtain ⟨same,left⟩ := first
    have rest := next value s'
    rw [same]
    refine finishes_mono rest ?_ ?_
    · intro ran ⟨same,left'⟩
      refine ⟨same,?_⟩
      simp only at left
      omega
    · intro error raised
      simp only at left
      rcases raised with same | less
      · exact .inl same
      · exact .inr (by omega)

theorem within_mono {means : Except PyError α} {runs : Except PyError (α × Evaluation)} (within : Within means runs n s)
    (more : n ≤ m) : Within means runs m s := by
  refine finishes_mono within (fun ran ⟨same,left⟩ => ⟨same,by omega⟩) fun error raised => ?_
  rcases raised with same | less
  · exact .inl same
  · exact .inr (by omega)

-- A result is recorded at no cost.
theorem within_recorded {means : Except PyError EvidenceValue} {f : EvidenceValue → Evaluation}
    (kept : ∀ v, (f v).remaining = s.remaining) : Within means (means >>= fun v => pure (v,f v)) 0 s := by
  cases means with
  | error error => exact .inl rfl
  | ok v => exact ⟨rfl,by have := kept v; simp only; omega⟩

theorem within_consumed {means : Except PyError α} {g : Evaluation → Except PyError (α × Evaluation)}
    (next : ∀ s', Within means (g s') n s') : Within means (s.consume >>= g) (1 + n) s := by
  unfold Evaluation.consume
  by_cases left : s.remaining - 1 < 0
  · rw [raiseIf,if_pos (by simpa using left)]
    exact .inr (by omega)
  · rw [raiseIf,if_neg (by simpa using left)]
    have rest := next {s with remaining := s.remaining - 1}
    refine finishes_mono rest (fun ran ⟨same,left⟩ => ⟨same,by simp only at left; omega⟩) fun error raised => ?_
    rcases raised with same | less
    · exact .inl same
    · exact .inr (by simp only at less; omega)

theorem meaning_operation {operator : Operator} (ordinary : operator ≠ .if) (operands : List Expression)
    (kind : EvidenceKind) : meaning values (.operation operator operands kind) =
      meanings values operands >>= applyOperator operator kind := by
  cases operator <;> first | exact absurd rfl ordinary | rw [meaning] <;> simp

theorem evaluate_operation {operator : Operator} (ordinary : operator ≠ .if) (operands : List Expression)
    (kind : EvidenceKind) (s : Evaluation) : evaluateExpression values (.operation operator operands kind) s = (do
      let s ← s.consume
      let (results,s) ← evaluateOperands values operands s
      let result ← applyOperator operator kind results
      pure (result,s.record result)) := by
  cases operator <;> first | exact absurd rfl ordinary | rw [evaluateExpression] <;> simp

theorem path_created {path : String} {value : EvidenceValue} {p : EvaluatedPath}
    (created : EvaluatedPath.create path value = .ok p) : p = ⟨path,value⟩ := by
  simp only [EvaluatedPath.create,check_ok,pure_ok] at created
  exact created.2.2.symm

theorem operands_follow {operands : List Expression} (follow : ∀ operand ∈ operands, Follows values operand)
    (s : Evaluation) :
    Within (meanings values operands) (evaluateOperands values operands s) (operands.map Expression.size).sum s := by
  induction operands generalizing s with
  | nil => exact ⟨rfl,by simp⟩
  | cons operand rest ih =>
    obtain ⟨here,later⟩ := List.forall_mem_cons.mp follow
    rw [meanings,evaluateOperands,List.map_cons,List.sum_cons]
    apply within_bind (here s)
    intro v s'
    have tail := within_bind (f := fun others => pure (v :: others))
      (g := fun ran => pure (v :: ran.1,ran.2)) (m := 0) (ih later s') fun others s'' => ⟨rfl,by simp⟩
    exact tail

-- The value of the branch that is taken is recorded once more for the if itself.
theorem branch_follows {taken : Expression} (follows : Follows values taken) (s : Evaluation) :
    Within (meaning values taken) (evaluateExpression values taken s >>= fun ran => pure (ran.1,ran.2.record ran.1))
      taken.size s := by
  cases ran : evaluateExpression values taken s with
  | error error =>
    have result := follows s
    rw [ran] at result
    exact result
  | ok pair =>
    have result := follows s
    rw [ran] at result
    exact result

theorem if_follows {condition yes no : Expression} {more : List Expression} {kind : EvidenceKind}
    (follow : ∀ operand ∈ [condition,yes,no], Follows values operand) :
    Follows values (.operation .if (condition :: yes :: no :: more) kind) := by
  intro s
  simp only [List.forall_mem_cons,List.not_mem_nil,false_implies,implies_true,and_true] at follow
  obtain ⟨test,then',else'⟩ := follow
  have sized := expression_size (.operation .if (condition :: yes :: no :: more) kind)
  simp only [Expression.operands,List.map_cons,List.sum_cons] at sized
  rw [meaning,evaluateExpression]
  refine within_mono (within_consumed fun s' => within_bind (m := yes.size + no.size) (test s') ?_)
    (by rw [sized]; omega)
  intro truth s''
  by_cases missing : truth.isMissing = true
  · simp only [missing,if_true]
    exact within_mono (within_recorded fun _ => rfl) (Nat.zero_le _)
  · simp only [missing,Bool.false_eq_true,if_false]
    obtain ⟨kind',value,_⟩ := truth
    cases kind' <;> cases value <;> try exact .inl rfl
    rename_i taken
    cases taken with
    | true => exact within_mono (branch_follows then' s'') (Nat.le_add_right _ _)
    | false => exact within_mono (branch_follows else' s'') (Nat.le_add_left _ _)

theorem operation_follows {operator : Operator} (ordinary : operator ≠ .if) {operands : List Expression}
    {kind : EvidenceKind} (follow : ∀ operand ∈ operands, Follows values operand) :
    Follows values (.operation operator operands kind) := by
  intro s
  rw [meaning_operation ordinary,evaluate_operation ordinary,expression_size]
  exact within_consumed fun s' => within_bind (m := 0) (operands_follow follow s') fun results s'' =>
    within_recorded fun _ => rfl

-- The budget of an evaluation is only ever felt when it is smaller than the expression.
theorem evaluation_follows (e : Expression) : Follows values e := by
  induction e using Expression.tree with
  | literal kind value =>
    intro s
    rw [meaning,evaluateExpression]
    exact within_consumed (n := 0) fun s' => within_recorded (f := s'.record) fun _ => rfl
  | path name kind =>
    intro s
    rw [meaning,evaluateExpression]
    refine within_consumed (n := 0) fun s' => ?_
    cases created : EvidenceValue.missing kind with
    | error error => exact .inl rfl
    | ok absent =>
      cases read : EvaluatedPath.create name ((values.lookup name).getD absent) with
      | error error =>
        simp only [Bind.bind,Except.bind,read]
        exact .inl rfl
      | ok path =>
        simp only [Bind.bind,Except.bind,read]
        exact ⟨by rw [path_created read]; rfl,by simp [Evaluation.record]⟩
  | operation operator operands kind ih =>
    by_cases choice : operator = .if
    · subst choice
      match operands with
      | condition :: yes :: no :: more => exact if_follows fun operand listed => ih operand (by simp at listed ⊢; tauto)
      | [] | [_] | [_,_] =>
        intro s
        rw [meaning,evaluateExpression,expression_size]
        · exact within_consumed fun s' => .inl rfl
        · simp
        · simp
    · exact operation_follows choice ih

theorem evaluated_meaning {e : Expression} {v : EvidenceValue} {s' : Evaluation}
    (ran : evaluateExpression values e s = .ok (v,s')) : meaning values e = .ok v ∧ s.remaining - e.size ≤ s'.remaining := by
  have follows : Within (meaning values e) _ _ _ := evaluation_follows e s
  have both := finishes_returned follows ran
  exact both

theorem meaning_evaluated {e : Expression} {v : EvidenceValue} (budget : e.size ≤ s.remaining)
    (means : meaning values e = .ok v) :
    ∃ s', evaluateExpression values e s = .ok (v,s') ∧ s.remaining - e.size ≤ s'.remaining := by
  have follows : Within (meaning values e) _ _ _ := evaluation_follows e s
  cases ran : evaluateExpression values e s with
  | error error =>
    rw [ran,means] at follows
    rcases follows with same | less
    · cases same
    · omega
  | ok pair =>
    obtain ⟨v',s'⟩ := pair
    obtain ⟨same,left⟩ := evaluated_meaning ran
    rw [means,Except.ok.injEq] at same
    exact ⟨s',by rw [same],left⟩

theorem meaning_refused {e : Expression} {error : PyError} (budget : e.size ≤ s.remaining)
    (means : meaning values e = .error error) : evaluateExpression values e s = .error error := by
  have follows : Within (meaning values e) _ _ _ := evaluation_follows e s
  cases ran : evaluateExpression values e s with
  | error error' =>
    rw [ran,means] at follows
    rcases follows with same | less
    · cases same
      rfl
    · omega
  | ok pair =>
    obtain ⟨same,_⟩ := evaluated_meaning ran
    rw [means] at same
    cases same

end Simulation
end SwapMonitor.Rules
