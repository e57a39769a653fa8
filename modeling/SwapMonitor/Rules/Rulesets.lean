import SwapMonitor.Rules.Counting

namespace SwapMonitor.Rules
open Clocks Exceptions Traversal

section Preparation
variable {raw : List (String × ScalarValue)} {values : List (String × EvidenceValue)}

-- Each prepared value is the evidence of the same path.
theorem prepared_lookup (prepared : prepareValues raw = .ok values) (name : String) :
    (raw.lookup name = none ∧ values.lookup name = none) ∨ ∃ value kind v, raw.lookup name = some value ∧
      values.lookup name = some v ∧ kindFor name = .ok kind ∧ EvidenceValue.create kind value = .ok v := by
  induction raw generalizing values with
  | nil =>
    cases prepared
    exact .inl ⟨rfl,rfl⟩
  | cons row rest ih =>
    obtain ⟨path,value⟩ := row
    unfold prepareValues at prepared
    cases registered : kindFor path with
    | error error => simp [registered,bind_ok] at prepared
    | ok kind =>
    simp only [registered,bind_ok,pure_ok,exists_eq_left'] at prepared
    obtain ⟨v,created,others,more,rfl⟩ := prepared
    by_cases same : name = path
    · subst same
      exact .inr ⟨value,kind,v,by simp,by simp,registered,created⟩
    · simp only [List.lookup_cons,beq_eq_false_iff_ne.mpr same]
      exact ih more

theorem prepared_values (prepared : prepareValues raw = .ok values) : Prepared values := by
  intro name v found
  rcases prepared_lookup prepared name with ⟨_,absent⟩ | ⟨value,kind,v',_,found',registered,created⟩
  · rw [absent] at found
    cases found
  · rw [found',Option.some.injEq] at found
    subst found
    exact ⟨kind,registered,create_known created⟩

-- The prepared values are those the input has for its paths.
theorem prepared_reading {input : RuleInput} (prepared : prepareValues input.values = .ok values) : readingOf values = input.reading := by
  funext name
  rcases prepared_lookup prepared name with ⟨absent,absent'⟩ | ⟨value,kind,v,found,found',_,created⟩
  · simp [readingOf,RuleInput.reading,absent,absent']
  · simp only [EvidenceValue.create,bind_ok,pure_ok] at created
    obtain ⟨_,_,normalized,normal,rfl⟩ := created
    simp [readingOf,RuleInput.reading,found,found',normal,Except.toOption]

theorem prepared_absent (prepared : prepareValues raw = .ok values) (name : String) :
    values.lookup name = none ↔ raw.lookup name = none := by
  rcases prepared_lookup prepared name with ⟨absent,absent'⟩ | ⟨value,kind,v,found,found',_⟩
  · simp [absent,absent']
  · simp [found,found']

-- The constructor of the input made the same values once before.
theorem input_prepared (input : RuleInput) : ∃ values, prepareValues input.values = .ok values := by
  have accepted := input.accepted
  simp only [RuleInputFields.postInit,bind_ok] at accepted
  obtain ⟨payload,measured⟩ : ∃ payload, inputPayload input.values = .ok payload := by
    obtain ⟨_,_,_,_,_,_,payload,measured,_⟩ := accepted
    exact ⟨payload,measured⟩
  clear accepted
  generalize input.values = raw at measured
  induction raw generalizing payload with
  | nil => exact ⟨[],rfl⟩
  | cons row rest ih =>
    obtain ⟨path,value⟩ := row
    rw [inputPayload,bind_ok] at measured
    obtain ⟨kind,registered,measured⟩ := measured
    rw [bind_ok] at measured
    obtain ⟨v,created,measured⟩ := measured
    obtain ⟨others,more⟩ : ∃ others, inputPayload rest = .ok others := by
      split at measured
      · split at measured
        · simp only [bind_ok] at measured
          obtain ⟨_,_,others,more,_⟩ := measured
          exact ⟨others,more⟩
        · simp only [bind_ok] at measured
          obtain ⟨others,more,_⟩ := measured
          exact ⟨others,more⟩
      · simp only [bind_ok] at measured
        obtain ⟨others,more,_⟩ := measured
        exact ⟨others,more⟩
    obtain ⟨values,prepared⟩ := ih _ more
    refine ⟨(path,v) :: values,?_⟩
    simp only [prepareValues,registered,bind_ok,pure_ok]
    exact ⟨kind,rfl,v,created,values,prepared,rfl⟩

end Preparation

section Validation
variable {raw : RawJson} {e : Expression}

theorem below_node {node : Expression} {k : Nat} (below : astWalk.Below e node k) : node ∈ e.nodes := by
  induction below with
  | self => exact node_self _
  | child listed _ ih => exact node_operand listed ih

theorem public_finishes (typed : WellTyped e) : Finishes (validatePublicNode e) (fun _ => True) Excused := by
  cases typed with
  | @literal kind value kinds _ =>
    cases value with
    | decimal d =>
      cases kinds
      exact finishes_imp bounded_finishes fun _ _ => trivial
    | _ => cases kinds; trivial
  | path registered =>
    apply finishes_after registered
    rw [raiseIf,if_neg (by simp)]
    trivial
  | operation => trivial

-- The validator stops on a parsed expression only for the size of a number.
theorem validate_finishes (parsed : Parsed raw 1 0 e e.size) : Finishes (validateExpressionAst e) (fun _ => True) Excused := by
  have shallow := parsed.shallow
  have counted : Finishes (astWalk.count e) (fun _ => True) Excused := by
    rw [finishes_exact]
    refine ⟨fun _ _ => trivial,fun error refused => ?_⟩
    obtain ⟨node,k,below,stopped⟩ := count_refused expression_size height_positive expression_height parsed.within
      (show e.height ≤ MAX_EXPRESSION_DEPTH by omega) refused
    exact finishes_raised (public_finishes (typed_nodes parsed.typed node (below_node below))) stopped
  apply finishes_bind counted
  intro _ _
  rw [operations_typed parsed.typed]
  trivial

end Validation

section Scores
variable {left right sum : Decimal}

theorem scores_added (added : addScores left right = .ok sum) : ∃ exact, left.add right = .ok exact ∧
    requireBoundedDecimal exact = .ok () ∧ sum = canonicalForm exact := by
  simp only [addScores,bind_ok,canonical_exact] at added
  obtain ⟨exact,added,bounded,same⟩ := added
  exact ⟨exact,added,bounded,same.symm⟩

theorem scores_end (one : 0 ≤ left.toRat) (two : 0 ≤ right.toRat) :
    Finishes (addScores left right) (fun sum => 0 ≤ sum.toRat) Excused := by
  have ends : Finishes (addScores left right) (fun _ => True) Excused :=
    finishes_bind fix_finishes fun _ _ => finishes_imp canonical_finishes fun _ _ => trivial
  refine finishes_imp (finishes_noted ends) fun sum noted => ?_
  obtain ⟨exact,added,_,rfl⟩ := scores_added noted.1
  rw [canonical_value]
  exact add_nonneg_sum added one two

theorem score_finishes {threshold : Decimal} {label : String} (nonneg : 0 ≤ threshold.toRat) :
    Finishes (requireScore (some threshold) label) (fun score => 0 ≤ score.toRat) Excused := by
  have kept : decide (threshold.toRat < 0) = false := by simpa using nonneg
  simp only [requireScore,kept]
  refine finishes_after rfl (finishes_imp canonical_finishes fun score canonical => ?_)
  rw [← canonical.2,canonical_value]
  exact nonneg

end Scores

-- What a parsed rule is known for while it is evaluated.
structure Sorted (rule : Rule) : Prop where
  typed : WellTyped rule.expression
  decision : rule.expression.kind = .boolean
  weight : 0 < rule.weight.toRat
  named : blank rule.ruleId = false
  short : rule.ruleId.utf8ByteSize ≤ MAX_IDENTIFIER_UTF8_BYTES

structure Fair (t : Tally) : Prop where
  total : 0 ≤ t.totalScore.toRat
  missing : 0 ≤ t.missingScore.toRat
  short : ∀ ruleId ∈ t.matchedRuleIds ++ t.failedRuleIds ++ t.missingRuleIds,
    ruleId.utf8ByteSize ≤ MAX_IDENTIFIER_UTF8_BYTES

section Evaluation
variable {values : List (String × EvidenceValue)} {evaluatedAt : AwareDatetime} {rule : Rule} {rules : List Rule} {t : Tally}

theorem rule_sorted {raw : RawJson} (built : Built raw rule) : Sorted rule := by
  obtain ⟨_,_,_,_,parsed⟩ := built.expressed
  exact ⟨(expression_parsed parsed).typed,built.decision,built.weight.2,built.named.1,built.named.2⟩

theorem judge_finishes (sorted : Sorted rule) (fair : Fair t) {v : EvidenceValue} (fits : Fits .boolean v) :
    Finishes (t.judge rule v) (fun judged => Fair judged.1) Excused := by
  have weight : 0 ≤ rule.weight.toRat := sorted.weight.le
  have short := fair.short
  simp only [List.forall_mem_append] at short
  have ids : ∀ listed : List String, (∀ ruleId ∈ listed, ruleId.utf8ByteSize ≤ MAX_IDENTIFIER_UTF8_BYTES) →
      ∀ ruleId ∈ listed ++ [rule.ruleId], ruleId.utf8ByteSize ≤ MAX_IDENTIFIER_UTF8_BYTES := by
    intro listed all
    rw [List.forall_mem_append]
    exact ⟨all,by simpa using sorted.short⟩
  unfold Tally.judge
  cases missing : v.isMissing with
  | true =>
    simp only [if_true]
    refine finishes_bind (scores_end fair.missing weight) fun score nonneg => ⟨fair.total,nonneg,?_⟩
    rw [List.forall_mem_append,List.forall_mem_append]
    exact ⟨short.1,ids _ short.2⟩
  | false =>
    obtain ⟨value,rfl,typed⟩ := known_value (fits_known fits missing)
    simp only [Bool.false_eq_true,if_false]
    cases value with
    | boolean outcome =>
      cases outcome with
      | true =>
        refine finishes_bind (scores_end fair.total weight) fun score nonneg => ⟨nonneg,fair.missing,?_⟩
        rw [List.forall_mem_append,List.forall_mem_append]
        exact ⟨⟨ids _ short.1.1,short.1.2⟩,short.2⟩
      | false =>
        refine ⟨fair.total,fair.missing,?_⟩
        rw [List.forall_mem_append,List.forall_mem_append]
        exact ⟨⟨short.1.1,ids _ short.1.2⟩,short.2⟩
    | _ => cases typed

theorem record_created (evaluatedAt : AwareDatetime) (sorted : Sorted rule) (status : EvidenceStatus) (operands : List EvidenceValue)
    (paths : List EvaluatedPath) : ∃ record, RuleEvidence.create ⟨rule.ruleId,status,operands,paths,evaluatedAt⟩ = .ok record := by
  have short := sorted.short
  simp only [RuleEvidence.create,check_ok,raiseIf_ok,pure_ok,requireRuleEvidenceText,decide_eq_false_iff_not,if_true]
  exact ⟨_,sorted.named,by omega,rfl⟩

-- What stops the rules is excused, or it is an if of the NULL kind in the first rule that is stopped.
theorem rules_end (evaluatedAt : AwareDatetime) (prepared : Prepared values) (sorted : ∀ rule ∈ rules, Sorted rule) (fair : Fair t) {remaining : Int}
    (budget : ((rules.map fun rule => rule.expression.size).sum : Nat) ≤ remaining) :
    Finishes (evaluateRules values evaluatedAt rules remaining t) Fair fun error =>
      Excused error ∨ error = nullError ∧ ∃ earlier rule later t', rules = earlier ++ rule :: later ∧
        evaluateRules values evaluatedAt earlier remaining t = .ok t' ∧ ReachesNullIf values rule.expression := by
  induction rules generalizing t remaining with
  | nil => exact fair
  | cons rule rest ih =>
    obtain ⟨here,later⟩ := List.forall_mem_cons.mp sorted
    simp only [List.map_cons,List.sum_cons,Nat.cast_add] at budget
    have sound := meaning_sound prepared here.typed
    rw [evaluateRules]
    cases means : meaning values rule.expression with
    | error error =>
      rw [meaning_refused (s := ⟨remaining,[],[]⟩) (by simp only; omega) means]
      rcases finishes_raised sound means with excused | ⟨null,reaches⟩
      · exact .inl excused
      · exact .inr ⟨null,[],rule,rest,t,rfl,rfl,reaches⟩
    | ok v =>
      replace sound := finishes_returned sound means
      obtain ⟨s,evaluated,left⟩ := meaning_evaluated (s := ⟨remaining,[],[]⟩) (by simp only; omega) means
      have judged := judge_finishes here fair (here.decision ▸ sound.fits)
      simp only at left
      refine finishes_after evaluated (finishes_bind (finishes_mono (finishes_noted judged) (fun _ noted => noted) fun _ => .inl) ?_)
      rintro ⟨t',status⟩ ⟨outcome,total,missing,short⟩
      obtain ⟨record,recorded⟩ := record_created evaluatedAt here status s.operands s.evaluatedPaths
      have fair' : Fair {t' with records := t'.records ++ [record]} := ⟨total,missing,short⟩
      refine finishes_after recorded (finishes_mono (ih later fair' (by omega)) (fun _ fair => fair) ?_)
      intro error raised
      rcases raised with excused | ⟨null,earlier,stopped,after,t'',split,before,reaches⟩
      · exact .inl excused
      · refine .inr ⟨null,rule :: earlier,stopped,after,t'',by rw [split]; rfl,?_,reaches⟩
        rw [evaluateRules,bind_ok]
        refine ⟨_,evaluated,?_⟩
        rw [bind_ok]
        refine ⟨_,outcome,?_⟩
        rw [bind_ok]
        exact ⟨record,recorded,before⟩

-- A rule adds its weight where the sums have it, and is judged.
theorem judge_passed {v : EvidenceValue} (fits : Fits .boolean v) {matches' missings : List Rule} {matched missing : Decimal}
    (total : addWeights t.totalScore (if decide (statusOf v = .matched) then rule :: matches' else matches') = .ok matched)
    (unknown : addWeights t.missingScore (if decide (statusOf v = .missing) then rule :: missings else missings) = .ok missing) :
    ∃ t' status, t.judge rule v = .ok (t',status) ∧ addWeights t'.totalScore matches' = .ok matched ∧
      addWeights t'.missingScore missings = .ok missing := by
  cases absent : v.isMissing with
  | true =>
    have status : statusOf v = .missing := by simp [statusOf,absent]
    simp only [status,reduceCtorEq,decide_false,decide_true,Bool.false_eq_true,if_false,if_true,addWeights,bind_ok] at total unknown
    obtain ⟨sum,added,unknown⟩ := unknown
    refine ⟨{t with missingRuleIds := t.missingRuleIds ++ [rule.ruleId],missingScore := sum},.missing,?_,total,unknown⟩
    simp only [Tally.judge,absent,if_true,added,Bind.bind,Except.bind,Pure.pure,Except.pure]
  | false =>
    obtain ⟨value,rfl,typed⟩ := known_value (fits_known fits absent)
    cases value <;> cases typed
    rename_i truth
    cases truth with
    | true =>
      simp only [statusOf,Bool.false_eq_true,reduceCtorEq,decide_false,decide_true,if_false,if_true,addWeights,bind_ok] at total unknown
      obtain ⟨sum,added,total⟩ := total
      refine ⟨{t with matchedRuleIds := t.matchedRuleIds ++ [rule.ruleId],totalScore := sum},.matched,?_,total,unknown⟩
      simp only [Tally.judge,Bool.false_eq_true,if_false,added,Bind.bind,Except.bind,Pure.pure,Except.pure]
    | false =>
      simp only [statusOf,Bool.false_eq_true,reduceCtorEq,decide_false,if_false] at total unknown
      exact ⟨_,.failed,rfl,total,unknown⟩

-- Some rules that all have an answer are evaluated to the end, by induction on them.
theorem passed_evaluated (evaluatedAt : AwareDatetime) (prepared : Prepared values) (sorted : ∀ rule ∈ rules, Sorted rule)
    {remaining : Int} (budget : ((rules.map fun rule => rule.expression.size).sum : Nat) ≤ remaining)
    (answered : ∀ rule ∈ rules, (verdict (readingOf values) rule).isSome) {matched missing : Decimal}
    (total : addWeights t.totalScore (rules.filter (verdictIs (readingOf values) .matched)) = .ok matched)
    (unknown : addWeights t.missingScore (rules.filter (verdictIs (readingOf values) .missing)) = .ok missing) :
    ∃ t', evaluateRules values evaluatedAt rules remaining t = .ok t' := by
  induction rules generalizing t remaining with
  | nil => exact ⟨t,rfl⟩
  | cons rule rest ih =>
    obtain ⟨here,later⟩ := List.forall_mem_cons.mp sorted
    obtain ⟨answer,answers⟩ := List.forall_mem_cons.mp answered
    simp only [List.map_cons,List.sum_cons,Nat.cast_add] at budget
    obtain ⟨v,means⟩ := (verdict_answered prepared here.typed).mp answer
    obtain ⟨s,evaluated,left⟩ := meaning_evaluated (s := ⟨remaining,[],[]⟩) (by simp only; omega) means
    have fits := (finishes_returned (meaning_sound prepared here.typed) means).fits
    have counted : ∀ status, verdictIs (readingOf values) status rule = decide (statusOf v = status) := by
      intro status
      rw [verdict_counted prepared here.typed,counts,means]
    simp only [List.filter_cons,counted] at total unknown
    simp only at left
    obtain ⟨t',status,judged,total,unknown⟩ := judge_passed (here.decision ▸ fits) total unknown
    obtain ⟨record,recorded⟩ := record_created evaluatedAt here status s.operands s.evaluatedPaths
    have affordable : ((rest.map fun rule => rule.expression.size).sum : Nat) ≤ s.remaining := by omega
    obtain ⟨last,ran⟩ := ih (t := {t' with records := t'.records ++ [record]}) later affordable answers total unknown
    refine ⟨last,?_⟩
    simp only [evaluateRules,evaluated,judged,recorded,Bind.bind,Except.bind]
    exact ran

-- One record for each rule, of the time of the evaluation.
theorem rules_recorded {remaining : Int} {t' : Tally} (ran : evaluateRules values evaluatedAt rules remaining t = .ok t') :
    t'.records.length = t.records.length + rules.length ∧
      ((∀ record ∈ t.records, record.evaluatedAt = evaluatedAt) → ∀ record ∈ t'.records, record.evaluatedAt = evaluatedAt) := by
  induction rules generalizing remaining t with
  | nil =>
    cases ran
    exact ⟨rfl,id⟩
  | cons rule rest ih =>
    simp only [evaluateRules,bind_ok,Prod.exists] at ran
    obtain ⟨v,s,_,judged,status,outcome,record,recorded,after⟩ := ran
    have kept : judged.records = t.records := by
      simp only [Tally.judge] at outcome
      split at outcome
      · simp only [bind_ok,pure_ok,Prod.mk.injEq] at outcome
        obtain ⟨_,_,rfl,_⟩ := outcome
        rfl
      · split at outcome
        · simp only [bind_ok,pure_ok,Prod.mk.injEq] at outcome
          obtain ⟨_,_,rfl,_⟩ := outcome
          rfl
        · simp only [pure_ok,Prod.mk.injEq] at outcome
          obtain ⟨rfl,_⟩ := outcome
          rfl
        · cases outcome
    have time : record.evaluatedAt = evaluatedAt := by
      simp only [RuleEvidence.create,check_ok,pure_ok] at recorded
      obtain ⟨_,_,rfl⟩ := recorded
      rfl
    obtain ⟨counted,times⟩ := ih after
    simp only [List.length_append,List.length_cons,List.length_nil,kept] at counted ⊢
    refine ⟨by omega,fun before => times fun record' listed => ?_⟩
    rcases List.mem_append.mp listed with old | new
    · exact before record' (kept ▸ old)
    · rw [List.mem_singleton.mp new]
      exact time

theorem bytes_end {payload : Json} {limitBytes : Nat} {boundary : String} :
    Finishes (requireEvidenceBytes payload limitBytes boundary) (fun _ => True) Excused :=
  finishes_imp (check_finishes fun _ => .audit) fun _ _ => trivial

-- A record is written with its time in UTC.
theorem payloads_end {records : List RuleEvidence} (times : ∀ record ∈ records, record.evaluatedAt = evaluatedAt) :
    Finishes (recordPayloads records) (fun _ => records = [] ∨ Shown evaluatedAt.instant) fun error =>
      error = outOfRange ∧ records ≠ [] ∧ ¬Shown evaluatedAt.instant := by
  induction records with
  | nil => exact .inl rfl
  | cons record rest ih =>
    obtain ⟨here,later⟩ := List.forall_mem_cons.mp times
    rw [recordPayloads,recordPayload,here]
    rcases time_created evaluatedAt with ⟨⟨utc,created⟩,shown⟩ | ⟨refused,outside⟩
    · rw [created]
      refine finishes_after rfl ?_
      refine finishes_bind (finishes_mono (ih later) (fun _ done => done) ?_) fun _ _ => .inr shown
      exact fun error raised => absurd shown raised.2.2
    · rw [refused]
      exact ⟨rfl,by simp,outside⟩

theorem ids_required {ids : List String} (short : ∀ ruleId ∈ ids, ruleId.utf8ByteSize ≤ MAX_IDENTIFIER_UTF8_BYTES) :
    requireIds ids = .ok () := by
  induction ids with
  | nil => rfl
  | cons ruleId rest ih =>
    obtain ⟨here,later⟩ := List.forall_mem_cons.mp short
    simp only [requireIds,check_ok,requireRuleEvidenceText,raiseIf_ok,decide_eq_false_iff_not,if_true]
    exact ⟨by omega,ih later⟩

-- The record of an evaluation of scores that are not negative; its own limits come before its times.
theorem evaluation_finishes {fields : RuleEvaluation} (total : 0 ≤ fields.totalScore.toRat) (threshold : 0 ≤ fields.threshold.toRat)
    (short : ∀ ruleId ∈ fields.matchedRuleIds ++ fields.failedRuleIds ++ fields.missingRuleIds,
      ruleId.utf8ByteSize ≤ MAX_IDENTIFIER_UTF8_BYTES) (times : ∀ record ∈ fields.ruleEvidence, record.evaluatedAt = evaluatedAt) :
    Finishes (RuleEvaluation.create fields) (fun _ => True) fun error => Excused error ∨
      error = outOfRange ∧ fields.ruleEvidence ≠ [] ∧ ¬Shown evaluatedAt.instant ∧
        requireBoundedDecimal fields.totalScore = .ok () ∧ requireBoundedDecimal fields.threshold = .ok () := by
  have scored : raiseIf (decide (fields.totalScore.toRat < 0)) .ruleEvaluationError "total_score must not be negative" =
      .ok () := by simpa using total
  have bounded : raiseIf (decide (fields.threshold.toRat < 0)) .ruleEvaluationError "threshold must not be negative" =
      .ok () := by simpa using threshold
  apply finishes_after scored
  apply finishes_after bounded
  refine finishes_bind (finishes_mono canonical_finishes (fun _ done => done) fun _ => .inl) ?_
  intro total ⟨one,_⟩
  refine finishes_bind (finishes_mono canonical_finishes (fun _ done => done) fun _ => .inl) ?_
  intro threshold ⟨two,_⟩
  apply finishes_after (ids_required short)
  refine finishes_any ?_ fun _ => trivial
  refine finishes_bind (finishes_mono (payloads_end times) (fun _ done => done) ?_) ?_
  · exact fun error ⟨same,written,outside⟩ => .inr ⟨same,written,outside,one,two⟩
  · intro _ _
    refine finishes_mono (finishes_bind (create_finishes rfl (by simp)) fun _ _ => finishes_bind (create_finishes rfl (by simp))
      fun _ _ => bytes_end) (fun _ done => done) fun _ => .inl

theorem evaluation_refused {fields : RuleEvaluation} (total : 0 ≤ fields.totalScore.toRat) (threshold : 0 ≤ fields.threshold.toRat)
    (short : ∀ ruleId ∈ fields.matchedRuleIds ++ fields.failedRuleIds ++ fields.missingRuleIds,
      ruleId.utf8ByteSize ≤ MAX_IDENTIFIER_UTF8_BYTES) (times : ∀ record ∈ fields.ruleEvidence, record.evaluatedAt = evaluatedAt)
    (written : fields.ruleEvidence ≠ []) (outside : ¬Shown evaluatedAt.instant)
    (one : requireBoundedDecimal fields.totalScore = .ok ()) (two : requireBoundedDecimal fields.threshold = .ok ()) :
    RuleEvaluation.create fields = .error outOfRange := by
  have payloads := payloads_end times
  have stopped : recordPayloads fields.ruleEvidence = .error outOfRange := by
    cases made : recordPayloads fields.ruleEvidence with
    | error error => rw [(finishes_raised payloads made).1]
    | ok records =>
      rcases finishes_returned payloads made with none | shown
      · exact absurd none written
      · exact absurd shown outside
  simp only [RuleEvaluation.create,raiseIf,not_lt.mpr total,not_lt.mpr threshold,decide_false,Bool.false_eq_true,if_false,
    canonicalDecimal,one,two,ids_required short,measureRuleEvaluation,stopped,Bind.bind,Except.bind,Pure.pure,Except.pure]

end Evaluation

section Rulesets
variable {raws : List RawJson} {rules : List Rule}

theorem rules_each (parsed : ParsedRules raws rules) {rule : Rule} (listed : rule ∈ rules) : ∃ raw, Built raw rule := by
  have each := parsed.each
  clear parsed
  induction each with
  | nil => cases listed
  | cons one _ ih =>
    rcases List.mem_cons.mp listed with rfl | later
    · exact ⟨_,one⟩
    · exact ih later

theorem rules_sorted (parsed : ParsedRules raws rules) : ∀ rule ∈ rules, Sorted rule := by
  intro rule listed
  obtain ⟨raw,built⟩ := rules_each parsed listed
  exact rule_sorted built

theorem ruleset_finishes (parsed : ParsedRules raws rules) : Finishes (requireRuleset rules) (fun _ => True) Excused := by
  have distinct : raiseIf (!decide (rules.map Rule.ruleId).Nodup) .ruleEvaluationError "rules must have unique ids" =
      .ok () := by simpa using parsed.distinct
  apply finishes_after distinct
  have each := parsed.each
  clear parsed distinct
  induction each with
  | nil => trivial
  | cons one _ ih =>
    obtain ⟨_,_,_,_,read⟩ := one.expressed
    exact finishes_bind (validate_finishes (expression_parsed read)) fun _ _ => ih

-- A threshold an evaluation can be asked for.
def ValidThreshold (threshold : Option Decimal) : Prop := ∃ d, threshold = some d ∧ 0 ≤ d.toRat

-- The threshold and the literals are within the limits, the rules before some rule are passed, and
-- reading that rule comes to an if of the NULL kind whose condition is missing.
structure StopsAtNullIf (rules : List Rule) (reading : Reading) (threshold : Option Decimal) : Prop where
  asked : ∃ d, threshold = some d ∧ requireBoundedDecimal d = .ok ()
  literals : ∀ rule ∈ rules, validateExpressionAst rule.expression = .ok ()
  met : ∃ earlier rule later matched missing, rules = earlier ++ rule :: later ∧ Passed reading earlier matched missing ∧
    MeetsNullIf reading rule.expression

-- Nothing else stops the rules and their scores, and the time of the evaluation has no reading in UTC.
structure StopsAtClock (rules : List Rule) (reading : Reading) (threshold : Option Decimal) (evaluatedAt : AwareDatetime) : Prop where
  outside : ¬Shown evaluatedAt.instant
  listed : rules ≠ []
  asked : ∃ d, threshold = some d ∧ requireBoundedDecimal d = .ok () ∧ requireBoundedDecimal (canonicalForm d) = .ok ()
  literals : ∀ rule ∈ rules, validateExpressionAst rule.expression = .ok ()
  passed : ∃ matched missing potential, Passed reading rules matched missing ∧ addScores matched missing = .ok potential ∧
    requireBoundedDecimal matched = .ok ()

theorem empty_fair : Fair .empty := by
  have zero : (0 : ℚ) ≤ (Decimal.mk false 0 0).toRat := by rw [toRat_nonneg]; decide
  exact ⟨zero,zero,by simp [Tally.empty]⟩

theorem ruleset_budget (parsed : ParsedRules raws rules) :
    ((rules.map fun rule => rule.expression.size).sum : Nat) ≤ (MAX_EVALUATION_STEPS : Int) := by
  have small := parsed.small
  simp only [MAX_RULESET_AST_NODES,MAX_EVALUATION_STEPS] at small ⊢
  omega

theorem ruleset_literals (required : requireRuleset rules = .ok ()) :
    ∀ rule ∈ rules, validateExpressionAst rule.expression = .ok () := by
  simp only [requireRuleset,bind_ok] at required
  obtain ⟨_,_,valid⟩ := required
  clear * - valid
  induction rules with
  | nil => simp
  | cons rule rest ih =>
    simp only [validateRules,check_ok] at valid
    exact List.forall_mem_cons.mpr ⟨valid.1,ih valid.2⟩

theorem ruleset_required (parsed : ParsedRules raws rules) (literals : ∀ rule ∈ rules, validateExpressionAst rule.expression = .ok ()) :
    requireRuleset rules = .ok () := by
  have distinct : raiseIf (!decide (rules.map Rule.ruleId).Nodup) .ruleEvaluationError "rules must have unique ids" =
      .ok () := by simpa using parsed.distinct
  rw [requireRuleset,distinct]
  clear parsed distinct
  show validateRules rules = .ok ()
  induction rules with
  | nil => rfl
  | cons rule rest ih =>
    obtain ⟨here,later⟩ := List.forall_mem_cons.mp literals
    simp only [validateRules,check_ok]
    exact ⟨here,ih later⟩

theorem sorted_typed (parsed : ParsedRules raws rules) : ∀ rule ∈ rules, WellTyped rule.expression :=
  fun rule listed => (rules_sorted parsed rule listed).typed

theorem ruleset_stopped (parsed : ParsedRules raws rules) (ruleInput : RuleInput) {threshold : Option Decimal}
    (valid : ValidThreshold threshold) (evaluatedAt : AwareDatetime) :
    Finishes (evaluateRuleset rules ruleInput threshold evaluatedAt) (fun _ => True) fun error =>
      Excused error ∨ error = nullError ∧ StopsAtNullIf rules ruleInput.reading threshold ∨
        error = outOfRange ∧ StopsAtClock rules ruleInput.reading threshold evaluatedAt := by
  obtain ⟨d,rfl,nonneg⟩ := valid
  obtain ⟨values,prepared⟩ := input_prepared ruleInput
  have ready := prepared_values prepared
  have typed := sorted_typed parsed
  rw [← prepared_reading prepared]
  refine finishes_bind (finishes_mono (finishes_noted (score_finishes nonneg)) (fun _ noted => noted) fun _ => .inl) ?_
  rintro score ⟨scored,positive⟩
  simp only [requireScore,bind_ok,canonical_exact] at scored
  obtain ⟨_,_,asked,rfl⟩ := scored
  refine finishes_bind (finishes_mono (finishes_noted (ruleset_finishes parsed)) (fun _ noted => noted) fun _ => .inl) ?_
  rintro _ ⟨required,_⟩
  have literals := ruleset_literals required
  have rest := rules_end evaluatedAt ready (rules_sorted parsed) empty_fair (ruleset_budget parsed)
  apply finishes_after prepared
  refine finishes_bind (finishes_mono (finishes_noted rest) (fun _ noted => noted) ?_) ?_
  · intro error raised
    rcases raised with excused | ⟨null,earlier,rule,later,t,split,before,reaches⟩
    · exact .inl excused
    · have typed' : ∀ rule ∈ earlier, WellTyped rule.expression := fun rule listed => typed rule (by simp [split,listed])
      refine .inr (.inl ⟨null,⟨d,rfl,asked⟩,literals,earlier,rule,later,t.totalScore,t.missingScore,split,?_,?_⟩)
      · exact tallied_passed ready typed' (rules_tallied before)
      · exact reaches_met ready reaches (typed rule (by simp [split]))
  · rintro t ⟨ran,fair⟩
    have passed := tallied_passed ready typed (rules_tallied ran)
    obtain ⟨counted,times⟩ := rules_recorded ran
    refine finishes_bind (finishes_mono (finishes_noted (scores_end fair.total fair.missing)) (fun _ noted => noted) fun _ => .inl) ?_
    rintro potential ⟨added,_⟩
    refine finishes_mono (evaluation_finishes fair.total positive fair.short (times (by simp [Tally.empty]))) (fun _ done => done) ?_
    intro error raised
    rcases raised with excused | ⟨same,written,outside,bounded,again⟩
    · exact .inl excused
    · refine .inr (.inr ⟨same,outside,?_,⟨d,rfl,asked,again⟩,literals,_,_,potential,passed,added,bounded⟩)
      intro none
      subst none
      exact written (List.length_eq_zero_iff.mp counted)

theorem rules_refused {values : List (String × EvidenceValue)} {evaluatedAt : AwareDatetime} {earlier later : List Rule}
    {rule : Rule} {remaining : Int} {t t' : Tally} {error : PyError}
    (before : evaluateRules values evaluatedAt earlier remaining t = .ok t')
    (budget : ((((earlier ++ rule :: later).map fun rule => rule.expression.size).sum : Nat) : Int) ≤ remaining)
    (refused : meaning values rule.expression = .error error) :
    evaluateRules values evaluatedAt (earlier ++ rule :: later) remaining t = .error error := by
  induction earlier generalizing remaining t with
  | nil =>
    simp only [List.nil_append,List.map_cons,List.sum_cons] at budget
    rw [List.nil_append,evaluateRules,meaning_refused (by simp only; omega) refused]
    rfl
  | cons first rest ih =>
    simp only [List.cons_append,List.map_cons,List.sum_cons] at budget
    simp only [evaluateRules,bind_ok,Prod.exists] at before
    obtain ⟨v,s,evaluated,judged,status,outcome,record,recorded,after⟩ := before
    have left := (evaluated_meaning evaluated).2
    simp only at left
    rw [List.cons_append,evaluateRules,evaluated]
    simp only [Bind.bind,Except.bind,outcome,recorded]
    exact ih after (by omega)

theorem score_required {d : Decimal} (nonneg : 0 ≤ d.toRat) (bounded : requireBoundedDecimal d = .ok ()) (label : String) :
    requireScore (some d) label = .ok (canonicalForm d) := by
  simp only [requireScore,raiseIf,not_lt.mpr nonneg,decide_false,Bool.false_eq_true,if_false,canonicalDecimal,bounded,Bind.bind,
    Except.bind,Pure.pure,Except.pure]

theorem null_raises (parsed : ParsedRules raws rules) {ruleInput : RuleInput} {threshold : Option Decimal}
    (valid : ValidThreshold threshold) (evaluatedAt : AwareDatetime) (stops : StopsAtNullIf rules ruleInput.reading threshold) :
    evaluateRuleset rules ruleInput threshold evaluatedAt = .error nullError := by
  obtain ⟨⟨d,rfl,asked⟩,literals,earlier,rule,later,matched,missing,split,passed,meets⟩ := stops
  obtain ⟨_,same,nonneg⟩ := valid
  cases same
  obtain ⟨values,prepared⟩ := input_prepared ruleInput
  rw [← prepared_reading prepared] at passed meets
  have ready := prepared_values prepared
  have sorted := rules_sorted parsed
  have budget := ruleset_budget parsed
  rw [split] at budget
  have before : ∀ rule ∈ earlier, Sorted rule := fun rule listed => sorted rule (by simp [split,listed])
  have affordable : ((earlier.map fun rule => rule.expression.size).sum : Nat) ≤ (MAX_EVALUATION_STEPS : Int) := by
    simp only [List.map_append,List.sum_append] at budget
    omega
  obtain ⟨t,ran⟩ := passed_evaluated (t := .empty) evaluatedAt ready before affordable passed.answered passed.matched passed.missing
  have refused : evaluateRules values evaluatedAt rules MAX_EVALUATION_STEPS .empty = .error nullError := by
    rw [split]
    exact rules_refused ran budget (reached_raises (met_reaches ready meets (sorted rule (by simp [split])).typed))
  rw [evaluateRuleset,score_required nonneg asked,ruleset_required parsed literals,prepared]
  simp only [Bind.bind,Except.bind,refused]

theorem clock_raises (parsed : ParsedRules raws rules) {ruleInput : RuleInput} {threshold : Option Decimal}
    (valid : ValidThreshold threshold) {evaluatedAt : AwareDatetime}
    (stops : StopsAtClock rules ruleInput.reading threshold evaluatedAt) :
    evaluateRuleset rules ruleInput threshold evaluatedAt = .error outOfRange := by
  obtain ⟨outside,listed,⟨d,rfl,asked,again⟩,literals,matched,missing,potential,passed,added,bounded⟩ := stops
  obtain ⟨_,same,nonneg⟩ := valid
  cases same
  obtain ⟨values,prepared⟩ := input_prepared ruleInput
  rw [← prepared_reading prepared] at passed
  have ready := prepared_values prepared
  obtain ⟨t,ran⟩ := passed_evaluated (t := .empty) evaluatedAt ready (rules_sorted parsed) (ruleset_budget parsed) passed.answered
    passed.matched passed.missing
  have same := tallied_passed ready (sorted_typed parsed) (rules_tallied ran)
  have total : t.totalScore = matched := Except.ok.inj (same.matched.symm.trans passed.matched)
  have unknown : t.missingScore = missing := Except.ok.inj (same.missing.symm.trans passed.missing)
  subst total unknown
  obtain ⟨counted,times⟩ := rules_recorded ran
  have fair := finishes_returned (rules_end evaluatedAt ready (rules_sorted parsed) empty_fair (ruleset_budget parsed)) ran
  have written : t.records ≠ [] := by
    intro none
    rw [none] at counted
    simp only [Tally.empty,List.length_nil,Nat.zero_add] at counted
    exact listed (List.length_eq_zero_iff.mp counted.symm)
  rw [evaluateRuleset,score_required nonneg asked,ruleset_required parsed literals,prepared]
  simp only [Bind.bind,Except.bind,ran,added]
  refine evaluation_refused fair.total ?_ fair.short (times (by simp [Tally.empty])) written outside bounded again
  simp only [canonical_value]
  exact nonneg

theorem range_unexcused : ¬Excused outOfRange := fun excused => by cases excused

theorem threshold_refused (rules : List Rule) (ruleInput : RuleInput) (evaluatedAt : AwareDatetime)
    {threshold : Option Decimal} (invalid : ¬ValidThreshold threshold) :
    ∃ error, evaluateRuleset rules ruleInput threshold evaluatedAt = .error error ∧ ¬Excused error := by
  cases threshold with
  | none => exact ⟨⟨.ruleEvaluationError,_⟩,rfl,fun excused => absurd (excused_message excused) (by decide)⟩
  | some d =>
    have negative : decide (d.toRat < 0) = true := by
      simp only [ValidThreshold,Option.some.injEq,exists_eq_left',not_le] at invalid
      exact decide_eq_true invalid
    refine ⟨⟨.ruleEvaluationError,"threshold must not be negative"⟩,?_,fun excused => absurd (excused_message excused) (by decide)⟩
    rw [evaluateRuleset,requireScore,raiseIf,if_pos negative]
    rfl

-- What may be raised, what an evaluated node comes to, and what an absent path does.
structure TypeSound (rules : List Rule) (ruleInput : RuleInput) (threshold : Option Decimal)
    (evaluatedAt : AwareDatetime) : Prop where
  raised : ∀ error, evaluateRuleset rules ruleInput threshold evaluatedAt = .error error → Excused error
  evaluated : ∀ values, prepareValues ruleInput.values = .ok values → ∀ rule ∈ rules, ∀ node ∈ rule.expression.nodes,
    ∀ s v s', evaluateExpression values node s = .ok (v,s') → v.kind = node.kind ∧
      (v.isMissing = false → v.value.kind = node.kind) ∧
      (v.isMissing = true → ∃ name kind, .path name kind ∈ node.nodes ∧ ruleInput.values.lookup name = none)
  absent : ∀ values, prepareValues ruleInput.values = .ok values → ∀ rule ∈ rules, ∀ name kind,
    .path name kind ∈ rule.expression.nodes → ruleInput.values.lookup name = none → ∀ s, 0 < s.remaining →
      ∃ s', evaluateExpression values (.path name kind) s = .ok (⟨kind,.null,true⟩,s')

theorem nodes_evaluated (parsed : ParsedRules raws rules) {ruleInput : RuleInput} {values : List (String × EvidenceValue)}
    (prepared : prepareValues ruleInput.values = .ok values) {rule : Rule} (listed : rule ∈ rules) {node : Expression}
    (below : node ∈ rule.expression.nodes) {s s' : Evaluation} {v : EvidenceValue}
    (ran : evaluateExpression values node s = .ok (v,s')) : v.kind = node.kind ∧
      (v.isMissing = false → v.value.kind = node.kind) ∧
      (v.isMissing = true → ∃ name kind, .path name kind ∈ node.nodes ∧ ruleInput.values.lookup name = none) := by
  have typed := typed_nodes (rules_sorted parsed rule listed).typed node below
  obtain ⟨⟨kinds,value⟩,absent⟩ := finishes_returned (meaning_sound (prepared_values prepared) typed) (evaluated_meaning ran).1
  refine ⟨kinds,value,fun missing => ?_⟩
  obtain ⟨name,kind,path,none⟩ := absent missing
  exact ⟨name,kind,path,(prepared_absent prepared name).mp none⟩

theorem absent_evaluated (parsed : ParsedRules raws rules) {ruleInput : RuleInput} {values : List (String × EvidenceValue)}
    (prepared : prepareValues ruleInput.values = .ok values) {rule : Rule} (listed : rule ∈ rules) {name : String}
    {kind : EvidenceKind} (below : .path name kind ∈ rule.expression.nodes) (absent : ruleInput.values.lookup name = none)
    {s : Evaluation} (left : 0 < s.remaining) :
    ∃ s', evaluateExpression values (.path name kind) s = .ok (⟨kind,.null,true⟩,s') := by
  have typed := typed_nodes (rules_sorted parsed rule listed).typed _ below
  cases typed with
  | path registered =>
    have means : meaning values (.path name kind) = .ok ⟨kind,.null,true⟩ := by
      rw [meaning,missing_created (registered_kind registered)]
      simp only [Bind.bind,Except.bind,registered_path registered,(prepared_absent prepared name).mpr absent]
      rfl
    have one : (Expression.path name kind).size = 1 := rfl
    obtain ⟨s',ran,_⟩ := meaning_evaluated (s := s) (by rw [one]; omega) means
    exact ⟨s',ran⟩

-- Evaluation is sound for the types unless the threshold is no score, an if of the NULL kind is met
-- with a missing condition, or a time that UTC cannot show comes to be written.
theorem evaluation_sound (raws : List RawJson) (rules : List Rule) (parsed : parseRules raws = .ok rules)
    (ruleInput : RuleInput) (threshold : Option Decimal) (evaluatedAt : AwareDatetime) :
    TypeSound rules ruleInput threshold evaluatedAt ↔
      ValidThreshold threshold ∧ ¬StopsAtNullIf rules ruleInput.reading threshold ∧
        ¬StopsAtClock rules ruleInput.reading threshold evaluatedAt := by
  have built := rules_built parsed
  constructor
  · intro sound
    have valid : ValidThreshold threshold := by
      by_contra invalid
      obtain ⟨error,refused,unexcused⟩ := threshold_refused rules ruleInput evaluatedAt invalid
      exact unexcused (sound.raised error refused)
    refine ⟨valid,?_,?_⟩
    · intro stops
      exact absurd (excused_message (sound.raised _ (null_raises built valid evaluatedAt stops))) (by decide)
    · intro stops
      exact range_unexcused (sound.raised _ (clock_raises built valid stops))
  · intro ⟨valid,clear,shown⟩
    refine ⟨?_,?_,?_⟩
    · intro error refused
      rcases finishes_raised (ruleset_stopped built ruleInput valid evaluatedAt) refused with excused | ⟨_,stops⟩ | ⟨_,stops⟩
      · exact excused
      · exact absurd stops clear
      · exact absurd stops shown
    · intro values prepared rule listed node below s v s' ran
      exact nodes_evaluated built prepared listed below ran
    · intro values prepared rule listed name kind below absent s left
      exact absent_evaluated built prepared listed below absent left

end Rulesets

section NullIf

def noEvidence : RuleInput := ⟨{values := []},by decide,by with_unfolding_all rfl⟩

def epoch : AwareDatetime := ⟨0,0,by decide⟩

theorem short_clear {reading : Reading} : ¬MeetsNullIf reading shortExpression := by
  intro meets
  obtain ⟨operands,listed⟩ := met_null meets
  simp [shortExpression,Expression.nodes,Expression.nodesOf] at listed

-- The first microsecond of the year 1, eight hours ahead of UTC.
def earliest : AwareDatetime := ⟨Clocks.DATETIME_MIN,28800000000,by decide⟩

theorem short_passed : Passed noEvidence.reading [⟨"short",shortExpression,⟨false,1,0⟩⟩] ⟨false,1,0⟩ ⟨false,0,0⟩ :=
  ⟨by decide +kernel,by decide +kernel,by decide +kernel⟩

-- The evaluation of one comparison of two numbers is sound today and not at the first time of the year 1.
theorem short_sound : TypeSound [⟨"short",shortExpression,⟨false,1,0⟩⟩] noEvidence (some ⟨false,1,0⟩) epoch ∧
    ¬TypeSound [⟨"short",shortExpression,⟨false,1,0⟩⟩] noEvidence (some ⟨false,1,0⟩) earliest := by
  constructor
  · refine (evaluation_sound [shortRule] _ short_rules noEvidence _ epoch).mpr ⟨⟨_,rfl,by rw [toRat_nonneg]; decide⟩,?_,?_⟩
    · intro ⟨_,_,earlier,rule,later,_,_,split,_,meets⟩
      have last : rule ∈ [⟨"short",shortExpression,⟨false,1,0⟩⟩] := by rw [split]; simp
      rw [List.mem_singleton.mp last] at meets
      exact short_clear meets
    · exact fun stops => stops.outside (by decide)
  · intro sound
    have clear := ((evaluation_sound [shortRule] _ short_rules noEvidence _ earliest).mp sound).2.2
    refine clear ⟨by decide,by simp,⟨_,rfl,by decide +kernel,by decide +kernel⟩,?_,_,_,⟨false,1,0⟩,short_passed,by decide +kernel,by decide +kernel⟩
    intro rule listed
    rw [List.mem_singleton.mp listed]
    decide +kernel

-- {"eq": [{"if": [{"var": "market.is_actionable"}, null, null]}, null]}
def nullIf : RawJson :=
  .obj [("eq",.arr [.obj [("if",.arr [.obj [("var",.str "market.is_actionable")],.null,.null])],.null])]

def nullIfExpression : Expression :=
  .operation .eq [.operation .if [.path "market.is_actionable" .boolean,.literal .null .null,.literal .null .null] .null,
    .literal .null .null] .boolean

-- The rules are accepted, the path is absent, and the evaluation raises.
theorem null_if_raises :
    parseRules [.obj [("id",.str "null-if"),("expression",nullIf)]] = .ok [⟨"null-if",nullIfExpression,⟨false,1,0⟩⟩] ∧
    evaluateRuleset [⟨"null-if",nullIfExpression,⟨false,1,0⟩⟩] noEvidence (some ⟨false,1,0⟩) epoch =
      .error ⟨.ruleEvaluationError,"missing evidence requires a non-null type and no value"⟩ := by
  constructor <;> with_unfolding_all rfl

end NullIf
end SwapMonitor.Rules
