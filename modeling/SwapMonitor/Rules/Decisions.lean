import SwapMonitor.Rules.Tallies

namespace SwapMonitor.Rules

section Growth
variable {values values' : List (String × EvidenceValue)}

-- No node asks whether a value is missing.
def Plain (e : Expression) : Prop := ∀ operands kind, .operation .exists operands kind ∉ e.nodes

theorem plain_operand {e operand : Expression} (plain : Plain e) (listed : operand ∈ e.operands) : Plain operand :=
  fun operands kind below => plain operands kind (node_operand listed below)

-- A value that came of some evidence is still what comes of more.
def Kept (values values' : List (String × EvidenceValue)) (e : Expression) : Prop :=
  ∀ v v', meaning values e = .ok v → meaning values' e = .ok v' → v.isMissing = false → v' = v

theorem missing_absent {kind : EvidenceKind} {v : EvidenceValue} (created : EvidenceValue.missing kind = .ok v) :
    v.isMissing = true := by
  simp only [EvidenceValue.missing,check_ok,pure_ok] at created
  rw [← created.2]

theorem operands_kept {operands : List Expression} (kept : ∀ operand ∈ operands, Kept values values' operand)
    {results results' : List EvidenceValue} (one : meanings values operands = .ok results)
    (two : meanings values' operands = .ok results') (present : ∀ v ∈ results, v.isMissing = false) : results' = results := by
  induction operands generalizing results results' with
  | nil =>
    cases one
    cases two
    rfl
  | cons operand rest ih =>
    obtain ⟨here,later⟩ := List.forall_mem_cons.mp kept
    simp only [meanings,bind_ok,pure_ok] at one two
    obtain ⟨v,means,others,more,rfl⟩ := one
    obtain ⟨v',means',others',more',rfl⟩ := two
    rw [List.forall_mem_cons] at present
    rw [here v v' means means' present.1,ih later more more' present.2]

theorem operation_kept {operator : Operator} {operands : List Expression} {kind : EvidenceKind}
    (choice : operator ≠ .if) (plain : operator ≠ .exists) (kept : ∀ operand ∈ operands, Kept values values' operand) :
    Kept values values' (.operation operator operands kind) := by
  intro v v' means means' present
  rw [meaning_operation choice,bind_ok] at means means'
  obtain ⟨results,one,applied⟩ := means
  obtain ⟨results',two,applied'⟩ := means'
  by_cases absent : results.any EvidenceValue.isMissing = true
  · rw [apply_missing plain absent] at applied
    rw [missing_absent applied] at present
    cases present
  · rw [operands_kept kept one two (by simpa using absent),applied,Except.ok.injEq] at applied'
    exact applied'.symm

theorem if_kept {condition yes no : Expression} {more : List Expression} {kind : EvidenceKind}
    (kept : ∀ operand ∈ [condition,yes,no], Kept values values' operand) :
    Kept values values' (.operation .if (condition :: yes :: no :: more) kind) := by
  intro v v' means means' present
  simp only [meaning,bind_ok] at means means'
  obtain ⟨truth,tested,means⟩ := means
  obtain ⟨truth',tested',means'⟩ := means'
  cases missing : truth.isMissing with
  | true =>
    simp only [missing,if_true] at means
    rw [missing_absent means] at present
    cases present
  | false =>
    -- the condition was known, so the same branch is taken
    rw [kept condition (by simp) truth truth' tested tested' missing] at means'
    simp only [missing,Bool.false_eq_true,if_false] at means means'
    obtain ⟨kind',value,_⟩ := truth
    cases kind' <;> cases value <;> try simp at means
    rename_i taken
    cases taken with
    | true => exact kept yes (by simp) v v' means means' present
    | false => exact kept no (by simp) v v' means means' present

theorem meaning_kept (grown : ∀ name v, values.lookup name = some v → values'.lookup name = some v) (e : Expression)
    (plain : Plain e) : Kept values values' e := by
  induction e using Expression.tree with
  | literal kind value =>
    intro v v' means means' _
    rw [meaning] at means means'
    rw [means] at means'
    cases means'
    rfl
  | path name kind =>
    intro v v' means means' present
    simp only [meaning,bind_ok,pure_ok] at means means'
    obtain ⟨absent,created,path,read,rfl⟩ := means
    obtain ⟨absent',_,path',read',rfl⟩ := means'
    rw [path_created read,path_created read'] at *
    cases found : values.lookup name with
    | none =>
      simp only [found,Option.getD_none] at present
      rw [missing_absent created] at present
      cases present
    | some v => simp [grown name v found]
  | operation operator operands kind ih =>
    have kept : ∀ operand ∈ operands, Kept values values' operand := fun operand listed =>
      ih operand listed (plain_operand plain listed)
    by_cases choice : operator = .if
    · subst choice
      have short : operands.length < 3 → Kept values values' (.operation .if operands kind) := by
        intro few v v' means
        rw [meaning] at means
        · simp at means
        · intro condition yes no more same
          rw [same] at few
          simp only [List.length_cons] at few
          omega
      rcases operands with _ | ⟨condition,_ | ⟨yes,_ | ⟨no,more⟩⟩⟩
      · exact short (by simp)
      · exact short (by simp)
      · exact short (by simp)
      · exact if_kept fun operand listed => kept operand (by simp at listed ⊢; tauto)
    · refine operation_kept choice ?_ kept
      intro presence
      subst presence
      exact plain operands kind (node_self _)

end Growth

section Counting
variable {values values' : List (String × EvidenceValue)} {rules : List Rule} {rule : Rule}

theorem counts_exact {status : EvidenceStatus} {v : EvidenceValue} (means : meaning values rule.expression = .ok v) :
    counts values status rule = true ↔ statusOf v = status := by
  rw [counts,means]
  exact decide_eq_true_iff

-- More evidence leaves a rule that counted for or against as it was.
theorem counts_kept (grown : ∀ name v, values.lookup name = some v → values'.lookup name = some v)
    (plain : Plain rule.expression) {v v' : EvidenceValue} (means : meaning values rule.expression = .ok v)
    (means' : meaning values' rule.expression = .ok v') {status : EvidenceStatus} (known : status ≠ .missing)
    (counted : counts values status rule = true) : counts values' status rule = true := by
  rw [counts_exact means] at counted
  rw [counts_exact means']
  cases missing : v.isMissing with
  | true =>
    rw [statusOf,missing] at counted
    exact absurd counted.symm known
  | false => rw [meaning_kept grown rule.expression plain v v' means means' missing,counted]

theorem counts_one {status status' : EvidenceStatus} (one : counts values status rule = true)
    (two : counts values status' rule = true) : status = status' := by
  unfold counts at one two
  cases means : meaning values rule.expression with
  | error error => simp [means] at one
  | ok v =>
    simp only [means,decide_eq_true_eq] at one two
    rw [← one,← two]

theorem weigh_mono {p q : Rule → Bool} (weights : ∀ rule ∈ rules, 0 ≤ rule.weight.toRat)
    (more : ∀ rule ∈ rules, p rule = true → q rule = true) : weigh (rules.filter p) ≤ weigh (rules.filter q) := by
  induction rules with
  | nil => simp [weigh]
  | cons rule rest ih =>
    obtain ⟨here,later⟩ := List.forall_mem_cons.mp more
    obtain ⟨nonneg,nonnegs⟩ := List.forall_mem_cons.mp weights
    have tail := ih nonnegs later
    unfold weigh at tail ⊢
    cases one : p rule <;> cases two : q rule
    · simpa [one,two] using tail
    · simp only [one,two,List.filter_cons,if_true,Bool.false_eq_true,if_false,List.map_cons,List.sum_cons]
      linarith
    · rw [here one] at two
      cases two
    · simpa [one,two] using tail

end Counting

section Decided
variable {raws : List RawJson} {rules : List Rule} {ruleInput : RuleInput} {threshold : Option Decimal} {r : RuleEvaluation}

theorem weights_near (parsed : ParsedRules raws rules) : ∀ rule ∈ rules, Near rule.weight := by
  intro rule listed
  obtain ⟨raw,built⟩ := rules_each parsed listed
  obtain ⟨d,bounded,same⟩ := built.canonical
  exact same ▸ canonical_near bounded

theorem weights_positive (parsed : ParsedRules raws rules) : ∀ rule ∈ rules, 0 ≤ rule.weight.toRat :=
  fun rule listed => (rules_sorted parsed rule listed).weight.le

-- When no sum loses a digit, the scores are those of the counted rules.
theorem decision_exact (near : ∀ rule ∈ rules, Near rule.weight) (exact : ExactWeights rules)
    (d : Decision rules ruleInput threshold r) :
    d.tally.totalScore.toRat = weigh (rules.filter (counts d.values .matched)) ∧
      d.potential.toRat = weigh (rules.filter fun rule => counts d.values .matched rule || counts d.values .missing rule) := by
  obtain ⟨total,totalNear⟩ := part_exact exact near List.filter_sublist d.tallied.total
  obtain ⟨missing,missingNear⟩ := part_exact exact near List.filter_sublist d.tallied.missingScore
  have split := weigh_split rules (counts d.values .matched) (counts d.values .missing) (by
    intro rule _ ⟨one,two⟩
    cases counts_one one two)
  have held := exact (rules.filter fun rule => counts d.values .matched rule || counts d.values .missing rule)
    List.filter_sublist
  change Representable (weigh _) at held
  rw [split,← total,← missing] at held
  refine ⟨total,?_⟩
  rw [split,← total,← missing]
  exact (scores_exact d.added totalNear missingNear held).1

theorem matched_ids (d : Decision rules ruleInput threshold r) :
    r.matchedRuleIds = (rules.filter (counts d.values .matched)).map Rule.ruleId := by
  rw [d.matched,d.tallied.matched]
  rfl

theorem failed_ids (d : Decision rules ruleInput threshold r) :
    r.failedRuleIds = (rules.filter (counts d.values .failed)).map Rule.ruleId := by
  rw [d.failed,d.tallied.failed]
  rfl

theorem missing_ids (d : Decision rules ruleInput threshold r) :
    r.missingRuleIds = (rules.filter (counts d.values .missing)).map Rule.ruleId := by
  rw [d.missing,d.tallied.missing]
  rfl

theorem status_matched (d : Decision rules ruleInput threshold r) :
    r.status = .matched ↔ d.asked.toRat ≤ d.tally.totalScore.toRat := by
  rw [d.status]
  split
  · simpa
  · rename_i short
    split <;> simpa using short

theorem status_failed (d : Decision rules ruleInput threshold r) : r.status = .failed ↔
    d.tally.totalScore.toRat < d.asked.toRat ∧ d.potential.toRat < d.asked.toRat := by
  rw [d.status]
  split
  · rename_i reached
    simp [reached]
  · rename_i short
    split
    · rename_i possible
      simp [possible]
    · rename_i impossible
      simp only [true_iff]
      exact ⟨not_le.mp short,not_le.mp impossible⟩

end Decided

-- Every path of the one input is in the other with the same value.
def Extends (less more : RuleInput) : Prop :=
  ∀ path value, less.values.lookup path = some value → more.values.lookup path = some value

section Monotone
variable {raws : List RawJson} {rules : List Rule} {less more : RuleInput}

theorem prepared_grown (extended : Extends less more) {values values' : List (String × EvidenceValue)}
    (prepared : prepareValues less.values = .ok values) (prepared' : prepareValues more.values = .ok values') (name : String)
    (v : EvidenceValue) (found : values.lookup name = some v) : values'.lookup name = some v := by
  rcases prepared_lookup prepared name with ⟨_,absent⟩ | ⟨value,kind,w,given,same,registered,created⟩
  · rw [absent] at found
    cases found
  · rcases prepared_lookup prepared' name with ⟨absent,_⟩ | ⟨value',kind',w',given',same',registered',created'⟩
    · rw [extended name value given] at absent
      cases absent
    · rw [extended name value given,Option.some.injEq] at given'
      rw [registered,Except.ok.injEq] at registered'
      subst given' registered'
      rw [created,Except.ok.injEq] at created'
      rw [same'] at *
      rw [← found,same,created']

section Two
variable {r r' : RuleEvaluation} {threshold : Option Decimal} (one : Decision rules less threshold r)
  (two : Decision rules more threshold r')
include one two

theorem verdicts_kept (extended : Extends less more) (plain : ∀ rule ∈ rules, Plain rule.expression) :
    ∀ rule ∈ rules, ∀ status, status ≠ .missing → counts one.values status rule = true →
      counts two.values status rule = true := by
  intro rule listed status known counted
  obtain ⟨v,means⟩ := one.tallied.evaluated rule listed
  obtain ⟨v',means'⟩ := two.tallied.evaluated rule listed
  exact counts_kept (prepared_grown extended one.prepared two.prepared) (plain rule listed) means means' known counted

-- The score rises, and what it may still rise to falls.
theorem scores_kept (parsed : ParsedRules raws rules) (exact : ExactWeights rules)
    (kept : ∀ rule ∈ rules, ∀ status, status ≠ .missing → counts one.values status rule = true →
      counts two.values status rule = true) :
    one.tally.totalScore.toRat ≤ two.tally.totalScore.toRat ∧ two.potential.toRat ≤ one.potential.toRat ∧
      two.tally.totalScore.toRat ≤ two.potential.toRat := by
  obtain ⟨total,potential⟩ := decision_exact (weights_near parsed) exact one
  obtain ⟨total',potential'⟩ := decision_exact (weights_near parsed) exact two
  have positive := weights_positive parsed
  rw [total,total',potential,potential']
  refine ⟨?_,?_,?_⟩
  · exact weigh_mono positive fun rule listed => kept rule listed .matched (by simp)
  · refine weigh_mono positive fun rule listed counted => ?_
    obtain ⟨v,means⟩ := one.tallied.evaluated rule listed
    rw [Bool.or_eq_true,counts_exact means,counts_exact means]
    cases status : statusOf v with
    | matched => exact .inl rfl
    | missing => exact .inr rfl
    | failed =>
      have still := kept rule listed .failed (by simp) ((counts_exact means).mpr status)
      rw [Bool.or_eq_true] at counted
      rcases counted with counted | counted
      · cases counts_one still counted
      · cases counts_one still counted
  · exact weigh_mono positive fun rule _ counted => by simp [counted]

end Two

-- More evidence never turns a decision round: only what was insufficient may change.
theorem decision_kept (raws : List RawJson) (rules : List Rule) (parsed : parseRules raws = .ok rules)
    (plain : ∀ rule ∈ rules, Plain rule.expression) (exact : ExactWeights rules) (threshold : Option Decimal)
    (evaluatedAt evaluatedAt' : AwareDatetime) (less more : RuleInput) (extended : Extends less more)
    (r r' : RuleEvaluation) (ran : evaluateRuleset rules less threshold evaluatedAt = .ok r)
    (ran' : evaluateRuleset rules more threshold evaluatedAt' = .ok r') :
    (∀ ruleId ∈ r.matchedRuleIds, ruleId ∈ r'.matchedRuleIds) ∧ (∀ ruleId ∈ r.failedRuleIds, ruleId ∈ r'.failedRuleIds) ∧
      (r.status = .matched → r'.status = .matched) ∧ (r.status = .failed → r'.status = .failed) := by
  obtain ⟨one⟩ := evaluation_decided ran
  obtain ⟨two⟩ := evaluation_decided ran'
  have kept := verdicts_kept one two extended plain
  obtain ⟨rises,falls,within⟩ := scores_kept one two (rules_built parsed) exact kept
  have same : one.asked = two.asked := Option.some.inj (one.given.symm.trans two.given)
  have ids : ∀ status, status ≠ .missing → ∀ ruleId ∈ (rules.filter (counts one.values status)).map Rule.ruleId,
      ruleId ∈ (rules.filter (counts two.values status)).map Rule.ruleId := by
    intro status known ruleId listed
    obtain ⟨rule,member,rfl⟩ := List.mem_map.mp listed
    obtain ⟨listed,counted⟩ := List.mem_filter.mp member
    exact List.mem_map_of_mem (List.mem_filter.mpr ⟨listed,kept rule listed status known counted⟩)
  refine ⟨?_,?_,?_,?_⟩
  · rw [matched_ids one,matched_ids two]
    exact ids .matched (by simp)
  · rw [failed_ids one,failed_ids two]
    exact ids .failed (by simp)
  · rw [status_matched one,status_matched two,← same]
    intro reached
    exact reached.trans rises
  · rw [status_failed one,status_failed two,← same]
    intro ⟨_,short⟩
    exact ⟨(within.trans falls).trans_lt short,falls.trans_lt short⟩

-- Three rules that read one flag each; the third flag is first absent and then true.
def flagRule (ruleId path : String) : RawJson := .obj [("id",.str ruleId),("expression",.obj [("var",.str path)])]

def flag (ruleId path : String) : Rule := ⟨ruleId,.path path .boolean,⟨false,1,0⟩⟩

def flagRules : List RawJson := [flagRule "actionable" "market.is_actionable",flagRule "stale" "market.data_quality.stale",
  flagRule "complete" "market.data_quality.bars_complete"]

def flags : List Rule := [flag "actionable" "market.is_actionable",flag "stale" "market.data_quality.stale",
  flag "complete" "market.data_quality.bars_complete"]

def someFlags : RuleInput :=
  ⟨{values := [("market.is_actionable",.boolean true),("market.data_quality.stale",.boolean false)]},by decide,
    by with_unfolding_all rfl⟩

def allFlags : RuleInput :=
  ⟨{values := [("market.is_actionable",.boolean true),("market.data_quality.stale",.boolean false),
    ("market.data_quality.bars_complete",.boolean true)]},by decide,by with_unfolding_all rfl⟩

theorem flags_parsed : parseRules flagRules = .ok flags := by with_unfolding_all rfl

-- Weights of one add up to their number.
theorem units_exact {rules : List Rule} (units : ∀ rule ∈ rules, rule.weight = ⟨false,1,0⟩) (few : rules.length < 10 ^ CONTEXT_PRECISION) :
    ExactWeights rules := by
  intro part listed
  have sum : (part.map fun rule => rule.weight.toRat).sum = (part.length : ℤ) := by
    have each : ∀ rule ∈ part, rule.weight.toRat = 1 := by
      intro rule member
      rw [units rule (listed.subset member)]
      simp [toRat_parts]
    clear listed
    induction part with
    | nil => rfl
    | cons rule rest ih =>
      obtain ⟨here,later⟩ := List.forall_mem_cons.mp each
      rw [List.map_cons,List.sum_cons,here,ih later,List.length_cons]
      push_cast
      ring
  refine ⟨part.length,0,by rw [sum]; simp,?_⟩
  have short := listed.length_le
  omega

theorem flags_exact : ExactWeights flags := units_exact (by decide) (by decide)

theorem flags_plain : ∀ rule ∈ flags, Plain rule.expression := by
  simp [flags,flag,Plain,Expression.nodes]

theorem flags_extend : Extends someFlags allFlags := by
  intro path value found
  simp only [someFlags,allFlags,List.lookup_cons,List.lookup_nil] at found ⊢
  split at found
  · simpa using found
  · split at found
    · simpa using found
    · cases found

-- What an evaluation reports of the flags.
def reported (rules : List Rule) (ruleInput : RuleInput) (threshold : Nat) : Option (List String × List String × RulesetStatus) :=
  (evaluateRuleset rules ruleInput (some ⟨false,threshold,0⟩) epoch).toOption.map fun r => (r.matchedRuleIds,r.failedRuleIds,r.status)

theorem reported_returned {rules : List Rule} {ruleInput : RuleInput} {threshold : Nat} {matched failed : List String}
    {status : RulesetStatus} (found : reported rules ruleInput threshold = some (matched,failed,status)) :
    ∃ r, evaluateRuleset rules ruleInput (some ⟨false,threshold,0⟩) epoch = .ok r ∧ r.matchedRuleIds = matched ∧
      r.failedRuleIds = failed ∧ r.status = status := by
  unfold reported at found
  cases ran : evaluateRuleset rules ruleInput (some ⟨false,threshold,0⟩) epoch with
  | error error => simp [ran,Except.toOption] at found
  | ok r =>
    simp only [ran,Except.toOption,Option.map_some,Option.some.injEq,Prod.mk.injEq] at found
    exact ⟨r,rfl,found⟩

theorem some_reported : reported flags someFlags 1 = some (["actionable"],["stale"],.matched) ∧
    reported flags someFlags 3 = some (["actionable"],["stale"],.failed) := by constructor <;> decide +kernel

theorem all_reported : reported flags allFlags 1 = some (["actionable","complete"],["stale"],.matched) ∧
    reported flags allFlags 3 = some (["actionable","complete"],["stale"],.failed) := by constructor <;> decide +kernel

-- The rule that was missing is now matched; the others and both statuses are as they were.
theorem actionable_kept : (∃ r r', evaluateRuleset flags someFlags (some ⟨false,1,0⟩) epoch = .ok r ∧
      evaluateRuleset flags allFlags (some ⟨false,1,0⟩) epoch = .ok r' ∧ r.status = .matched ∧ r'.status = .matched ∧
      "actionable" ∈ r'.matchedRuleIds ∧ "stale" ∈ r'.failedRuleIds) ∧
    ∃ r r', evaluateRuleset flags someFlags (some ⟨false,3,0⟩) epoch = .ok r ∧
      evaluateRuleset flags allFlags (some ⟨false,3,0⟩) epoch = .ok r' ∧ r.status = .failed ∧ r'.status = .failed := by
  constructor
  · obtain ⟨r,ran,matched,failed,status⟩ := reported_returned some_reported.1
    obtain ⟨r',ran',_⟩ := reported_returned all_reported.1
    have kept := decision_kept flagRules flags flags_parsed flags_plain flags_exact _ _ _ _ _ flags_extend r r' ran ran'
    exact ⟨r,r',ran,ran',status,kept.2.2.1 status,kept.1 _ (by simp [matched]),kept.2.1 _ (by simp [failed])⟩
  · obtain ⟨r,ran,_,_,status⟩ := reported_returned some_reported.2
    obtain ⟨r',ran',_⟩ := reported_returned all_reported.2
    have kept := decision_kept flagRules flags flags_parsed flags_plain flags_exact _ _ _ _ _ flags_extend r r' ran ran'
    exact ⟨r,r',ran,ran',status,kept.2.2.2 status⟩

end Monotone
end SwapMonitor.Rules
