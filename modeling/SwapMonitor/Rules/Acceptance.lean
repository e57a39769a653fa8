import SwapMonitor.Rules.Transport

namespace SwapMonitor.Rules
open Arithmetic Traversal

-- What an accepted rule was spelled as.
structure Spelled (members : List (String × RawJson)) (rule : Rule) where
  ruleId : String
  rawExpression : RawJson
  expression : Expression
  weight : Decimal
  named : members.lookup "id" = some (.str ruleId)
  expressed : members.lookup "expression" = some rawExpression
  keys : ∀ member ∈ members, member.1 ∈ RULE_KEYS
  identifier : ruleId.utf8ByteSize ≤ MAX_IDENTIFIER_UTF8_BYTES
  weighed : ruleWeight ((members.lookup "weight").getD (.int 1)) = .ok weight
  parsed : parseExpression rawExpression = .ok expression
  created : Rule.create ⟨ruleId,expression,weight⟩ = .ok rule

theorem rule_spelled {raw : RawJson} {rule : Rule} (accepted : parseRule raw = .ok rule) :
    ∃ members, raw = .obj members ∧ Nonempty (Spelled members rule) := by
  cases raw with
  | obj members =>
    refine ⟨members,rfl,?_⟩
    unfold parseRule at accepted
    simp only at accepted
    split at accepted
    · rename_i rawId rawExpression named expressed
      simp only [check_ok,raiseIf_ok] at accepted
      obtain ⟨keys,accepted⟩ := accepted
      cases rawId with
      | str ruleId =>
        simp only [bind_ok,raiseIf_ok,exists_const] at accepted
        obtain ⟨_,⟨⟩,identifier,weight,weighed,_,expression,parsed,created⟩ := accepted
        refine ⟨⟨ruleId,rawExpression,expression,weight,named,expressed,?_,text_exact.mp identifier,weighed,parsed,created⟩⟩
        intro member listed
        have allowed := List.any_eq_false.mp keys member listed
        simpa using allowed
      | _ => simp at accepted
    · simp at accepted
  | _ => simp [parseRule] at accepted

theorem lookup_member {members : List (String × RawJson)} (keyed : (members.map Prod.fst).Nodup)
    {key : String} {value : RawJson} (listed : (key,value) ∈ members) : members.lookup key = some value := by
  induction members with
  | nil => cases listed
  | cons first rest ih =>
    obtain ⟨absent,distinct⟩ := List.nodup_cons.mp keyed
    rcases List.mem_cons.mp listed with rfl | later
    · simp
    · have other : key ≠ first.1 := by
        intro same
        exact absent (same ▸ List.mem_map_of_mem later)
      rw [List.lookup_cons,beq_eq_false_iff_ne.mpr other]
      exact ih distinct later

theorem number_compatible {raw : RawJson} {label : String} {d : Decimal}
    (read : decimalFromJsonNumber raw label = .ok d) : raw.compatible = true ∧ raw.children = [] ∧ raw.visit = .ok () := by
  cases raw with
  | int value =>
    simp only [decimalFromJsonNumber,check_ok,raiseIf_ok,decide_eq_false_iff_not,Nat.not_lt] at read
    exact ⟨by simpa [RawJson.compatible] using read.1,rfl,rfl⟩
  | float value =>
    refine ⟨?_,rfl,rfl⟩
    unfold decimalFromJsonNumber at read
    simp only at read
    split at read
    · rename_i found
      simp [RawJson.compatible,found]
    · simp at read
  | _ => simp [decimalFromJsonNumber] at read

theorem weight_compatible {raw : RawJson} {d : Decimal} (read : ruleWeight raw = .ok d) :
    raw.compatible = true ∧ raw.children = [] ∧ raw.visit = .ok () := by
  cases raw with
  | int value => exact number_compatible read
  | float value => exact number_compatible read
  | _ => simp [ruleWeight] at read

theorem expression_transport {raw : RawJson} {e : Expression} (parsed : parseExpression raw = .ok e) :
    validateExpressionTransport raw = .ok () := by
  simp only [parseExpression,check_ok] at parsed
  exact parsed.1

-- The values of an accepted rule pass every check of the transport but those of size and depth.
theorem member_clean {members : List (String × RawJson)} {rule : Rule} (spelled : Spelled members rule)
    (keyed : (members.map Prod.fst).Nodup) {member : String × RawJson} (listed : member ∈ members) :
    rawWalk.Clean member.2 ∧ member.2.compatible = true := by
  obtain ⟨key,value⟩ := member
  have found := lookup_member keyed listed
  have allowed := spelled.keys _ listed
  simp only [RULE_KEYS,List.mem_cons,List.not_mem_nil,or_false] at allowed
  rcases allowed with rfl | rfl | rfl
  · rw [spelled.named,Option.some.injEq] at found
    subst found
    have bound : MAX_IDENTIFIER_UTF8_BYTES ≤ MAX_STRING_UTF8_BYTES := by decide
    exact ⟨(clean_string _).mpr (spelled.identifier.trans bound),rfl⟩
  · rw [spelled.expressed,Option.some.injEq] at found
    subst found
    have transport := (transport_exact _).mp (expression_transport spelled.parsed)
    exact ⟨transport.2.2.1,transport.2.2.2.1⟩
  · have weighed := spelled.weighed
    rw [found] at weighed
    obtain ⟨compatible,leaf,silent⟩ := weight_compatible weighed
    exact ⟨clean_scalar leaf silent,compatible⟩

theorem compatible_members (members : List (String × RawJson)) :
    RawJson.compatibleMembers members = true ↔ ∀ member ∈ members, member.2.compatible = true := by
  induction members with
  | nil => simp [RawJson.compatibleMembers]
  | cons member rest ih => simp [RawJson.compatibleMembers,ih]

theorem compatible_items (items : List RawJson) :
    RawJson.compatibleItems items = true ↔ ∀ item ∈ items, item.compatible = true := by
  induction items with
  | nil => simp [RawJson.compatibleItems]
  | cons item rest ih => simp [RawJson.compatibleItems,ih]

theorem rule_clean {raw : JsonValue} {rule : Rule} (accepted : parseRule raw.raw = .ok rule) :
    rawWalk.Clean raw.raw ∧ raw.raw.compatible = true := by
  obtain ⟨members,shape,⟨spelled⟩⟩ := rule_spelled accepted
  have keyed := raw.keyed
  rw [shape,RawJson.keyed,Bool.and_eq_true,decide_eq_true_eq] at keyed
  have members_clean : ∀ member ∈ members, rawWalk.Clean member.2 ∧ member.2.compatible = true := fun _ listed =>
    member_clean spelled keyed.1 listed
  rw [shape]
  constructor
  · rw [clean_object]
    refine ⟨fun member listed => ?_,fun member listed => (members_clean member listed).1⟩
    have short : ∀ key ∈ RULE_KEYS, key.utf8ByteSize ≤ MAX_STRING_UTF8_BYTES := by decide
    exact short _ (spelled.keys member listed)
  · rw [RawJson.compatible,compatible_members]
    exact fun member listed => (members_clean member listed).2

theorem each_parsed {raws : List JsonValue} {rules : List Rule}
    (each : List.Forall₂ (fun (raw : JsonValue) rule => parseRule raw.raw = .ok rule) raws rules) (total : Nat)
    (small : total + (rules.map fun rule => rule.expression.size).sum ≤ MAX_RULESET_AST_NODES) :
    parseEach (raws.map JsonValue.raw) total = .ok rules := by
  induction each generalizing total with
  | nil => rfl
  | @cons raw rule raws rules parsed _ ih =>
    simp only [List.map_cons,List.sum_cons] at small
    have counted : countExpressionAstNodes rule.expression = rule.expression.size := by
      unfold countExpressionAstNodes
      omega
    have rest := ih (total + rule.expression.size) (by omega)
    simp only [List.map_cons,parseEach,bind_ok]
    refine ⟨rule,parsed,(),?_,rules,?_,rfl⟩
    · rw [raiseIf_ok,counted]
      simp only [decide_eq_false_iff_not]
      omega
    · rw [counted]
      exact rest

-- The list as it is given, in the two measures of the raw transport.
def rawList (raws : List JsonValue) : RawJson := .arr (raws.map JsonValue.raw)

theorem list_clean {raws : List JsonValue} {rules : List Rule}
    (each : List.Forall₂ (fun (raw : JsonValue) rule => parseRule raw.raw = .ok rule) raws rules) :
    rawWalk.Clean (rawList raws) ∧ (rawList raws).compatible = true := by
  have clean : ∀ raw ∈ raws, rawWalk.Clean raw.raw ∧ raw.raw.compatible = true := by
    induction each with
    | nil => simp
    | cons parsed _ ih => exact List.forall_mem_cons.mpr ⟨rule_clean parsed,ih⟩
  rw [rawList,clean_array,RawJson.compatible,compatible_items,List.forall_mem_map,List.forall_mem_map]
  exact ⟨fun raw listed => (clean raw listed).1,fun raw listed => (clean raw listed).2⟩

-- Whatever the limits of the rules leave, the raw transport decides about the list.
theorem ruleset_accepted (raws : List JsonValue) (rules : List Rule)
    (each : List.Forall₂ (fun (raw : JsonValue) rule => parseRule raw.raw = .ok rule) raws rules)
    (distinct : (rules.map Rule.ruleId).Nodup) (few : raws.length ≤ MAX_RULESET_RULES)
    (small : (rules.map fun rule => rule.expression.size).sum ≤ MAX_RULESET_AST_NODES)
    (short : (rawList raws).bytes ≤ MAX_DSL_RULESET_UTF8_BYTES) :
    parseRules (raws.map JsonValue.raw) = .ok rules ↔
      (rawList raws).size ≤ MAX_RAW_TRANSPORT_NODES ∧ (rawList raws).height ≤ MAX_RAW_TRANSPORT_DEPTH := by
  have parsed := each_parsed each 0 (by omega)
  obtain ⟨clean,compatible⟩ := list_clean each
  simp only [parseRules,bind_ok,raiseIf_ok,exists_const,preflight_exact,measure_exact,pure_ok]
  change _ ∧ (∃ n, (n = (rawList raws).size ∧ _ ∧ _ ∧ rawWalk.Clean (rawList raws)) ∧ _) ↔ _
  constructor
  · rintro ⟨_,_,⟨_,size,height,_⟩,_⟩
    exact ⟨size,height⟩
  · intro held
    obtain ⟨size,height⟩ := held
    refine ⟨by simpa using few,_,⟨rfl,size,height,clean⟩,_,⟨compatible,short,rfl⟩,rules,parsed,?_,rfl⟩
    simpa using distinct

section Nested

-- not(not(... true)) of the greatest depth an expression may have, as the only rule of a list.
def nots : Nat → RawJson
  | 0 => .bool true
  | n + 1 => .obj [("not",.arr [nots n])]

def negations : Nat → Expression
  | 0 => .literal .boolean (.boolean true)
  | n + 1 => .operation .not [negations n] .boolean

def nestedRule (n : Nat) : RawJson := .obj [("id",.str "nested"),("expression",nots n)]

def nestedValue : JsonValue := ⟨nestedRule 15,by decide⟩
def shallowValue : JsonValue := ⟨nestedRule 14,by decide⟩

theorem nested_parsed : parseRule nestedValue.raw = .ok ⟨"nested",negations 15,⟨false,1,0⟩⟩ := by with_unfolding_all rfl

theorem shallow_parsed : parseRule shallowValue.raw = .ok ⟨"nested",negations 14,⟨false,1,0⟩⟩ := by with_unfolding_all rfl

theorem shallow_accepted : parseRules [shallowValue.raw] = .ok [⟨"nested",negations 14,⟨false,1,0⟩⟩] ↔
    (rawList [shallowValue]).size ≤ MAX_RAW_TRANSPORT_NODES ∧ (rawList [shallowValue]).height ≤ MAX_RAW_TRANSPORT_DEPTH :=
  ruleset_accepted [shallowValue] _ (.cons shallow_parsed .nil) (by decide) (by decide) (by decide) (by decide)

-- The rule is accepted, the list of it alone is not.
theorem nested_refused : parseRule nestedValue.raw = .ok ⟨"nested",negations 15,⟨false,1,0⟩⟩ ∧
    (negations 15).size ≤ MAX_AST_NODES ∧ (rawList [nestedValue]).bytes ≤ MAX_DSL_RULESET_UTF8_BYTES ∧
    parseRules [nestedValue.raw] = .error ⟨.ruleSafetyError,"raw transport depth exceeds 32"⟩ :=
  ⟨nested_parsed,by decide,by decide,by with_unfolding_all rfl⟩

end Nested
end SwapMonitor.Rules
