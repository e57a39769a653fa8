import SwapMonitor.Rules.Parser

namespace SwapMonitor.Rules
open Arithmetic Traversal

mutual
theorem RawJson.tree {motive : RawJson → Prop}
    (scalar : ∀ raw : RawJson, raw.children = [] → motive raw)
    (arr : ∀ items, (∀ item ∈ items, motive item) → motive (.arr items))
    (obj : ∀ members : List (String × RawJson), (∀ member ∈ members, motive member.2) → motive (.obj members)) :
    ∀ raw, motive raw
  | .null => scalar .null rfl
  | .bool value => scalar (.bool value) rfl
  | .int value => scalar (.int value) rfl
  | .float value => scalar (.float value) rfl
  | .str value => scalar (.str value) rfl
  | .arr items => arr items (RawJson.trees scalar arr obj items)
  | .obj members => obj members (RawJson.branches scalar arr obj members)

theorem RawJson.trees {motive : RawJson → Prop}
    (scalar : ∀ raw : RawJson, raw.children = [] → motive raw)
    (arr : ∀ items, (∀ item ∈ items, motive item) → motive (.arr items))
    (obj : ∀ members : List (String × RawJson), (∀ member ∈ members, motive member.2) → motive (.obj members)) :
    ∀ items : List RawJson, ∀ item ∈ items, motive item
  | [],_,listed => by cases listed
  | first :: rest,item,listed => by
    rcases List.mem_cons.mp listed with here | later
    · exact here ▸ RawJson.tree scalar arr obj first
    · exact RawJson.trees scalar arr obj rest item later

theorem RawJson.branches {motive : RawJson → Prop}
    (scalar : ∀ raw : RawJson, raw.children = [] → motive raw)
    (arr : ∀ items, (∀ item ∈ items, motive item) → motive (.arr items))
    (obj : ∀ members : List (String × RawJson), (∀ member ∈ members, motive member.2) → motive (.obj members)) :
    ∀ members : List (String × RawJson), ∀ member ∈ members, motive member.2
  | [],_,listed => by cases listed
  | (key,first) :: rest,member,listed => by
    rcases List.mem_cons.mp listed with here | later
    · exact here ▸ RawJson.tree scalar arr obj first
    · exact RawJson.branches scalar arr obj rest member later
end

mutual
-- The raw nodes of a value and its raw depth.
def RawJson.size : RawJson → Nat
  | .arr items => 1 + RawJson.sizes items
  | .obj members => 1 + RawJson.memberSizes members
  | _ => 1

def RawJson.sizes : List RawJson → Nat
  | [] => 0
  | item :: rest => item.size + RawJson.sizes rest

def RawJson.memberSizes : List (String × RawJson) → Nat
  | [] => 0
  | (_,value) :: rest => value.size + RawJson.memberSizes rest
end

mutual
def RawJson.height : RawJson → Nat
  | .arr items => 1 + RawJson.heights items
  | .obj members => 1 + RawJson.memberHeights members
  | _ => 1

def RawJson.heights : List RawJson → Nat
  | [] => 0
  | item :: rest => max item.height (RawJson.heights rest)

def RawJson.memberHeights : List (String × RawJson) → Nat
  | [] => 0
  | (_,value) :: rest => max value.height (RawJson.memberHeights rest)
end

theorem sizes_sum (items : List RawJson) : RawJson.sizes items = (items.map RawJson.size).sum := by
  induction items with
  | nil => rfl
  | cons item rest ih => simp [RawJson.sizes,ih]

theorem member_sizes_sum (members : List (String × RawJson)) :
    RawJson.memberSizes members = ((members.map Prod.snd).map RawJson.size).sum := by
  induction members with
  | nil => rfl
  | cons member rest ih => simp [RawJson.memberSizes,ih]

theorem heights_max (items : List RawJson) (n : Nat) :
    RawJson.heights items ≤ n ↔ ∀ item ∈ items, item.height ≤ n := by
  induction items with
  | nil => simp [RawJson.heights]
  | cons item rest ih => simp [RawJson.heights,ih]

theorem member_heights_max (members : List (String × RawJson)) (n : Nat) :
    RawJson.memberHeights members ≤ n ↔ ∀ item ∈ members.map Prod.snd, item.height ≤ n := by
  induction members with
  | nil => simp [RawJson.memberHeights]
  | cons member rest ih => simp [RawJson.memberHeights,ih]

theorem raw_sized (raw : RawJson) : raw.size = 1 + ((rawWalk.children raw).map RawJson.size).sum := by
  cases raw with
  | arr items => simp [RawJson.size,rawWalk,RawJson.children,sizes_sum]
  | obj members => rw [RawJson.size,member_sizes_sum]; rfl
  | _ => rfl

theorem raw_height_positive (raw : RawJson) : 0 < raw.height := by
  cases raw <;> simp [RawJson.height]

theorem raw_height (raw : RawJson) (n : Nat) :
    raw.height ≤ n + 1 ↔ ∀ item ∈ rawWalk.children raw, item.height ≤ n := by
  cases raw with
  | arr items =>
    rw [RawJson.height,← heights_max,show rawWalk.children (.arr items) = items from rfl]
    omega
  | obj members =>
    rw [RawJson.height,show rawWalk.children (.obj members) = members.map Prod.snd from rfl,← member_heights_max]
    omega
  | _ => simp [RawJson.height,rawWalk,RawJson.children]

theorem preflight_exact (raw : RawJson) (n : Nat) : preflightRawTransport raw = .ok n ↔
    n = raw.size ∧ raw.size ≤ MAX_RAW_TRANSPORT_NODES ∧ raw.height ≤ MAX_RAW_TRANSPORT_DEPTH ∧ rawWalk.Clean raw :=
  count_exact raw_sized raw_height_positive raw_height raw n

theorem text_exact {value boundary : String} {limitBytes : Nat} :
    requireText value boundary limitBytes = .ok () ↔ value.utf8ByteSize ≤ limitBytes := by
  simp [requireText]

theorem keys_exact (members : List (String × RawJson)) :
    requireKeys members = .ok () ↔ ∀ member ∈ members, member.1.utf8ByteSize ≤ MAX_STRING_UTF8_BYTES := by
  induction members with
  | nil => simp [requireKeys]
  | cons member rest ih =>
    obtain ⟨key,value⟩ := member
    simp [requireKeys,check_ok,requireRuleText,text_exact,ih]

theorem clean_array (items : List RawJson) : rawWalk.Clean (.arr items) ↔ ∀ item ∈ items, rawWalk.Clean item := by
  rw [clean_exact]
  exact and_iff_right rfl

theorem clean_object (members : List (String × RawJson)) : rawWalk.Clean (.obj members) ↔
    (∀ member ∈ members, member.1.utf8ByteSize ≤ MAX_STRING_UTF8_BYTES) ∧
      ∀ member ∈ members, rawWalk.Clean member.2 := by
  rw [clean_exact,show rawWalk.visit (.obj members) = requireKeys members.reverse from rfl,keys_exact,
    show rawWalk.children (.obj members) = members.map Prod.snd from rfl,List.forall_mem_map]
  simp only [List.mem_reverse]

theorem clean_string (value : String) : rawWalk.Clean (.str value) ↔ value.utf8ByteSize ≤ MAX_STRING_UTF8_BYTES := by
  rw [clean_exact,show rawWalk.visit (.str value) = requireRuleText value "literal" from rfl,requireRuleText,text_exact]
  exact and_iff_left (by intro y member; cases member)

theorem clean_scalar {raw : RawJson} (leaf : raw.children = []) (silent : raw.visit = .ok ()) : rawWalk.Clean raw := by
  rw [clean_exact]
  refine ⟨silent,?_⟩
  rw [show rawWalk.children raw = raw.children from rfl,leaf]
  simp

theorem measure_exact {raw : RawJson} {limitBytes n : Nat} {boundary : String} :
    measureRuleText raw limitBytes boundary = .ok n ↔ raw.compatible = true ∧ raw.bytes ≤ limitBytes ∧ raw.bytes = n := by
  simp only [measureRuleText,check_ok,raiseIf_ok,pure_ok,Bool.not_eq_false',decide_eq_false_iff_not,Nat.not_lt]

theorem transport_exact (raw : RawJson) : validateExpressionTransport raw = .ok () ↔
    raw.size ≤ MAX_RAW_TRANSPORT_NODES ∧ raw.height ≤ MAX_RAW_TRANSPORT_DEPTH ∧ rawWalk.Clean raw ∧
      raw.compatible = true ∧ raw.bytes ≤ MAX_DSL_EXPRESSION_UTF8_BYTES ∧ validTransport raw = true := by
  simp only [validateExpressionTransport,bind_ok,preflightRawExpression,preflight_exact,measure_exact,raiseIf_ok,
    Bool.not_eq_false']
  constructor
  · rintro ⟨_,⟨_,size,height,clean⟩,_,⟨compatible,bytes,_⟩,valid⟩
    exact ⟨size,height,clean,compatible,bytes,valid⟩
  · rintro ⟨size,height,clean,compatible,bytes,valid⟩
    exact ⟨_,⟨rfl,size,height,clean⟩,_,⟨compatible,bytes,rfl⟩,valid⟩

end SwapMonitor.Rules
