import SwapMonitor.Rules.Transport

namespace SwapMonitor.Rules
open Arithmetic Traversal

-- What the parser establishes of every node; each operator is typed by its operands, and no literal is a time.
inductive WellTyped : Expression → Prop where
  | literal : value.kind = kind → kind ≠ .datetime → WellTyped (.literal kind value)
  | path : kindFor name = .ok kind → WellTyped (.path name kind)
  | operation : (∀ operand ∈ operands, WellTyped operand) → validateOperator operator operands = .ok kind →
      WellTyped (.operation operator operands kind)

def Expression.literals (e : Expression) : List ScalarValue :=
  e.nodes.filterMap fun node => match node with
    | .literal _ value => some value
    | _ => none

theorem literals_of (operator : Operator) (operands : List Expression) (kind : EvidenceKind) :
    (Expression.operation operator operands kind).literals = operands.flatMap Expression.literals := by
  simp only [Expression.literals,Expression.nodes,nodes_of_flat,List.filterMap_cons,List.filterMap_flatMap]
  rfl

theorem literal_node {e : Expression} {kind : EvidenceKind} {value : ScalarValue}
    (below : .literal kind value ∈ e.nodes) : value ∈ e.literals :=
  List.mem_filterMap.mpr ⟨_,below,rfl⟩

theorem typed_nodes {e : Expression} (typed : WellTyped e) : ∀ node ∈ e.nodes, WellTyped node := by
  induction typed with
  | literal kinds timeless => intro node below; cases List.mem_singleton.mp below; exact .literal kinds timeless
  | path registered => intro node below; cases List.mem_singleton.mp below; exact .path registered
  | @operation operands operator kind typed checked ih =>
    rw [node_tree]
    exact ⟨.operation typed checked,fun operand listed => ih operand listed⟩

mutual
-- The scalars an expression spells, with the Decimal each number reads as.
def RawJson.scalars : RawJson → List ScalarValue
  | .null => [.null]
  | .bool value => [.boolean value]
  | .int value => [.decimal (.ofSigned value 0)]
  | .float value => match value.finite with
    | some decimal => [.decimal decimal]
    | none => []
  | .str value => [.string value]
  | .arr items => RawJson.scalarsOf items
  | .obj members => match members with
    | [(_,.arr operands)] => RawJson.scalarsOf operands
    | _ => []

def RawJson.scalarsOf : List RawJson → List ScalarValue
  | [] => []
  | item :: rest => item.scalars ++ RawJson.scalarsOf rest
end

theorem scalars_flat (items : List RawJson) : RawJson.scalarsOf items = items.flatMap RawJson.scalars := by
  induction items with
  | nil => rfl
  | cons item rest ih => rw [RawJson.scalarsOf,ih,List.flatMap_cons]

-- A scalar is spelled by a leaf of the value.
theorem scalar_leaf (raw : RawJson) (value : ScalarValue) (spelled : value ∈ raw.scalars) :
    ∃ leaf k, rawWalk.Below raw leaf k ∧ leaf.children = [] ∧ leaf.scalars = [value] := by
  induction raw using RawJson.tree with
  | scalar raw leaf =>
    refine ⟨raw,0,.self,leaf,?_⟩
    cases raw with
    | float number =>
      simp only [RawJson.scalars] at spelled ⊢
      split at spelled
      · rw [List.mem_singleton.mp spelled]
      · cases spelled
    | arr items => cases leaf; cases spelled
    | obj members =>
      cases members with
      | nil => cases spelled
      | cons _ _ => cases leaf
    | _ => rw [RawJson.scalars,List.mem_singleton.mp spelled]
  | arr items ih =>
    rw [RawJson.scalars,scalars_flat] at spelled
    obtain ⟨item,listed,below⟩ := List.mem_flatMap.mp spelled
    obtain ⟨leaf,k,down,rest⟩ := ih item listed below
    exact ⟨leaf,k + 1,.child listed down,rest⟩
  | obj members ih =>
    match members with
    | [] => cases spelled
    | (_,item) :: _ :: _ => cases item <;> cases spelled
    | [(key,item)] =>
      cases item with
      | arr operands =>
        obtain ⟨leaf,k,down,rest⟩ := ih (key,.arr operands) List.mem_cons_self spelled
        exact ⟨leaf,k + 1,.child (List.mem_map_of_mem List.mem_cons_self) down,rest⟩
      | _ => cases spelled

theorem no_times (raw : RawJson) (t : AwareDatetime) : .datetime t ∉ raw.scalars := by
  intro spelled
  obtain ⟨leaf,_,_,childless,only⟩ := scalar_leaf raw _ spelled
  cases leaf with
  | float number => simp only [RawJson.scalars] at only; split at only <;> simp at only
  | arr items => cases childless; cases only
  | obj members =>
    cases members with
    | nil => cases only
    | cons _ _ => cases childless
  | _ => simp [RawJson.scalars] at only

-- The strings an expression spells were bounded by the raw transport.
theorem strings_clean {raw : RawJson} (clean : rawWalk.Clean raw) (value : String)
    (spelled : .string value ∈ raw.scalars) : value.utf8ByteSize ≤ MAX_STRING_UTF8_BYTES := by
  obtain ⟨leaf,k,below,childless,only⟩ := scalar_leaf raw _ spelled
  have visited := clean leaf k below
  cases leaf with
  | str text =>
    simp only [RawJson.scalars,List.cons.injEq,ScalarValue.string.injEq,and_true] at only
    subst only
    exact text_exact.mp visited
  | float number => simp only [RawJson.scalars] at only; split at only <;> simp at only
  | arr items => cases childless; cases only
  | obj members =>
    cases members with
    | nil => cases only
    | cons _ _ => cases childless
  | _ => simp [RawJson.scalars] at only

def canonicalScalar : ScalarValue → ScalarValue
  | .decimal value => .decimal (canonicalForm value)
  | value => value

structure Parsed (raw : RawJson) (depth nodes : Nat) (e : Expression) (counted : Nat) : Prop where
  typed : WellTyped e
  count : counted = nodes + e.size
  within : counted ≤ MAX_AST_NODES
  shallow : depth + e.height ≤ MAX_EXPRESSION_DEPTH + 1
  literals : e.literals = raw.scalars.map canonicalScalar
  bounded : ∀ d, .decimal d ∈ raw.scalars → requireBoundedDecimal d = .ok ()

structure ParsedAll (raws : List RawJson) (depth nodes : Nat) (es : List Expression) (counted : Nat) : Prop where
  typed : ∀ e ∈ es, WellTyped e
  count : counted = nodes + (es.map Expression.size).sum
  within : nodes ≤ MAX_AST_NODES → counted ≤ MAX_AST_NODES
  shallow : ∀ e ∈ es, depth + e.height ≤ MAX_EXPRESSION_DEPTH + 1
  literals : es.flatMap Expression.literals = (RawJson.scalarsOf raws).map canonicalScalar
  bounded : ∀ d, .decimal d ∈ RawJson.scalarsOf raws → requireBoundedDecimal d = .ok ()

def ParsesRight (raw : RawJson) : Prop :=
  ∀ depth nodes e counted, parseNode raw depth nodes = .ok (e,counted) → Parsed raw depth nodes e counted

theorem consume_exact {depth nodes n : Nat} : consumeNode depth nodes = .ok n ↔
    depth ≤ MAX_EXPRESSION_DEPTH ∧ nodes + 1 ≤ MAX_AST_NODES ∧ nodes + 1 = n := by
  simp only [consumeNode,bind_ok,raiseIf_ok,exists_const,pure_ok,decide_eq_false_iff_not,Nat.not_lt]

theorem canonical_exact {d canonical : Decimal} : canonicalDecimal d = .ok canonical ↔
    requireBoundedDecimal d = .ok () ∧ canonicalForm d = canonical := by
  simp only [canonicalDecimal,check_ok,pure_ok]

theorem operands_parsed {raws : List RawJson} (right : ∀ raw ∈ raws, ParsesRight raw) {depth nodes : Nat}
    {es : List Expression} {counted : Nat} (parsed : parseOperands raws depth nodes = .ok (es,counted)) :
    ParsedAll raws depth nodes es counted := by
  induction raws generalizing nodes es counted with
  | nil =>
    simp only [parseOperands,Except.ok.injEq,Prod.mk.injEq] at parsed
    obtain ⟨rfl,rfl⟩ := parsed
    exact ⟨by simp,by simp,id,by simp,rfl,by simp [RawJson.scalarsOf]⟩
  | cons raw rest ih =>
    obtain ⟨here,later⟩ := List.forall_mem_cons.mp right
    simp only [parseOperands,bind_ok,pure_ok,Prod.mk.injEq,Prod.exists] at parsed
    obtain ⟨first,middle,one,others,last,more,rfl,rfl⟩ := parsed
    have head := here _ _ _ _ one
    have tail := ih later more
    refine ⟨?_,?_,?_,?_,?_,?_⟩
    · exact List.forall_mem_cons.mpr ⟨head.typed,tail.typed⟩
    · rw [tail.count,head.count,List.map_cons,List.sum_cons]
      omega
    · exact fun _ => tail.within head.within
    · exact List.forall_mem_cons.mpr ⟨head.shallow,tail.shallow⟩
    · rw [List.flatMap_cons,RawJson.scalarsOf,List.map_append,head.literals,tail.literals]
    · intro d listed
      rcases List.mem_append.mp listed with here | there
      · exact head.bounded d here
      · exact tail.bounded d there

-- A scalar is one node, whatever it is.
theorem literal_parsed {raw : RawJson} {kind : EvidenceKind} {value : ScalarValue} {depth nodes counted : Nat}
    (consumed : consumeNode depth nodes = .ok counted) (kinds : value.kind = kind) (timeless : kind ≠ .datetime)
    (spelled : ∃ scalar, raw.scalars = [scalar] ∧ canonicalScalar scalar = value)
    (bounded : ∀ d, .decimal d ∈ raw.scalars → requireBoundedDecimal d = .ok ()) :
    Parsed raw depth nodes (.literal kind value) counted := by
  obtain ⟨deep,many,rfl⟩ := consume_exact.mp consumed
  obtain ⟨scalar,spelled,canonical⟩ := spelled
  refine ⟨.literal kinds timeless,rfl,many,?_,?_,bounded⟩
  · simp only [Expression.height]
    omega
  · rw [spelled,List.map_singleton,canonical]
    rfl

theorem number_read {raw : RawJson} {label : String} {d : Decimal}
    (read : decimalFromJsonNumber raw label = .ok d) : ∃ spelled, raw.scalars = [.decimal spelled] ∧
      requireBoundedDecimal spelled = .ok () ∧ canonicalForm spelled = d := by
  cases raw with
  | int value =>
    simp only [decimalFromJsonNumber,check_ok] at read
    exact ⟨_,rfl,canonical_exact.mp read.2⟩
  | float value =>
    unfold decimalFromJsonNumber at read
    simp only at read
    split at read
    · rename_i decimal found
      refine ⟨decimal,?_,canonical_exact.mp read⟩
      simp only [RawJson.scalars,found]
    · simp at read
  | _ => simp [decimalFromJsonNumber] at read

theorem number_parsed {raw : RawJson} {depth nodes counted : Nat} {d : Decimal}
    (consumed : consumeNode depth nodes = .ok counted) (read : decimalFromJsonNumber raw "literal" = .ok d) :
    Parsed raw depth nodes (.literal .decimal (.decimal d)) counted := by
  obtain ⟨spelled,only,bounded,canonical⟩ := number_read read
  refine literal_parsed consumed rfl (by simp) ⟨_,only,by rw [← canonical]; rfl⟩ ?_
  intro d' listed
  rw [only,List.mem_singleton] at listed
  cases listed
  exact bounded

theorem operation_parsed {key : String} {operands : List RawJson} (right : ∀ raw ∈ operands, ParsesRight raw)
    {depth nodes : Nat} {e : Expression} {counted : Nat}
    (parsed : parseNode (.obj [(key,.arr operands)]) depth nodes = .ok (e,counted)) :
    Parsed (.obj [(key,.arr operands)]) depth nodes e counted := by
  simp only [parseNode,bind_ok] at parsed
  obtain ⟨_,consumed,parsed⟩ := parsed
  obtain ⟨deep,many,rfl⟩ := consume_exact.mp consumed
  cases known : Operator.parse key with
  | none => simp [known] at parsed
  | some operator =>
    simp only [known,bind_ok,raiseIf_ok,exists_const,pure_ok,Prod.exists,Prod.mk.injEq] at parsed
    obtain ⟨_,es,last,more,kind,checked,rfl,rfl⟩ := parsed
    have all := operands_parsed right more
    have scalars : (RawJson.obj [(key,.arr operands)]).scalars = RawJson.scalarsOf operands := by
      simp [RawJson.scalars]
    refine ⟨.operation all.typed checked,?_,all.within many,?_,?_,?_⟩
    · rw [all.count,expression_size]
      simp only [Expression.operands]
      omega
    · have low : (Expression.operation operator es kind).height ≤ MAX_EXPRESSION_DEPTH - depth + 1 := by
        rw [expression_height]
        intro operand listed
        have := all.shallow operand listed
        omega
      omega
    · rw [literals_of,scalars]
      exact all.literals
    · rw [scalars]
      exact all.bounded

theorem members_refused (key : String) (value : RawJson) (member : String × RawJson)
    (rest : List (String × RawJson)) (depth nodes : Nat) (result : Expression × Nat) :
    parseNode (.obj ((key,value) :: member :: rest)) depth nodes ≠ .ok result := by
  intro parsed
  rw [parseNode,bind_ok] at parsed
  obtain ⟨_,_,parsed⟩ := parsed
  cases value <;> cases parsed

-- Everything the parser returns was built right, by induction on what it was given; the operands
-- of an object are the items of its one array, so the induction carries a value's items along.
theorem parse_right (raw : RawJson) : ParsesRight raw ∧ ∀ item ∈ raw.children, ParsesRight item := by
  induction raw using RawJson.tree with
  | scalar raw leaf =>
    refine ⟨?_,by rw [leaf]; simp⟩
    intro depth nodes e counted parsed
    cases raw with
    | null =>
      simp only [parseNode,bind_ok,pure_ok,Prod.mk.injEq] at parsed
      obtain ⟨_,consumed,rfl,rfl⟩ := parsed
      exact literal_parsed consumed rfl (by simp) ⟨_,rfl,rfl⟩ (by simp [RawJson.scalars])
    | bool value =>
      simp only [parseNode,bind_ok,pure_ok,Prod.mk.injEq] at parsed
      obtain ⟨_,consumed,rfl,rfl⟩ := parsed
      exact literal_parsed consumed rfl (by simp) ⟨_,rfl,rfl⟩ (by simp [RawJson.scalars])
    | str value =>
      simp only [parseNode,bind_ok,pure_ok,Prod.mk.injEq] at parsed
      obtain ⟨_,consumed,rfl,rfl⟩ := parsed
      exact literal_parsed consumed rfl (by simp) ⟨_,rfl,rfl⟩ (by simp [RawJson.scalars])
    | int value =>
      simp only [parseNode,bind_ok,pure_ok,Prod.mk.injEq] at parsed
      obtain ⟨_,consumed,_,read,rfl,rfl⟩ := parsed
      exact number_parsed consumed read
    | float value =>
      simp only [parseNode,bind_ok,pure_ok,Prod.mk.injEq] at parsed
      obtain ⟨_,consumed,_,read,rfl,rfl⟩ := parsed
      exact number_parsed consumed read
    | arr items => simp [parseNode,bind_ok] at parsed
    | obj members =>
      cases members with
      | nil => simp [parseNode,bind_ok] at parsed
      | cons member rest => cases leaf
  | arr items ih =>
    refine ⟨?_,fun item listed => (ih item listed).1⟩
    intro depth nodes e counted parsed
    simp [parseNode,bind_ok] at parsed
  | obj members ih =>
    refine ⟨?_,?_⟩
    · intro depth nodes e counted parsed
      cases members with
      | nil => simp [parseNode,bind_ok] at parsed
      | cons member rest =>
        cases rest with
        | cons _ _ => exact absurd parsed (members_refused member.1 member.2 _ _ _ _ _)
        | nil =>
          obtain ⟨key,value⟩ := member
          have inner := (ih (key,value) List.mem_cons_self).2
          cases value with
          | arr operands => exact operation_parsed inner parsed
          | str path =>
            simp only [parseNode,bind_ok] at parsed
            obtain ⟨_,consumed,parsed⟩ := parsed
            split at parsed
            · simp only [bind_ok,pure_ok,Prod.mk.injEq] at parsed
              obtain ⟨kind,registered,rfl,rfl⟩ := parsed
              obtain ⟨deep,many,rfl⟩ := consume_exact.mp consumed
              refine ⟨.path registered,rfl,many,?_,rfl,by simp [RawJson.scalars]⟩
              simp only [Expression.height]
              omega
            · simp at parsed
          | _ => simp [parseNode,bind_ok] at parsed
    · intro item listed
      obtain ⟨member,present,rfl⟩ := List.mem_map.mp listed
      exact (ih member present).1

-- What is known of an expression the parser accepted.
theorem expression_parsed {raw : RawJson} {e : Expression} (parsed : parseExpression raw = .ok e) :
    Parsed raw 1 0 e e.size := by
  simp only [parseExpression,bind_ok,pure_ok,Prod.exists] at parsed
  obtain ⟨_,_,e,counted,parsed,rfl⟩ := parsed
  have right := (parse_right raw).1 _ _ _ _ parsed
  have count := right.count
  rw [Nat.zero_add] at count
  rwa [count] at right

end SwapMonitor.Rules
