import SwapMonitor.Rules.Agreement
import SwapMonitor.Rules.Meaning

namespace SwapMonitor.Rules
open Exceptions

-- The typing rules of the operators.
inductive Checks : Operator → List Expression → EvidenceKind → Prop where
  | connective : operator ∈ [.and,.or] → (∀ operand ∈ operands, operand.kind = .boolean) → Checks operator operands .boolean
  | negation : operand.kind = .boolean → Checks .not [operand] .boolean
  | equality : operator ∈ [.eq,.ne] → Checks operator [left,right] .boolean
  | ordering : operator ∈ [.lt,.lte,.gt,.gte] → left.kind = .decimal ∨ left.kind = .datetime → right.kind = left.kind →
      Checks operator [left,right] .boolean
  | containment : left.kind = .string → right.kind = .string → Checks .isIn [left,right] .boolean
  | presence : Checks .exists [operand] .boolean
  | fold : operator ∈ [.add,.multiply] → (∀ operand ∈ operands, operand.kind = .decimal) → Checks operator operands .decimal
  | pair : operator ∈ [.subtract,.divide] → left.kind = .decimal → right.kind = .decimal →
      Checks operator [left,right] .decimal
  | choice : condition.kind = .boolean → yes.kind = kind → no.kind = kind → Checks .if [condition,yes,no] kind

theorem arity_exact {operator : Operator} {operands : List Expression} {expected : Nat} :
    requireArity operator operands expected = .ok () ↔ operands.length = expected := by
  simp [requireArity]

theorem kinds_exact {operator : Operator} {operands : List Expression} {expected : EvidenceKind} :
    requireAllKinds operator (operands.map Expression.kind) expected = .ok () ↔
      ∀ operand ∈ operands, operand.kind = expected := by
  simp [requireAllKinds]

theorem operator_checks {operator : Operator} {operands : List Expression} {kind : EvidenceKind}
    (checked : validateOperator operator operands = .ok kind) : Checks operator operands kind := by
  unfold validateOperator at checked
  cases operator
  case and | or =>
    simp only [check_ok,pure_ok,kinds_exact] at checked
    obtain ⟨_,booleans,rfl⟩ := checked
    exact .connective (by simp) booleans
  case not =>
    simp only [check_ok,pure_ok,kinds_exact,arity_exact] at checked
    obtain ⟨one,booleans,rfl⟩ := checked
    obtain ⟨operand,rfl⟩ := List.length_eq_one_iff.mp one
    exact .negation (booleans operand (by simp))
  case eq | ne =>
    simp only [check_ok,pure_ok,arity_exact] at checked
    obtain ⟨two,_,rfl⟩ := checked
    obtain ⟨left,right,rfl⟩ := List.length_eq_two.mp two
    exact .equality (by simp)
  case lt | lte | gt | gte =>
    simp only [check_ok,pure_ok,arity_exact,requireOrdered,raiseIf_ok] at checked
    obtain ⟨two,kinds,rfl⟩ := checked
    obtain ⟨left,right,rfl⟩ := List.length_eq_two.mp two
    simp at kinds
    exact .ordering (by simp) (Classical.or_iff_not_imp_left.mpr kinds.2) kinds.1.symm
  case add | multiply =>
    simp only [check_ok,pure_ok,kinds_exact] at checked
    obtain ⟨_,decimals,rfl⟩ := checked
    exact .fold (by simp) decimals
  case subtract =>
    simp only [check_ok,pure_ok,kinds_exact,arity_exact] at checked
    obtain ⟨two,decimals,rfl⟩ := checked
    obtain ⟨left,right,rfl⟩ := List.length_eq_two.mp two
    exact .pair (by simp) (decimals left (by simp)) (decimals right (by simp))
  case divide =>
    simp only [check_ok,pure_ok,kinds_exact,arity_exact] at checked
    obtain ⟨two,decimals,_,rfl⟩ := checked
    obtain ⟨left,right,rfl⟩ := List.length_eq_two.mp two
    exact .pair (by simp) (decimals left (by simp)) (decimals right (by simp))
  case isIn =>
    simp only [check_ok,pure_ok,kinds_exact,arity_exact] at checked
    obtain ⟨two,strings,rfl⟩ := checked
    obtain ⟨left,right,rfl⟩ := List.length_eq_two.mp two
    exact .containment (strings left (by simp)) (strings right (by simp))
  case «exists» =>
    simp only [check_ok,pure_ok,arity_exact] at checked
    obtain ⟨one,rfl⟩ := checked
    obtain ⟨operand,rfl⟩ := List.length_eq_one_iff.mp one
    exact .presence
  case «if» =>
    simp only [check_ok,pure_ok,arity_exact,raiseIf_ok] at checked
    obtain ⟨three,boolean,branches,rfl⟩ := checked
    obtain ⟨condition,yes,no,rfl⟩ := List.length_eq_three.mp three
    simp at boolean branches
    exact .choice boolean rfl branches.symm

-- A value of a kind, whether it is there or not.
structure Fits (expected : EvidenceKind) (v : EvidenceValue) : Prop where
  kind : v.kind = expected
  value : v.isMissing = false → v.value.kind = expected

theorem known_fits {kind : EvidenceKind} {v : EvidenceValue} (known : Known kind v) : Fits kind v :=
  ⟨known.kind,fun _ => known.value⟩

theorem fits_known {kind : EvidenceKind} {v : EvidenceValue} (fits : Fits kind v) (present : v.isMissing = false) :
    Known kind v := ⟨fits.kind,present,fits.value present⟩

theorem known_members {expected : EvidenceKind} {operands : List Expression} {results : List EvidenceValue}
    (fit : List.Forall₂ (fun operand v => Fits operand.kind v) operands results)
    (kinds : ∀ operand ∈ operands, operand.kind = expected) (present : ∀ v ∈ results, v.isMissing = false) :
    ∀ v ∈ results, Known expected v := by
  induction fit with
  | nil => simp
  | cons one _ ih =>
    rw [List.forall_mem_cons] at kinds present ⊢
    exact ⟨fits_known (kinds.1 ▸ one) present.1,ih kinds.2 present.2⟩

theorem single_result {operand : Expression} {results : List EvidenceValue}
    (fit : List.Forall₂ (fun operand v => Fits operand.kind v) [operand] results) :
    ∃ v, results = [v] ∧ Fits operand.kind v := by
  cases fit with
  | cons one rest =>
    cases rest
    exact ⟨_,rfl,one⟩

theorem paired_results {left right : Expression} {results : List EvidenceValue}
    (fit : List.Forall₂ (fun operand v => Fits operand.kind v) [left,right] results) :
    ∃ v w, results = [v,w] ∧ Fits left.kind v ∧ Fits right.kind w := by
  cases fit with
  | cons one rest =>
    obtain ⟨w,rfl,two⟩ := single_result rest
    exact ⟨_,w,rfl,one,two⟩

-- With all operands there an operator has a value of the kind it was checked for.
theorem apply_known {operator : Operator} {operands : List Expression} {kind : EvidenceKind} {results : List EvidenceValue}
    (checks : Checks operator operands kind) (ordinary : operator ∉ [.if,.exists])
    (fit : List.Forall₂ (fun operand v => Fits operand.kind v) operands results)
    (present : ∀ v ∈ results, v.isMissing = false) : Finishes (applyOperator operator kind results) (Known kind) Excused := by
  have all : ¬results.any EvidenceValue.isMissing = true := by simpa using present
  cases checks with
  | connective connective booleans =>
    have known := known_members fit booleans present
    simp only [List.mem_cons,List.not_mem_nil,or_false] at connective
    rcases connective with rfl | rfl
    · simp only [applyOperator,if_neg all]
      exact finishes_bind (all_finishes known) fun value _ => boolean_known value
    · simp only [applyOperator,if_neg all]
      exact finishes_bind (any_finishes known) fun value _ => boolean_known value
  | negation boolean =>
    obtain ⟨v,rfl,one⟩ := single_result fit
    obtain ⟨value,_,read⟩ := boolean_read (fits_known (boolean ▸ one) (present v (by simp)))
    simp only [applyOperator,if_neg all]
    exact finishes_after read (boolean_known _)
  | equality equality =>
    obtain ⟨v,w,rfl,_,_⟩ := paired_results fit
    simp only [List.mem_cons,List.not_mem_nil,or_false] at equality
    rcases equality with rfl | rfl
    · simp only [applyOperator,if_neg all]
      exact boolean_known _
    · simp only [applyOperator,if_neg all]
      exact boolean_known _
  | ordering ordering comparable same =>
    obtain ⟨v,w,rfl,one,two⟩ := paired_results fit
    have ends := compare_finishes ordering comparable (fits_known one (present v (by simp)))
      (fits_known (same ▸ two) (present w (by simp)))
    simp only [List.mem_cons,List.not_mem_nil,or_false] at ordering
    rcases ordering with rfl | rfl | rfl | rfl
    all_goals
      simp only [applyOperator,if_neg all]
      exact finishes_bind ends fun value _ => boolean_known value
  | containment left right =>
    obtain ⟨v,w,rfl,one,two⟩ := paired_results fit
    obtain ⟨part,readLeft⟩ := string_read (fits_known (left ▸ one) (present v (by simp)))
    obtain ⟨whole,readRight⟩ := string_read (fits_known (right ▸ two) (present w (by simp)))
    simp only [applyOperator,if_neg all]
    exact finishes_after readLeft (finishes_after readRight (boolean_known _))
  | presence => simp at ordinary
  | fold fold decimals =>
    have known := known_members fit decimals present
    simp only [List.mem_cons,List.not_mem_nil,or_false] at fold
    rcases fold with rfl | rfl
    · simp only [applyOperator,if_neg all]
      exact finishes_bind (decimal_finishes known (.inl rfl)) fun _ _ => create_finishes rfl (by simp)
    · simp only [applyOperator,if_neg all]
      exact finishes_bind (decimal_finishes known (.inr (.inl rfl))) fun _ _ => create_finishes rfl (by simp)
  | pair pair left right =>
    obtain ⟨v,w,rfl,one,two⟩ := paired_results fit
    have known : ∀ r ∈ [v,w], Known .decimal r := by
      simp only [List.forall_mem_cons,List.not_mem_nil,false_implies,implies_true,and_true]
      exact ⟨fits_known (left ▸ one) (present v (by simp)),fits_known (right ▸ two) (present w (by simp))⟩
    simp only [List.mem_cons,List.not_mem_nil,or_false] at pair
    rcases pair with rfl | rfl
    · simp only [applyOperator,if_neg all]
      exact finishes_bind (decimal_finishes known (.inr (.inr ⟨.inl rfl,rfl⟩))) fun _ _ => create_finishes rfl (by simp)
    · simp only [applyOperator,if_neg all]
      exact finishes_bind (decimal_finishes known (.inr (.inr ⟨.inr rfl,rfl⟩))) fun _ _ => create_finishes rfl (by simp)
  | choice => simp at ordinary

theorem apply_missing {operator : Operator} {kind : EvidenceKind} {results : List EvidenceValue}
    (ordinary : operator ≠ .exists) (absent : results.any EvidenceValue.isMissing = true) :
    applyOperator operator kind results = EvidenceValue.missing kind := by
  cases operator <;> first | exact absurd rfl ordinary | simp only [applyOperator,absent,if_true]

-- An operator but if keeps the kinds it was checked for, and is missing only when an operand is.
theorem apply_finishes {operator : Operator} {operands : List Expression} {kind : EvidenceKind} {results : List EvidenceValue}
    (checks : Checks operator operands kind) (ordinary : operator ≠ .if)
    (fit : List.Forall₂ (fun operand v => Fits operand.kind v) operands results) :
    Finishes (applyOperator operator kind results)
      (fun v => Fits kind v ∧ (v.isMissing = true → ∃ r ∈ results, r.isMissing = true)) Excused := by
  by_cases presence : operator = .exists
  · subst presence
    obtain ⟨operand,rfl,rfl⟩ : ∃ operand, operands = [operand] ∧ kind = .boolean := by
      cases checks with
      | presence => exact ⟨_,rfl,rfl⟩
      | _ => simp_all
    obtain ⟨v,rfl,_⟩ := single_result fit
    exact finishes_imp (boolean_known (!v.isMissing)) fun v known => ⟨known_fits known,by simp [known.present]⟩
  by_cases present : ∀ v ∈ results, v.isMissing = false
  · refine finishes_imp (apply_known checks (by simp [ordinary,presence]) fit present) fun v known => ⟨known_fits known,?_⟩
    simp [known.present]
  · have absent : results.any EvidenceValue.isMissing = true := by simpa using present
    have typed : kind ≠ .null := by
      cases checks <;> first | exact absurd rfl ordinary | simp
    rw [apply_missing presence absent,missing_created typed]
    exact ⟨⟨rfl,by simp⟩,fun _ => by simpa using absent⟩

section Expressions
variable {values : List (String × EvidenceValue)}

-- Evidence as prepare_values leaves it: registered, of its kind, and there.
def Prepared (values : List (String × EvidenceValue)) : Prop :=
  ∀ name v, values.lookup name = some v → ∃ kind, kindFor name = .ok kind ∧ Known kind v

def nullError : PyError := ⟨.ruleEvaluationError,"missing evidence requires a non-null type and no value"⟩

-- The evaluation of an expression comes to an if of the NULL kind whose condition is missing.
inductive ReachesNullIf (values : List (String × EvidenceValue)) : Expression → Prop where
  | here : meaning values condition = .ok truth → truth.isMissing = true →
      ReachesNullIf values (.operation .if (condition :: yes :: no :: more) .null)
  | condition : ReachesNullIf values condition →
      ReachesNullIf values (.operation .if (condition :: yes :: no :: more) kind)
  | yes : meaning values condition = .ok ⟨.boolean,.boolean true,false⟩ → ReachesNullIf values yes →
      ReachesNullIf values (.operation .if (condition :: yes :: no :: more) kind)
  | no : meaning values condition = .ok ⟨.boolean,.boolean false,false⟩ → ReachesNullIf values no →
      ReachesNullIf values (.operation .if (condition :: yes :: no :: more) kind)
  | operand : operator ≠ .if → meanings values earlier = .ok results → ReachesNullIf values operand →
      ReachesNullIf values (.operation operator (earlier ++ operand :: later) kind)

theorem meanings_raised {earlier later : List Expression} {operand : Expression} {results : List EvidenceValue}
    {error : PyError} (before : meanings values earlier = .ok results) (raised : meaning values operand = .error error) :
    meanings values (earlier ++ operand :: later) = .error error := by
  induction earlier generalizing results with
  | nil =>
    rw [List.nil_append,meanings,raised]
    rfl
  | cons first rest ih =>
    simp only [meanings,bind_ok,pure_ok] at before
    obtain ⟨v,one,others,more,_⟩ := before
    rw [List.cons_append,meanings,one,ih more]
    rfl

theorem reached_raises {e : Expression} (reaches : ReachesNullIf values e) : meaning values e = .error nullError := by
  induction reaches with
  | here tested missing =>
    rw [meaning,tested]
    simp only [Bind.bind,Except.bind,missing,if_true]
    rfl
  | condition _ ih =>
    rw [meaning,ih]
    rfl
  | yes tested _ ih =>
    rw [meaning,tested]
    exact ih
  | no tested _ ih =>
    rw [meaning,tested]
    exact ih
  | operand ordinary before _ ih =>
    rw [meaning_operation ordinary,meanings_raised before ih]
    rfl

-- The value of a node, and what it takes for it to be missing.
structure Sound (values : List (String × EvidenceValue)) (e : Expression) (v : EvidenceValue) : Prop where
  fits : Fits e.kind v
  absent : v.isMissing = true → ∃ name kind, .path name kind ∈ e.nodes ∧ values.lookup name = none

def Stopped (values : List (String × EvidenceValue)) (e : Expression) (error : PyError) : Prop :=
  Excused error ∨ error = nullError ∧ ReachesNullIf values e

theorem registered_path {name : String} {kind : EvidenceKind} (registered : kindFor name = .ok kind) (v : EvidenceValue) :
    EvaluatedPath.create name v = .ok ⟨name,v⟩ := by
  have names : ∀ row ∈ FIELD_KINDS, row.1 ≠ "" ∧ row.1.utf8ByteSize ≤ MAX_IDENTIFIER_UTF8_BYTES := by decide
  have listed : ∃ kind, (name,kind) ∈ FIELD_KINDS := by
    unfold kindFor at registered
    cases found : FIELD_KINDS.lookup name with
    | none => simp [found] at registered
    | some kind =>
      obtain ⟨before,after,same,_⟩ := List.lookup_eq_some_iff.mp found
      exact ⟨kind,by rw [same]; simp⟩
  obtain ⟨kind,listed⟩ := listed
  obtain ⟨named,short⟩ := names _ listed
  simp only [EvaluatedPath.create,check_ok,raiseIf_ok,requireRuleEvidenceText,pure_ok,decide_eq_false_iff_not,if_true]
  exact ⟨named,by simpa using short,trivial⟩

theorem path_sound (prepared : Prepared values) {name : String} {kind : EvidenceKind}
    (registered : kindFor name = .ok kind) : ∃ v, meaning values (.path name kind) = .ok v ∧ Sound values (.path name kind) v := by
  rw [meaning,missing_created (registered_kind registered)]
  refine ⟨(values.lookup name).getD ⟨kind,.null,true⟩,?_,?_⟩
  · simp only [Bind.bind,Except.bind,registered_path registered]
    rfl
  cases found : values.lookup name with
  | none => exact ⟨⟨rfl,by simp⟩,fun _ => ⟨name,kind,node_self _,found⟩⟩
  | some v =>
    obtain ⟨kind',registered',known⟩ := prepared name v found
    rw [registered,Except.ok.injEq] at registered'
    subst registered'
    exact ⟨known_fits known,fun missing => by simp [known.present] at missing⟩

-- What the operands come to, or the first of them that comes to nothing.
theorem operands_end {operands : List Expression}
    (sound : ∀ operand ∈ operands, Finishes (meaning values operand) (Sound values operand) (Stopped values operand)) :
    Finishes (meanings values operands) (fun results => List.Forall₂ (Sound values) operands results) fun error =>
      Excused error ∨ error = nullError ∧ ∃ earlier operand later results, operands = earlier ++ operand :: later ∧
        meanings values earlier = .ok results ∧ ReachesNullIf values operand := by
  induction operands with
  | nil => exact .nil
  | cons operand rest ih =>
    obtain ⟨here,later⟩ := List.forall_mem_cons.mp sound
    rw [meanings]
    cases first : meaning values operand with
    | error error =>
      rcases finishes_raised here first with excused | ⟨null,reaches⟩
      · exact .inl excused
      · exact .inr ⟨null,[],operand,rest,[],rfl,rfl,reaches⟩
    | ok v =>
      have fits := finishes_returned here first
      refine finishes_after rfl (finishes_bind (finishes_mono (ih later) (fun _ results => results) ?_) fun others results =>
        List.Forall₂.cons fits results)
      intro error raised
      rcases raised with excused | ⟨null,earlier,stopped,after,results,split,before,reaches⟩
      · exact .inl excused
      · refine .inr ⟨null,operand :: earlier,stopped,after,v :: results,by rw [split]; rfl,?_,reaches⟩
        rw [meanings,first,before]
        rfl

theorem missing_below {operands : List Expression} {results : List EvidenceValue}
    (sound : List.Forall₂ (Sound values) operands results) (missing : ∃ r ∈ results, r.isMissing = true) :
    ∃ operand ∈ operands, ∃ name kind, .path name kind ∈ operand.nodes ∧ values.lookup name = none := by
  induction sound with
  | nil => simp at missing
  | @cons operand v operands results one _ ih =>
    obtain ⟨r,listed,absent⟩ := missing
    rcases List.mem_cons.mp listed with rfl | later
    · exact ⟨operand,by simp,one.absent absent⟩
    · obtain ⟨operand',below,rest⟩ := ih ⟨r,later,absent⟩
      exact ⟨operand',by simp [below],rest⟩

theorem operation_sound {operator : Operator} {operands : List Expression} {kind : EvidenceKind}
    (checks : Checks operator operands kind) (ordinary : operator ≠ .if)
    (sound : ∀ operand ∈ operands, Finishes (meaning values operand) (Sound values operand) (Stopped values operand)) :
    Finishes (meaning values (.operation operator operands kind)) (Sound values (.operation operator operands kind))
      (Stopped values (.operation operator operands kind)) := by
  rw [meaning_operation ordinary]
  refine finishes_bind (finishes_mono (operands_end sound) (fun _ results => results) ?_) ?_
  · intro error raised
    rcases raised with excused | ⟨null,earlier,operand,later,results,rfl,before,reaches⟩
    · exact .inl excused
    · exact .inr ⟨null,.operand ordinary before reaches⟩
  · intro results each
    refine finishes_mono (apply_finishes checks ordinary (each.imp fun _ _ sound => sound.fits)) ?_ fun _ => .inl
    intro v ⟨fits,missing⟩
    refine ⟨fits,fun absent => ?_⟩
    obtain ⟨operand,listed,name,kind',below,none⟩ := missing_below each (missing absent)
    exact ⟨name,kind',node_operand listed below,none⟩

theorem if_sound {condition yes no : Expression} {kind : EvidenceKind}
    (boolean : condition.kind = .boolean) (one : yes.kind = kind) (two : no.kind = kind)
    (sound : ∀ operand ∈ [condition,yes,no], Finishes (meaning values operand) (Sound values operand) (Stopped values operand)) :
    Finishes (meaning values (.operation .if [condition,yes,no] kind)) (Sound values (.operation .if [condition,yes,no] kind))
      (Stopped values (.operation .if [condition,yes,no] kind)) := by
  have test := sound condition (by simp)
  have branch : ∀ taken ∈ [yes,no], ∀ v, Sound values taken v → Sound values (.operation .if [condition,yes,no] kind) v := by
    intro taken listed v held
    obtain ⟨fits,absent⟩ := held
    have kinds : taken.kind = kind := by
      simp only [List.mem_cons,List.not_mem_nil,or_false] at listed
      rcases listed with rfl | rfl
      · exact one
      · exact two
    refine ⟨kinds ▸ fits,fun missing => ?_⟩
    obtain ⟨name,kind',below,none⟩ := absent missing
    exact ⟨name,kind',node_operand (List.mem_cons_of_mem _ listed) below,none⟩
  rw [meaning]
  refine finishes_bind (finishes_mono (finishes_noted test) (fun _ noted => noted) ?_) ?_
  · intro error raised
    rcases raised with excused | ⟨null,reaches⟩
    · exact .inl excused
    · exact .inr ⟨null,.condition reaches⟩
  intro truth held
  obtain ⟨tested,fits,absent⟩ := held
  cases missing : truth.isMissing with
  | true =>
    simp only [if_true]
    by_cases null : kind = .null
    · subst null
      exact .inr ⟨rfl,.here tested missing⟩
    · rw [missing_created null]
      refine ⟨⟨rfl,by simp⟩,fun _ => ?_⟩
      obtain ⟨name,kind',below,none⟩ := absent missing
      exact ⟨name,kind',node_operand List.mem_cons_self below,none⟩
  | false =>
    simp only [Bool.false_eq_true,if_false]
    obtain ⟨value,rfl,typed⟩ := known_value (fits_known (boolean ▸ fits) missing)
    cases value with
    | boolean taken =>
      cases taken with
      | true =>
        refine finishes_mono (sound yes (by simp)) (branch yes (by simp)) ?_
        intro error raised
        rcases raised with excused | ⟨null,reaches⟩
        · exact .inl excused
        · exact .inr ⟨null,.yes tested reaches⟩
      | false =>
        refine finishes_mono (sound no (by simp)) (branch no (by simp)) ?_
        intro error raised
        rcases raised with excused | ⟨null,reaches⟩
        · exact .inl excused
        · exact .inr ⟨null,.no tested reaches⟩
    | _ => cases typed

-- A typed expression comes to a value of its kind, or is stopped by something excused, or comes
-- to an if of the NULL kind.
theorem meaning_sound (prepared : Prepared values) {e : Expression} (typed : WellTyped e) :
    Finishes (meaning values e) (Sound values e) (Stopped values e) := by
  induction typed with
  | literal kinds timeless =>
    rw [meaning]
    refine finishes_mono (create_finishes kinds timeless) ?_ fun _ => .inl
    exact fun v known => ⟨known_fits known,fun missing => by simp [known.present] at missing⟩
  | path registered =>
    obtain ⟨v,means,sound⟩ := path_sound prepared registered
    rw [means]
    exact sound
  | @operation operands operator kind _ checked ih =>
    by_cases choice : operator = .if
    · subst choice
      cases operator_checks checked with
      | choice boolean one two => exact if_sound boolean one two ih
      | _ => simp_all
    · exact operation_sound (operator_checks checked) choice ih

end Expressions
end SwapMonitor.Rules
