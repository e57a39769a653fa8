import SwapMonitor.Sizing.Base
import SwapMonitor.Domain.DecimalTexts

namespace SwapMonitor.Sizing
open Arithmetic

-- A weight that is a whole number of basis points.
def Convertible (weight : Decimal) : Prop := ∃ points : Nat, 1 ≤ points ∧ points ≤ 10000 ∧ weight.toRat * 10000 = points

def Named (stageId : String) : Prop := blank stageId = false ∧ (Rules.strip stageId).utf8ByteSize ≤ 256

def Readable (weight : Decimal) : Prop := digitCount weight.coefficient ≤ INT_MAX_STR_DIGITS

section Weights
variable {stageId : String} {weight : Decimal} {stage : SizingStage}

theorem points_exact (stage : SizingStage) : stage.allocationWeight.toRat * 10000 = stage.allocationBasisPoints := by
  rw [toRat_parts]
  simp only [SizingStage.allocationWeight,Bool.false_eq_true,if_false,one_mul]
  rw [zpow_neg]
  norm_num
  ring

-- The digits that are left when the zeros at the end are taken off, and how many basis points they are.
theorem convertible_parts {points : Nat} (some : 1 ≤ points) (value : weight.toRat * 10000 = points) :
    -4 ≤ weight.exponent + (stripZeros (digitCount weight.coefficient) weight.coefficient).2 ∧
      points = (stripZeros (digitCount weight.coefficient) weight.coefficient).1 *
        10 ^ (weight.exponent + (stripZeros (digitCount weight.coefficient) weight.coefficient).2 + 4).toNat := by
  have positive : 0 < weight.toRat := by
    have many : (1 : ℚ) ≤ points := by exact_mod_cast some
    linarith
  have unsigned : weight.signed = weight.coefficient ∧ 0 < weight.coefficient := by
    have signed := (toRat_pos weight).mp positive
    unfold Decimal.signed at signed ⊢
    split at signed
    · omega
    · rename_i plain
      rw [if_neg plain]
      omega
  have digits := strip_value (digitCount weight.coefficient) weight.coefficient
  have last := strip_last unsigned.2 (lt_digits weight.coefficient)
  generalize stripZeros (digitCount weight.coefficient) weight.coefficient = stripped at digits last
  have scaled : (stripped.1 : ℚ) * (10 : ℚ) ^ (weight.exponent + stripped.2 + 4) = points := by
    rw [← value,toRat_signed,unsigned.1,← digits]
    push_cast
    rw [zpow_add₀ (by norm_num : (10 : ℚ) ≠ 0),zpow_add₀ (by norm_num : (10 : ℚ) ≠ 0),zpow_natCast]
    norm_num
    ring
  rcases le_or_gt (-4) (weight.exponent + stripped.2) with fine | coarse
  · refine ⟨fine,?_⟩
    have shift : (((weight.exponent + stripped.2 + 4).toNat : Nat) : Int) = weight.exponent + stripped.2 + 4 := Int.toNat_of_nonneg (by omega)
    rw [← shift,zpow_natCast] at scaled
    exact_mod_cast scaled.symm
  · -- a digit other than zero would stand after the fourth place
    exfalso
    obtain ⟨k,places⟩ : ∃ k : Nat, weight.exponent + stripped.2 + 4 = -((k : Int) + 1) :=
      ⟨(-(weight.exponent + stripped.2 + 4) - 1).toNat,by omega⟩
    rw [places,zpow_neg,← div_eq_mul_inv,div_eq_iff (by positivity)] at scaled
    have whole : stripped.1 = points * 10 ^ (k + 1) := by exact_mod_cast scaled
    rw [pow_succ,← Nat.mul_assoc] at whole
    omega

theorem stage_created : SizingStage.create stageId weight = .ok stage ↔ Named stageId ∧ Readable weight ∧
    weight.toRat * 10000 = stage.allocationBasisPoints ∧ stage.stageId = Rules.strip stageId := by
  constructor
  · intro created
    have kept := stage_weight created
    unfold SizingStage.create at created
    split at created
    · cases created
    · rename_i named
      simp only [bind_ok,raiseIf_ok,exists_const,decide_eq_false_iff_not,not_lt] at created
      obtain ⟨short,_,readable,_,made⟩ := created
      split at made
      · cases made
        refine ⟨⟨by simpa using named,short⟩,readable,?_,rfl⟩
        rw [← kept,points_exact]
      · cases made
  · intro held
    obtain ⟨⟨named,short⟩,readable,value,own⟩ := held
    obtain ⟨some,most⟩ := stage.within
    obtain ⟨fine,points⟩ := convertible_parts some value
    have least : (1 : ℚ) ≤ stage.allocationBasisPoints := by exact_mod_cast some
    have highest : (stage.allocationBasisPoints : ℚ) ≤ 10000 := by exact_mod_cast most
    unfold SizingStage.create
    rw [dif_neg (by simpa using named)]
    simp only [bind_ok,raiseIf_ok,exists_const,decide_eq_false_iff_not,not_lt,Bool.not_eq_false',decide_eq_true_eq]
    refine ⟨short,⟨by linarith,by linarith⟩,readable,fine,?_⟩
    rw [dif_pos (by rw [← points]; exact stage.within),pure_ok]
    cases stage
    simp only [SizingStage.mk.injEq]
    exact ⟨own.symm,points.symm⟩

-- What the constructor promises of a weight.
structure ConvertsExactly (stageId : String) (weight : Decimal) : Prop where
  accepts : (∃ stage, SizingStage.create stageId weight = .ok stage) ↔ Named stageId ∧ Convertible weight
  points : ∀ stage, SizingStage.create stageId weight = .ok stage → weight.toRat * 10000 = stage.allocationBasisPoints
  view : ∀ stage, SizingStage.create stageId weight = .ok stage → stage.allocationWeight.toRat = weight.toRat

-- It keeps the promise unless the digits of a weight that it should take are more than int() reads.
theorem weights_exact (stageId : String) (weight : Decimal) :
    ConvertsExactly stageId weight ↔ (Named stageId → Convertible weight → Readable weight) := by
  constructor
  · intro exact named convertible
    obtain ⟨stage,created⟩ := exact.accepts.mpr ⟨named,convertible⟩
    exact (stage_created.mp created).2.1
  · intro reads
    refine ⟨?_,fun stage created => (stage_created.mp created).2.2.1,fun stage created => stage_weight created⟩
    constructor
    · intro ⟨stage,created⟩
      obtain ⟨named,_,value,_⟩ := stage_created.mp created
      exact ⟨named,stage.allocationBasisPoints,stage.within.1,stage.within.2,value⟩
    · intro ⟨named,points,least,most,value⟩
      have kept : blank (Rules.strip stageId) = false := strip_named (by rw [named.1]; decide)
      exact ⟨⟨Rules.strip stageId,points,kept,⟨least,most⟩⟩,stage_created.mpr ⟨named,reads named ⟨points,least,most,value⟩,value,rfl⟩⟩

end Weights

-- One, with four thousand three hundred zeros after the decimal point.
def longOne : Decimal := ⟨false,10 ^ 4300,-4300⟩

theorem long_digits : digitCount longOne.coefficient = 4301 := by
  have counted := digits_mul_pow (n := 1) (by decide) 4300
  rw [Nat.one_mul] at counted
  exact counted

-- The weight is one and is refused, though its coefficient and exponent could be normalised.
theorem long_weight_refused : ¬ConvertsExactly "first" longOne := by
  intro exact
  have one : longOne.toRat = 1 := by
    rw [toRat_parts]
    simp only [longOne,Bool.false_eq_true,if_false,one_mul]
    rw [zpow_neg,Nat.cast_pow]
    exact mul_inv_cancel₀ (by positivity)
  have named : Named "first" := ⟨by decide,by decide⟩
  have converts : Convertible longOne := ⟨10000,by decide,by decide,by rw [one]; norm_num⟩
  obtain ⟨stage,created⟩ := exact.accepts.mpr ⟨named,converts⟩
  have readable := (stage_created.mp created).2.1
  rw [Readable,long_digits] at readable
  exact absurd readable (by decide)

end SwapMonitor.Sizing
