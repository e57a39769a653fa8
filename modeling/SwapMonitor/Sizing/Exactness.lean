import SwapMonitor.Sizing.Costs
import SwapMonitor.Arithmetic.Grid
import SwapMonitor.Rules.Causes

namespace SwapMonitor.Sizing
open Arithmetic Exceptions

-- What a Decimal of too many digits or of too large an exponent raises.
def ResourceLimit (error : PyError) : Prop :=
  error.kind = .costError ∧ ∃ measure, error.message = measure ++ " exceeds the rounding resource limit"

theorem limit_finishes {exceeded : Bool} {measure : String} :
    Finishes (limitIf exceeded measure) (fun _ => exceeded = false) ResourceLimit := by
  cases exceeded with
  | false => rfl
  | true => exact ⟨rfl,measure,rfl⟩

theorem rounding_decimal_finishes {value : Decimal} {fieldName : String} :
    Finishes (validateRoundingDecimal value fieldName) (fun _ => True) ResourceLimit := by
  unfold validateRoundingDecimal
  apply finishes_bind limit_finishes
  intro _ _
  exact finishes_imp limit_finishes fun _ _ => trivial

theorem parts_finishes {value : Decimal} {fieldName : String} : Finishes (decimalCoefficientAndExponent value fieldName)
    (fun parts => parts = (value.signed,value.exponent)) ResourceLimit := by
  unfold decimalCoefficientAndExponent
  apply finishes_bind rounding_decimal_finishes
  intro _ _
  exact finishes_pure.mpr rfl

theorem coefficient_finishes {coefficient exponent : Int} : Finishes (decimalFromCoefficient coefficient exponent)
    (fun value => value = Decimal.ofSigned coefficient exponent) ResourceLimit := by
  unfold decimalFromCoefficient
  apply finishes_bind limit_finishes
  intro _ _
  apply finishes_bind limit_finishes
  intro _ _
  exact finishes_pure.mpr rfl

theorem scaled_finishes {coefficient : Int} {scale : Nat} {fieldName : String} :
    Finishes (validateScaledCoefficient coefficient scale fieldName) (fun _ => True) ResourceLimit := by
  unfold validateScaledCoefficient
  apply finishes_bind limit_finishes
  intro _ _
  exact finishes_imp limit_finishes fun _ _ => trivial

-- An operation on coefficients of one exponent that is the same operation on their values.
theorem combine_finishes {combine : Int → Int → Int} {operation : ℚ → ℚ → ℚ} {left right : Decimal}
    (scales : ∀ (a b : Int) (power : ℚ), (combine a b : ℚ) * power = operation (a * power) (b * power)) :
    Finishes (combineDecimals combine left right)
      (fun value => value.toRat = operation left.toRat right.toRat) ResourceLimit := by
  unfold combineDecimals
  apply finishes_bind parts_finishes
  intro _ leftParts
  subst leftParts
  apply finishes_bind parts_finishes
  intro _ rightParts
  subst rightParts
  apply finishes_bind scaled_finishes
  intro _ _
  apply finishes_bind scaled_finishes
  intro _ _
  apply finishes_imp coefficient_finishes
  intro value made
  rw [made,toRat_of,scales,← toRat_shift left (min_le_left ..),← toRat_shift right (min_le_right ..)]

theorem add_finishes {left right : Decimal} :
    Finishes (addDecimals left right) (fun sum => sum.toRat = left.toRat + right.toRat) ResourceLimit :=
  combine_finishes fun a b power => by push_cast; ring

theorem subtract_finishes {left right : Decimal} :
    Finishes (subtractDecimals left right) (fun difference => difference.toRat = left.toRat - right.toRat) ResourceLimit :=
  combine_finishes fun a b power => by push_cast; ring

theorem multiply_finishes {left right : Decimal} :
    Finishes (multiplyDecimals left right) (fun product => product.toRat = left.toRat * right.toRat) ResourceLimit := by
  unfold multiplyDecimals
  apply finishes_bind parts_finishes
  intro _ leftParts
  subst leftParts
  apply finishes_bind parts_finishes
  intro _ rightParts
  subst rightParts
  apply finishes_bind limit_finishes
  intro _ _
  apply finishes_bind limit_finishes
  intro _ _
  apply finishes_imp coefficient_finishes
  intro value made
  rw [made,toRat_of,toRat_signed left,toRat_signed right,zpow_add₀ (by norm_num : (10 : ℚ) ≠ 0)]
  push_cast
  ring

-- What is divided where two decimals are.
structure RatioOf (numerator denominator : ℚ) (parts : Int × Int) : Prop where
  positive : 0 < parts.2
  value : (parts.1 : ℚ) / parts.2 = numerator / denominator

theorem ratio_finishes {numerator numeratorExponent denominator denominatorExponent : Int} {numeratorName denominatorName : String}
    (positive : 0 < denominator) :
    Finishes (scaledRatio numerator numeratorExponent denominator denominatorExponent numeratorName denominatorName)
      (RatioOf (numerator * (10 : ℚ) ^ numeratorExponent) (denominator * (10 : ℚ) ^ denominatorExponent)) ResourceLimit := by
  have power : ∀ k : Nat, (0 : ℚ) < (10 : ℚ) ^ k := fun k => by positivity
  unfold scaledRatio
  apply finishes_bind limit_finishes
  intro _ _
  split
  · rename_i above
    apply finishes_bind scaled_finishes
    intro _ _
    apply finishes_pure.mpr
    refine ⟨positive,?_⟩
    rw [ten_pow_shift (by omega : denominatorExponent ≤ numeratorExponent)]
    push_cast
    rw [← mul_assoc,mul_div_mul_right _ _ (ten_pow_pos _).ne']
  · rename_i below
    apply finishes_bind scaled_finishes
    intro _ _
    apply finishes_pure.mpr
    refine ⟨by positivity,?_⟩
    rw [ten_pow_shift (by omega : numeratorExponent ≤ denominatorExponent)]
    push_cast
    rw [← mul_assoc,mul_div_mul_right _ _ (ten_pow_pos _).ne',neg_sub]

theorem fdiv_floor {numerator denominator : Int} (positive : 0 < denominator) :
    numerator.fdiv denominator = ⌊(numerator : ℚ) / denominator⌋ := by
  obtain ⟨d,rfl⟩ := Int.eq_ofNat_of_zero_le positive.le
  rw [Int.fdiv_eq_ediv_of_nonneg _ positive.le]
  exact (Rat.floor_intCast_div_natCast numerator d).symm

theorem floor_divide_finishes {numerator denominator : Decimal} (positive : 0 < denominator.toRat) :
    Finishes (floorDivideDecimals numerator denominator)
      (fun quotient => quotient = ⌊numerator.toRat / denominator.toRat⌋) ResourceLimit := by
  unfold floorDivideDecimals
  apply finishes_bind parts_finishes
  intro _ numeratorParts
  subst numeratorParts
  apply finishes_bind parts_finishes
  intro _ denominatorParts
  subst denominatorParts
  have signed := (toRat_pos denominator).mp positive
  apply finishes_after ((raiseIf_ok _ _ _ ()).mpr (decide_eq_false (not_le.mpr signed)))
  apply finishes_bind (ratio_finishes signed)
  intro parts ratio
  apply finishes_pure.mpr
  rw [fdiv_floor ratio.positive,ratio.value,← toRat_signed,← toRat_signed]

-- The whole number a mode makes of a fraction.
def RoundingMode.nearest (mode : RoundingMode) (x : ℚ) : Int :=
  if mode = .down then if 0 ≤ x ∨ x = ⌊x⌋ then ⌊x⌋ else ⌊x⌋ + 1
  else if 2 * (x - ⌊x⌋) < 1 then ⌊x⌋
  else if 1 < 2 * (x - ⌊x⌋) then ⌊x⌋ + 1
  else if mode = .halfUp then if 0 ≤ x then ⌊x⌋ + 1 else ⌊x⌋
  else if ⌊x⌋ % 2 = 0 then ⌊x⌋ else ⌊x⌋ + 1

theorem nearest_floor (mode : RoundingMode) (x : ℚ) :
    mode.nearest x = ⌊x⌋ ∨ mode.nearest x = ⌊x⌋ + 1 ∧ x ≠ ⌊x⌋ := by
  unfold RoundingMode.nearest
  by_cases whole : x = ⌊x⌋
  · have exact : x - ⌊x⌋ = 0 := sub_eq_zero.mpr whole
    left
    rw [exact]
    simp [← whole]
  · split
    · split
      · exact .inl rfl
      · exact .inr ⟨rfl,whole⟩
    · repeat' split
      all_goals first | exact .inl rfl | exact .inr ⟨rfl,whole⟩

def RoundingMode.rounding (mode : RoundingMode) : Rounding ℚ where
  apply := mode.nearest
  lower x := by
    rcases nearest_floor mode x with same | ⟨next,_⟩ <;> omega
  upper x := by
    rcases nearest_floor mode x with same | ⟨next,fraction⟩
    · rw [same]
      exact Int.floor_le_ceil x
    · rw [next]
      apply Int.add_one_le_of_lt
      apply Int.lt_ceil.mpr
      exact lt_of_le_of_ne (Int.floor_le x) (Ne.symm fraction)

theorem round_nearest {numerator denominator : Int} {mode : RoundingMode} (positive : 0 < denominator) :
    roundRatio numerator denominator mode = mode.rounding.apply ((numerator : ℚ) / denominator) := by
  have divisor : (0 : ℚ) < denominator := by exact_mod_cast positive
  have sign : 0 ≤ (numerator : ℚ) / denominator ↔ 0 ≤ numerator := by
    rw [le_div_iff₀ divisor,zero_mul]
    exact Int.cast_nonneg_iff
  change _ = mode.nearest _
  unfold roundRatio RoundingMode.nearest
  rw [fdiv_floor positive]
  generalize ⌊(numerator : ℚ) / denominator⌋ = floor
  have whole : (numerator : ℚ) / denominator = floor ↔ numerator - floor * denominator = 0 := by
    rw [div_eq_iff divisor.ne',sub_eq_zero]
    exact_mod_cast Iff.rfl
  have less : 2 * ((numerator : ℚ) / denominator - floor) < 1 ↔ (numerator - floor * denominator) * 2 - denominator < 0 := by
    rw [← mul_lt_mul_iff_left₀ divisor,mul_assoc,sub_mul,div_mul_cancel₀ _ divisor.ne',one_mul,sub_neg,mul_comm 2]
    exact_mod_cast Iff.rfl
  have more : 1 < 2 * ((numerator : ℚ) / denominator - floor) ↔ 0 < (numerator - floor * denominator) * 2 - denominator := by
    rw [← mul_lt_mul_iff_left₀ divisor,mul_assoc,sub_mul,div_mul_cancel₀ _ divisor.ne',one_mul,sub_pos,mul_comm 2]
    exact_mod_cast Iff.rfl
  simp only [sign,whole,less,more]

theorem quantum_ratio_finishes {value quantum : Decimal} (positive : 0 < quantum.toRat) :
    Finishes (quantumRatio value quantum) (fun parts => RatioOf value.toRat quantum.toRat (parts.1,parts.2.1) ∧
      parts.2.2 = (quantum.signed,quantum.exponent)) ResourceLimit := by
  unfold quantumRatio
  apply finishes_bind parts_finishes
  intro _ valueParts
  subst valueParts
  apply finishes_bind parts_finishes
  intro _ quantumParts
  subst quantumParts
  apply finishes_bind (ratio_finishes ((toRat_pos quantum).mp positive))
  intro parts ratio
  rw [← toRat_signed,← toRat_signed] at ratio
  exact finishes_pure.mpr ⟨ratio,rfl⟩

-- As many quanta as were counted.
theorem increments_finishes {quantum : Decimal} {increments : Int} :
    Finishes (decimalFromCoefficient (increments * quantum.signed) quantum.exponent)
      (fun value => value.toRat = increments * quantum.toRat) ResourceLimit := by
  apply finishes_imp coefficient_finishes
  intro value made
  rw [made,toRat_of,toRat_signed quantum]
  push_cast
  ring

theorem floor_to_finishes {value quantum : Decimal} (positive : 0 < quantum.toRat) :
    Finishes (floorToQuantum value quantum)
      (fun floored => floored.toRat = Rounding.floor.onto quantum.toRat value.toRat) ResourceLimit := by
  unfold floorToQuantum
  apply finishes_bind (quantum_ratio_finishes positive)
  intro ⟨numerator,denominator,coefficient,exponent⟩ ⟨ratio,same⟩
  cases same
  apply finishes_imp increments_finishes
  intro floored counted
  rw [counted,fdiv_floor ratio.positive,ratio.value]
  rfl

theorem round_to_finishes {value quantum : Decimal} {mode : RoundingMode} (positive : 0 < quantum.toRat) :
    Finishes (roundToQuantum value quantum mode)
      (fun rounded => rounded.toRat = mode.rounding.onto quantum.toRat value.toRat) ResourceLimit := by
  unfold roundToQuantum
  apply finishes_bind (quantum_ratio_finishes positive)
  intro ⟨numerator,denominator,coefficient,exponent⟩ ⟨ratio,same⟩
  cases same
  apply finishes_imp increments_finishes
  intro rounded counted
  rw [counted,round_nearest ratio.positive,ratio.value]
  rfl

end SwapMonitor.Sizing
