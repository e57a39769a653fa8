import SwapMonitor.Sizing.Monotonicity

namespace SwapMonitor.Sizing
open Arithmetic Exceptions

-- Two amounts of one exponent, neither below nothing, the first no more than the second.
structure Below (small large : Decimal) : Prop where
  nonneg : 0 ≤ small.signed
  within : small.signed ≤ large.signed
  exponent : small.exponent = large.exponent

variable {small large small' large' : Decimal} {a b exponent : Int} {fieldName : String}

theorem below_refl (nonneg : 0 ≤ large.signed) : Below large large := ⟨nonneg,le_refl _,rfl⟩

theorem below_coefficient (below : Below small large) : small.coefficient ≤ large.coefficient := by
  have least := below.nonneg
  have most := below.within
  rw [← natAbs_signed small,← natAbs_signed large]
  omega

theorem digits_mono {m n : Nat} (order : m ≤ n) : digitCount m ≤ digitCount n :=
  (digits_le (digits_pos n)).mpr (order.trans_lt (lt_digits n))

theorem digits_less (nonneg : 0 ≤ a) (order : a ≤ b) : digitCount a.natAbs ≤ digitCount b.natAbs :=
  digits_mono (by omega)

-- A limit that the larger amount keeps is one the smaller keeps.
theorem limit_less {exceeded exceeded' : Bool} {measure measure' : String} (kept : exceeded = true → exceeded' = true) :
    Dominated (fun _ _ => True) (limitIf exceeded measure) (limitIf exceeded' measure') := by
  intro _ returned
  refine ⟨(),?_,trivial⟩
  apply (raiseIf_ok _ _ _ ()).mpr
  rw [Bool.eq_false_iff]
  intro exceeds
  exact Bool.false_ne_true (((raiseIf_ok _ _ _ _).mp returned).symm.trans (kept exceeds))

theorem digits_limit_less {m n : Nat} {measure : String} (order : m ≤ n) : Dominated (fun _ _ => True)
    (limitIf (decide (MAX_ROUNDING_DECIMAL_DIGITS < m)) measure) (limitIf (decide (MAX_ROUNDING_DECIMAL_DIGITS < n)) measure) :=
  limit_less fun exceeds => decide_eq_true ((of_decide_eq_true exceeds).trans_le order)

theorem rounding_decimal_less (below : Below small large) : Dominated (fun _ _ => True)
    (validateRoundingDecimal small fieldName) (validateRoundingDecimal large fieldName) := by
  unfold validateRoundingDecimal
  rw [below.exponent]
  apply dominated_bind (digits_limit_less (digits_mono (below_coefficient below)))
  intro _ _ _ _ _
  exact dominated_check

theorem parts_less (below : Below small large) :
    Dominated (fun p q => p = (small.signed,small.exponent) ∧ q = (large.signed,large.exponent))
      (decimalCoefficientAndExponent small fieldName) (decimalCoefficientAndExponent large fieldName) := by
  unfold decimalCoefficientAndExponent
  apply dominated_bind (rounding_decimal_less below)
  intro _ _ _ _ _
  exact dominated_pure ⟨rfl,rfl⟩

theorem coefficient_less (nonneg : 0 ≤ a) (order : a ≤ b) :
    Dominated Below (decimalFromCoefficient a exponent) (decimalFromCoefficient b exponent) := by
  unfold decimalFromCoefficient
  apply dominated_bind dominated_check
  intro _ _ _ _ _
  apply dominated_bind (digits_limit_less (digits_less nonneg order))
  intro _ _ _ _ _
  exact dominated_pure ⟨by rwa [signed_of],by rwa [signed_of,signed_of],rfl⟩

theorem scaled_less {scale : Nat} (nonneg : 0 ≤ a) (order : a ≤ b) : Dominated (fun _ _ => True)
    (validateScaledCoefficient a scale fieldName) (validateScaledCoefficient b scale fieldName) := by
  unfold validateScaledCoefficient
  apply dominated_bind dominated_check
  intro _ _ _ _ _
  exact digits_limit_less (Nat.add_le_add_right (digits_less nonneg order) scale)

theorem add_less (left : Below small large) (right : Below small' large') :
    Dominated Below (addDecimals small small') (addDecimals large large') := by
  unfold addDecimals combineDecimals
  apply dominated_bind (parts_less left)
  intro _ _ ⟨smallParts,largeParts⟩ _ _
  subst smallParts largeParts
  apply dominated_bind (parts_less right)
  intro _ _ ⟨smallParts,largeParts⟩ _ _
  subst smallParts largeParts
  dsimp only
  rw [left.exponent,right.exponent]
  apply dominated_bind (scaled_less left.nonneg left.within)
  intro _ _ _ _ _
  apply dominated_bind (scaled_less right.nonneg right.within)
  intro _ _ _ _ _
  have power : ∀ k : Nat, (0 : Int) ≤ 10 ^ k := fun k => by positivity
  apply coefficient_less
  · exact add_nonneg (mul_nonneg left.nonneg (power _)) (mul_nonneg right.nonneg (power _))
  · exact add_le_add (mul_le_mul_of_nonneg_right left.within (power _)) (mul_le_mul_of_nonneg_right right.within (power _))

theorem multiply_less (left : Below small large) (right : Below small' large') :
    Dominated Below (multiplyDecimals small small') (multiplyDecimals large large') := by
  unfold multiplyDecimals
  apply dominated_bind (parts_less left)
  intro _ _ ⟨smallParts,largeParts⟩ _ _
  subst smallParts largeParts
  apply dominated_bind (parts_less right)
  intro _ _ ⟨smallParts,largeParts⟩ _ _
  subst smallParts largeParts
  dsimp only
  rw [left.exponent,right.exponent]
  apply dominated_bind dominated_check
  intro _ _ _ _ _
  apply dominated_bind (digits_limit_less
    (Nat.add_le_add (digits_less left.nonneg left.within) (digits_less right.nonneg right.within)))
  intro _ _ _ _ _
  exact coefficient_less (mul_nonneg left.nonneg right.nonneg)
    (mul_le_mul left.within right.within right.nonneg (left.nonneg.trans left.within))

theorem ratio_less {denominator denominatorExponent : Int} {numeratorName denominatorName : String}
    (nonneg : 0 ≤ a) (order : a ≤ b) :
    Dominated (fun p q => 0 ≤ p.1 ∧ p.1 ≤ q.1 ∧ p.2 = q.2)
      (scaledRatio a exponent denominator denominatorExponent numeratorName denominatorName)
      (scaledRatio b exponent denominator denominatorExponent numeratorName denominatorName) := by
  have power : ∀ k : Nat, (0 : Int) ≤ 10 ^ k := fun k => by positivity
  unfold scaledRatio
  apply dominated_bind dominated_check
  intro _ _ _ _ _
  split
  · apply dominated_bind (scaled_less nonneg order)
    intro _ _ _ _ _
    exact dominated_pure ⟨mul_nonneg nonneg (power _),mul_le_mul_of_nonneg_right order (power _),rfl⟩
  · apply dominated_bind dominated_check
    intro _ _ _ _ _
    exact dominated_pure ⟨nonneg,order,rfl⟩

theorem quantum_ratio_less {quantum : Decimal} (below : Below small large) :
    Dominated (fun p q => 0 ≤ p.1 ∧ p.1 ≤ q.1 ∧ p.2 = q.2) (quantumRatio small quantum) (quantumRatio large quantum) := by
  unfold quantumRatio
  apply dominated_bind (parts_less below)
  intro _ _ ⟨smallParts,largeParts⟩ _ _
  subst smallParts largeParts
  dsimp only
  rw [below.exponent]
  apply dominated_bind (dominated_same fun _ _ => rfl)
  intro parts _ same _ _
  subst same
  apply dominated_bind (ratio_less below.nonneg below.within)
  intro p q ⟨nonneg,order,same⟩ _ _
  exact dominated_pure ⟨nonneg,order,by rw [same]⟩

theorem ratio_rounded {numerator numerator' denominator : Int} {mode : RoundingMode} (positive : 0 < denominator)
    (nonneg : 0 ≤ numerator) (order : numerator ≤ numerator') :
    0 ≤ roundRatio numerator denominator mode ∧ roundRatio numerator denominator mode ≤ roundRatio numerator' denominator mode := by
  have divisor : (0 : ℚ) < denominator := by exact_mod_cast positive
  have quotients : (numerator : ℚ) / denominator ≤ numerator' / denominator :=
    div_le_div_of_nonneg_right (by exact_mod_cast order) divisor.le
  have least : ((0 : Int) : ℚ) ≤ (numerator : ℚ) / denominator := by
    rw [Int.cast_zero]
    exact div_nonneg (by exact_mod_cast nonneg) divisor.le
  rw [round_nearest positive,round_nearest positive]
  exact ⟨apply_above least,nearest_mono mode quotients⟩

theorem money_less {policy : DecimalRoundingPolicy} (below : Below small large) :
    Dominated Below (policy.money small) (policy.money large) := by
  have quantum := quantum_pos policy
  have signed := (toRat_pos policy.moneyQuantum).mp quantum
  unfold DecimalRoundingPolicy.money roundToQuantum
  apply dominated_bind (quantum_ratio_less below)
  intro ⟨p,p'⟩ ⟨q,denominator,coefficient,exponent⟩ ⟨nonneg,order,same⟩ _ ran
  subst same
  obtain ⟨ratio,parts⟩ := finishes_returned (quantum_ratio_finishes quantum) ran
  cases parts
  obtain ⟨counted,fewer⟩ := ratio_rounded ratio.positive nonneg order
  exact coefficient_less (mul_nonneg counted signed.le) (mul_le_mul_of_nonneg_right fewer signed.le)

theorem nonnegative_less (below : Below small large) :
    Dominated (fun _ _ => True) (requireNonnegative small fieldName) (requireNonnegative large fieldName) :=
  fun _ _ => ⟨(),nonnegative_passes ((toRat_nonneg small).mpr below.nonneg),trivial⟩

theorem positive_returned {value : Decimal} {u : Unit} (passed : requirePositive value fieldName = .ok u) : 0 < value.toRat := by
  simp only [requirePositive,requireNonnegative,bind_ok,raiseIf_ok,decide_eq_false_iff_not,not_lt,exists_const] at passed
  obtain ⟨nonneg,counted⟩ := passed
  exact lt_of_le_of_ne nonneg fun zero => counted ((toRat_zero value).mp zero.symm)

section Purchases
variable {configuration : SizingConfiguration} {price : Decimal}

-- A smaller purchase at the same price is costed wherever a larger one is.
theorem cost_less (below : Below small large) :
    Dominated (fun cost cost' => Below cost.totalCash cost'.totalCash)
      (purchaseCost configuration price small) (purchaseCost configuration price large) := by
  have slippageRate := below_refl ((toRat_nonneg _).mp (slippage_rates configuration.slippageProfile).1.nonneg)
  have feeRate := below_refl ((toRat_nonneg _).mp (fee_rates configuration.feeTaxProfile).1.nonneg)
  unfold purchaseCost calculatePurchaseCost
  apply dominated_bind (nonnegative_less below)
  intro _ _ _ _ _
  apply dominated_bind dominated_check
  intro _ _ _ _ passed
  have priced := below_refl ((toRat_pos price).mp (positive_returned passed)).le
  apply dominated_bind (multiply_less below priced)
  intro _ _ value _ _
  apply dominated_bind (money_less value)
  intro _ _ gross _ _
  apply dominated_bind (multiply_less gross slippageRate)
  intro _ _ value _ _
  apply dominated_bind (money_less value)
  intro _ _ slippage _ _
  apply dominated_bind (add_less gross slippage)
  intro _ _ sum _ _
  apply dominated_bind (multiply_less sum feeRate)
  intro _ _ value _ _
  apply dominated_bind (money_less value)
  intro _ _ fee _ _
  apply dominated_bind (add_less gross slippage)
  intro _ _ sum _ _
  apply dominated_bind (add_less sum fee)
  intro _ _ sum _ _
  apply dominated_bind (money_less sum)
  intro _ _ total _ _
  exact dominated_pure total

theorem purchases_less {less more : List Decimal} (each : List.Forall₂ Below less more) (below : Below small large) :
    Dominated Below (addPurchases configuration price less small) (addPurchases configuration price more large) := by
  induction each generalizing small large with
  | nil => exact dominated_pure below
  | cons first _ ih =>
    unfold addPurchases
    apply dominated_bind (cost_less first)
    intro _ _ cost _ _
    apply dominated_bind (add_less below cost)
    intro _ _ sum _ _
    exact ih sum

theorem total_less {less more : List Decimal} (each : List.Forall₂ Below less more) :
    Dominated Below (totalCash configuration price less) (totalCash configuration price more) :=
  purchases_less each (below_refl ((toRat_nonneg _).mp (configuration_accepted configuration).reserveNonneg))

end Purchases

end SwapMonitor.Sizing
